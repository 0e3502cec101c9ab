import Multiplex.Frame.Codec
import Multiplex.Method.Arguments

/-! One line about each frame of a capture. -/

namespace Multiplex

structure FrameRecord where
  index : Nat
  channel : ChannelId
  kind : FrameKind
  size : Nat
  method : Option MethodId
  detail : String
  deriving DecidableEq

namespace FrameRecord

/-- What a method says. Closes and returns are told with their reasons, or with what is wrong with
their arguments. -/
def describeMethod (m : Method) : String :=
  if m.isClose then
    match CloseReason.decode m.args with
    | .ok reason => s!"{m.id.label} {reason.label}"
    | .error e => s!"{m.id.label} <{e.message}>"
  else if m.id = .basicReturn then
    match ReturnReason.decode m.args with
    | .ok r =>
      s!"{m.id.label} {r.code} {r.text} exchange='{r.exchange}' routing_key='{r.routingKey}'"
    | .error e => s!"{m.id.label} <{e.message}>"
  else if m.args.isEmpty then m.id.label
  else s!"{m.id.label} ({m.args.length} arg bytes)"

def describe (f : Frame) : String :=
  match f.payload with
  | .method m => describeMethod m
  | .header h => s!"class={h.classId} body_size={h.bodySize} properties={h.properties.length}B"
  | .body fragment => s!"{fragment.length} bytes"
  | .heartbeat => ""

def ofFrame (index : Nat) (f : Frame) : FrameRecord :=
  ⟨index, f.channel, f.kind, f.wireSize, f.methodId?, describe f⟩

def ofFramesFrom : Nat → List Frame → List FrameRecord
  | _, [] => []
  | index, f :: fs => ofFrame index f :: ofFramesFrom (index + 1) fs

def ofFrames (frames : List Frame) : List FrameRecord := ofFramesFrom 1 frames

end FrameRecord
end Multiplex
