import Multiplex.Session.Receive
import Multiplex.Spool

/-! Content: a header frame that declares a size, then body frames that add up to it exactly. -/

namespace Multiplex
namespace Session

variable {σ : Type} [Link σ]
open Multiplex.Action

/-- How far a message has come: the header, once it is there, and the body so far. -/
inductive Assembly
  | awaitingHeader
  | awaitingBody (header : ContentHeader) (body : Spool)

/-- Take the next frame of a message. Nothing more is read once the declared size is reached. -/
def takeContent (channel : ChannelId) : Assembly → Frame → Step Assembly Message
  | .awaitingHeader, f =>
    match f.payload with
    | .header h =>
      if h.bodySize = 0 then .done ⟨h.classId, h.properties, []⟩ else .more (.awaitingBody h .empty)
    | p => .failed (.unexpectedFrame channel .header p.kind)
  | .awaitingBody h body, f =>
    match f.payload with
    | .body fragment =>
      let body := body.push fragment
      if h.bodySize.toNat < body.size then
        .failed (.bodyOverflow channel h.bodySize.toNat body.size)
      else if body.size = h.bodySize.toNat then .done ⟨h.classId, h.properties, body.octets⟩
      else .more (.awaitingBody h body)
    | p => .failed (.unexpectedFrame channel .body p.kind)

def readContent (channel : ChannelId) : Action σ Message := do
  requireOpen
  ⟨fun s link => collect channel "read_content" (takeContent channel) .awaitingHeader s link⟩

def readReturned (channel : ChannelId) (method : Method) : Action σ ReturnedMessage := do
  if method.id = .basicReturn then
    match ReturnReason.decode method.args with
    | .ok reason =>
      let message ← readContent channel
      return ⟨reason, message⟩
    | .error e => fail (.malformedMethod method.id e)
  else fail (.unexpectedMethod channel method.id "read_returned_message")

end Session
end Multiplex
