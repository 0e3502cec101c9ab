import Multiplex.Frame
import Std.Data.ExtTreeMap

/-! Totals for each channel of a capture. -/

namespace Multiplex

structure ChannelSummary where
  channel : ChannelId
  methods : Nat
  headers : Nat
  bodies : Nat
  bodyOctets : Nat
  heartbeats : Nat
  lastMethod : Option MethodId
  deriving DecidableEq

namespace ChannelSummary

def blank (channel : ChannelId) : ChannelSummary := ⟨channel, 0, 0, 0, 0, 0, none⟩

def add (s : ChannelSummary) (p : Payload) : ChannelSummary :=
  match p with
  | .method m => { s with methods := s.methods + 1, lastMethod := some m.id }
  | .header _ => { s with headers := s.headers + 1 }
  | .body fragment =>
    { s with bodies := s.bodies + 1, bodyOctets := s.bodyOctets + fragment.length }
  | .heartbeat => { s with heartbeats := s.heartbeats + 1 }

abbrev Tally := Std.ExtTreeMap ChannelId ChannelSummary

def count (tally : Tally) (f : Frame) : Tally :=
  tally.insert f.channel ((tally[f.channel]?.getD (blank f.channel)).add f.payload)

/-- One summary for every channel that occurs, lowest channel first. -/
def ofFrames (frames : List Frame) : List ChannelSummary :=
  (frames.foldl count (∅ : Tally)).toList.map (·.2)

end ChannelSummary
end Multiplex
