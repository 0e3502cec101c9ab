import Multiplex.Session.Error
import Std.Data.ExtTreeMap

/-! Which channel each consumer tag was registered on. A tag names at most one channel. -/

namespace Multiplex

abbrev Consumers := Std.ExtTreeMap String ChannelId

namespace Consumers

def register (consumers : Consumers) (tag : String) (channel : ChannelId) :
    Except SessionError Consumers :=
  if tag ∈ consumers then .error (.duplicateTag tag) else .ok (consumers.insert tag channel)

def lookup (consumers : Consumers) (tag : String) : Except SessionError ChannelId :=
  match consumers[tag]? with
  | some channel => .ok channel
  | none => .error (.tagNotFound tag)

def unregister (consumers : Consumers) (tag : String) :
    Except SessionError (ChannelId × Consumers) :=
  match consumers[tag]? with
  | some channel => .ok (channel, consumers.erase tag)
  | none => .error (.tagNotFound tag)

def dropChannel (consumers : Consumers) (channel : ChannelId) : Consumers :=
  consumers.filter fun _ c => c ≠ channel

theorem getElem?_dropChannel (consumers : Consumers) (channel : ChannelId) (tag : String) :
    (consumers.dropChannel channel)[tag]? = consumers[tag]?.filter (· ≠ channel) := by
  simp [dropChannel]

variable {consumers next : Consumers} {tag : String} {channel : ChannelId}

theorem lookup_eq_ok : consumers.lookup tag = .ok channel ↔ consumers[tag]? = some channel := by
  unfold lookup
  cases consumers[tag]? <;> simp

theorem register_eq_ok : consumers.register tag channel = .ok next ↔
    consumers[tag]? = none ∧ next = consumers.insert tag channel := by
  unfold register
  split <;> simp_all [eq_comm]

theorem unregister_eq_ok : consumers.unregister tag = .ok (channel, next) ↔
    consumers[tag]? = some channel ∧ next = consumers.erase tag := by
  unfold unregister
  cases consumers[tag]? <;> simp [eq_comm]

end Consumers
end Multiplex
