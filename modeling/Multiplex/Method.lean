import Multiplex.Octets

/-! Methods: the commands of the protocol, each named by a class and a number, with arguments
that stay encoded until someone asks for them. -/

namespace Multiplex

structure MethodId where
  classId : UInt16
  number : UInt16
  deriving DecidableEq

namespace MethodId

def connectionClose : MethodId := ⟨10, 50⟩
def connectionCloseOk : MethodId := ⟨10, 51⟩
def channelOpen : MethodId := ⟨20, 10⟩
def channelOpenOk : MethodId := ⟨20, 11⟩
def channelFlow : MethodId := ⟨20, 20⟩
def channelFlowOk : MethodId := ⟨20, 21⟩
def channelClose : MethodId := ⟨20, 40⟩
def channelCloseOk : MethodId := ⟨20, 41⟩
def basicConsume : MethodId := ⟨60, 20⟩
def basicConsumeOk : MethodId := ⟨60, 21⟩
def basicCancel : MethodId := ⟨60, 30⟩
def basicCancelOk : MethodId := ⟨60, 31⟩
def basicPublish : MethodId := ⟨60, 40⟩
def basicReturn : MethodId := ⟨60, 50⟩
def basicDeliver : MethodId := ⟨60, 60⟩
def basicGetOk : MethodId := ⟨60, 71⟩
def basicGetEmpty : MethodId := ⟨60, 72⟩
def basicAck : MethodId := ⟨60, 80⟩
def basicNack : MethodId := ⟨60, 120⟩
def confirmSelect : MethodId := ⟨85, 10⟩
def confirmSelectOk : MethodId := ⟨85, 11⟩

def names : List (MethodId × String) :=
  [(connectionClose, "connection.close"),
   (connectionCloseOk, "connection.close-ok"),
   (channelOpen, "channel.open"),
   (channelOpenOk, "channel.open-ok"),
   (channelFlow, "channel.flow"),
   (channelFlowOk, "channel.flow-ok"),
   (channelClose, "channel.close"),
   (channelCloseOk, "channel.close-ok"),
   (basicConsume, "basic.consume"),
   (basicConsumeOk, "basic.consume-ok"),
   (basicCancel, "basic.cancel"),
   (basicCancelOk, "basic.cancel-ok"),
   (basicPublish, "basic.publish"),
   (basicReturn, "basic.return"),
   (basicDeliver, "basic.deliver"),
   (basicGetOk, "basic.get-ok"),
   (basicGetEmpty, "basic.get-empty"),
   (basicAck, "basic.ack"),
   (basicNack, "basic.nack"),
   (confirmSelect, "confirm.select"),
   (confirmSelectOk, "confirm.select-ok")]

def name (id : MethodId) : String := (names.lookup id).getD "unknown"

/-- The name, or both numbers of a method that has none. -/
def label (id : MethodId) : String :=
  (names.lookup id).getD s!"method({id.classId}.{id.number})"

/-- Class and number as the one 32-bit field that a method frame begins with. -/
def raw (id : MethodId) : Nat := id.classId.toNat * 65536 + id.number.toNat

def ofRaw (n : Nat) : MethodId := ⟨UInt16.ofNat (n / 65536), UInt16.ofNat n⟩

@[simp] theorem ofRaw_raw (id : MethodId) : ofRaw id.raw = id := by
  have hc := id.classId.toNat_lt
  have hn := id.number.toNat_lt
  cases id with
  | mk c n =>
    simp only [ofRaw, raw, MethodId.mk.injEq]
    constructor
    · apply UInt16.toNat_inj.mp
      simp only [UInt16.toNat_ofNat'] at *
      omega
    · apply UInt16.toNat_inj.mp
      simp only [UInt16.toNat_ofNat'] at *
      omega

end MethodId

/-- A method with its arguments, still encoded. -/
structure Method where
  id : MethodId
  args : Octets
  deriving DecidableEq

namespace Method

def bare (id : MethodId) : Method := ⟨id, []⟩

/-- The one argument of channel.open is an empty reserved string. -/
def channelOpen : Method := ⟨.channelOpen, [0]⟩

def confirmSelect (nowait : Bool) : Method := ⟨.confirmSelect, [if nowait then 1 else 0]⟩

def channelCloseOk : Method := bare .channelCloseOk
def connectionCloseOk : Method := bare .connectionCloseOk

/-- Whether a peer closes the channel or the connection with this method. -/
def isClose (m : Method) : Bool := m.id = .channelClose || m.id = .connectionClose

end Method
end Multiplex
