import Multiplex.Frame.Error
import Multiplex.Method
import Multiplex.Text.Utf8

/-! The arguments of the closing methods and of basic.return. Texts travel as short strings: a
length octet and at most 255 octets, so a longer text is cut after its last whole character that
fits. Reading names the first field that is cut off. -/

namespace Multiplex

namespace ShortString

/-- Whether an octet goes on with a character that began before it. -/
def continues (b : UInt8) : Bool := 0x80 ≤ b && b ≤ 0xBF

/-- Walk back to where a character begins, or to the end of the text. -/
def boundary (octets : Octets) : Nat → Nat
  | 0 => 0
  | n + 1 => if octets[n + 1]?.any continues then boundary octets n else n + 1

def encode (text : String) : Octets :=
  let octets := Utf8.encode text
  let stop := boundary octets (min octets.length 255)
  UInt8.ofNat stop :: octets.take stop

end ShortString

abbrev ArgumentReader (α : Type) := Octets → Except FrameError (α × Octets)

namespace ArgumentReader

def truncated (field : ArgumentField) : Except FrameError α :=
  .error (.malformed (.truncatedAt field))

def short (field : ArgumentField) : ArgumentReader UInt16
  | a :: b :: rest => .ok (UInt16.ofNat (Octets.value [a, b]), rest)
  | _ => truncated field

def text (field : ArgumentField) : ArgumentReader String
  | [] => truncated field
  | n :: rest =>
    if rest.length < n.toNat then truncated field
    else .ok (Utf8.decode (rest.take n.toNat), rest.drop n.toNat)

end ArgumentReader

/-- Why a peer closes a channel or the connection. -/
structure CloseReason where
  code : UInt16
  text : String
  /-- The method that is blamed, by class and number; class 0 blames none. -/
  classId : UInt16
  methodId : UInt16
  deriving DecidableEq

namespace CloseReason

/-- The reason a client gives for an orderly close. -/
def normal : CloseReason := ⟨200, "OK", 0, 0⟩

def encode (r : CloseReason) : Octets :=
  Octets.bigEndian 2 r.code.toNat ++ ShortString.encode r.text ++
    Octets.bigEndian 2 r.classId.toNat ++ Octets.bigEndian 2 r.methodId.toNat

def decode (args : Octets) : Except FrameError CloseReason := do
  let (code, rest) ← ArgumentReader.short .replyCode args
  let (text, rest) ← ArgumentReader.text .replyText rest
  let (classId, rest) ← ArgumentReader.short .classId rest
  let (methodId, _) ← ArgumentReader.short .methodId rest
  return ⟨code, text, classId, methodId⟩

def blamed (r : CloseReason) : Option MethodId :=
  if r.classId = 0 then none else some ⟨r.classId, r.methodId⟩

def label (r : CloseReason) : String :=
  match r.blamed with
  | none => s!"{r.code} {r.text}"
  | some id => s!"{r.code} {r.text} (caused by {id.label})"

end CloseReason

/-- Why a published message comes back, and where it was bound for. -/
structure ReturnReason where
  code : UInt16
  text : String
  exchange : String
  routingKey : String
  deriving DecidableEq

namespace ReturnReason

def encode (r : ReturnReason) : Octets :=
  Octets.bigEndian 2 r.code.toNat ++ ShortString.encode r.text ++
    ShortString.encode r.exchange ++ ShortString.encode r.routingKey

def decode (args : Octets) : Except FrameError ReturnReason := do
  let (code, rest) ← ArgumentReader.short .replyCode args
  let (text, rest) ← ArgumentReader.text .replyText rest
  let (exchange, rest) ← ArgumentReader.text .exchange rest
  let (routingKey, _) ← ArgumentReader.text .routingKey rest
  return ⟨code, text, exchange, routingKey⟩

end ReturnReason

namespace Method

def channelClose (reason : CloseReason) : Method := ⟨.channelClose, reason.encode⟩

def connectionClose (reason : CloseReason) : Method := ⟨.connectionClose, reason.encode⟩

end Method
end Multiplex
