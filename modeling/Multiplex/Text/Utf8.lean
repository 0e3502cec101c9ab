import Multiplex.Octets

/-! Text as UTF-8. Writing is exact. Reading accepts any octets: every longest run that could
have begun a character but did not become one reads as U+FFFD. -/

namespace Multiplex
namespace Utf8

def encode (text : String) : Octets := text.toList.flatMap String.utf8EncodeChar

/-- What stands for octets that are no character. -/
def replacement : Char := '\uFFFD'

/-- A character under way: its bits so far, the range its next octet must lie in, and how many
octets follow that one. -/
structure Partial where
  bits : Nat
  low : UInt8
  high : UInt8
  after : Nat
  deriving DecidableEq

/-- An octet that begins a character either is one, or opens one, or is an error by itself. The
narrow second ranges keep out overlong forms, surrogates and code points above U+10FFFF. -/
def first (b : UInt8) : Char ⊕ Partial :=
  if b < 0x80 then .inl (Char.ofNat b.toNat)
  else if b < 0xC2 then .inl replacement
  else if b < 0xE0 then .inr ⟨b.toNat - 0xC0, 0x80, 0xBF, 0⟩
  else if b = 0xE0 then .inr ⟨0, 0xA0, 0xBF, 1⟩
  else if b = 0xED then .inr ⟨0xD, 0x80, 0x9F, 1⟩
  else if b < 0xF0 then .inr ⟨b.toNat - 0xE0, 0x80, 0xBF, 1⟩
  else if b = 0xF0 then .inr ⟨0, 0x90, 0xBF, 2⟩
  else if b < 0xF4 then .inr ⟨b.toNat - 0xF0, 0x80, 0xBF, 2⟩
  else if b = 0xF4 then .inr ⟨4, 0x80, 0x8F, 2⟩
  else .inl replacement

/-- Read on from a character under way, if there is one. An octet that does not continue it
begins the next. -/
def chars : Option Partial → Octets → List Char
  | none, [] => []
  | some _, [] => [replacement]
  | none, b :: bs =>
    match first b with
    | .inl c => c :: chars none bs
    | .inr p => chars (some p) bs
  | some p, b :: bs =>
    if p.low ≤ b ∧ b ≤ p.high then
      match p.after with
      | 0 => Char.ofNat (p.bits * 64 + (b.toNat - 0x80)) :: chars none bs
      | n + 1 => chars (some ⟨p.bits * 64 + (b.toNat - 0x80), 0x80, 0xBF, n⟩) bs
    else
      match first b with
      | .inl c => replacement :: c :: chars none bs
      | .inr q => replacement :: chars (some q) bs

def decode (bs : Octets) : String := String.ofList (chars none bs)

end Utf8
end Multiplex
