import Multiplex.Frame
import Multiplex.Frame.Error

/-! The wire form of a frame: a type octet, the channel, the size of the payload, the payload and
an end octet. `decode` answers for the beginning of a buffer and says what it leaves; `drain`
repeats it as far as the buffer goes. -/

namespace Multiplex

namespace FrameKind

def octet : FrameKind → UInt8
  | method => 1
  | header => 2
  | body => 3
  | heartbeat => 8

def ofOctet? (b : UInt8) : Option FrameKind :=
  if b = 1 then some method
  else if b = 2 then some header
  else if b = 3 then some body
  else if b = 8 then some heartbeat
  else none

@[simp] theorem ofOctet?_octet (k : FrameKind) : ofOctet? k.octet = some k := by
  cases k <;> rfl

theorem octet_of_ofOctet? {b : UInt8} {k : FrameKind} (known : ofOctet? b = some k) :
    k.octet = b := by
  unfold ofOctet? at known
  grind [octet]

end FrameKind

namespace Payload

def octets : Payload → Octets
  | method m =>
    Octets.bigEndian 2 m.id.classId.toNat ++ Octets.bigEndian 2 m.id.number.toNat ++ m.args
  | header h =>
    Octets.bigEndian 2 h.classId.toNat ++ [0, 0] ++ Octets.bigEndian 8 h.bodySize.toNat ++
      h.properties
  | body fragment => fragment
  | heartbeat => []

def size : Payload → Nat
  | method m => 4 + m.args.length
  | header h => 12 + h.properties.length
  | body fragment => fragment.length
  | heartbeat => 0

@[simp] theorem length_octets (p : Payload) : p.octets.length = p.size := by
  cases p <;> simp [octets, size] <;> omega

/-- The two octets after the class of a header are its weight, which nobody uses. -/
def decode (kind : FrameKind) (bs : Octets) : Except FrameError Payload :=
  match kind with
  | .method =>
    match bs with
    | c₁ :: c₀ :: n₁ :: n₀ :: args =>
      .ok (.method ⟨⟨UInt16.ofNat (Octets.value [c₁, c₀]), UInt16.ofNat (Octets.value [n₁, n₀])⟩,
        args⟩)
    | _ => .error (.malformed (.methodPayload bs.length))
  | .header =>
    match bs with
    | c₁ :: c₀ :: _ :: _ :: s₇ :: s₆ :: s₅ :: s₄ :: s₃ :: s₂ :: s₁ :: s₀ :: properties =>
      .ok (.header ⟨UInt16.ofNat (Octets.value [c₁, c₀]),
        UInt64.ofNat (Octets.value [s₇, s₆, s₅, s₄, s₃, s₂, s₁, s₀]), properties⟩)
    | _ => .error (.malformed (.headerPayload bs.length))
  | .body => .ok (.body bs)
  | .heartbeat => .ok .heartbeat

end Payload

namespace Frame

/-- The octets around a payload: seven in front of it and one behind. -/
def overhead : Nat := 8

def endOctet : UInt8 := 0xCE

/-- The largest frame that is taken when nothing else was agreed. -/
def defaultLimit : Nat := 131072

/-- The largest payload whose size the size field can say. -/
def maxPayload : Nat := UInt32.size - 1

def wireSize (f : Frame) : Nat := overhead + f.payload.size

def octets (f : Frame) : Octets :=
  f.kind.octet :: (Octets.bigEndian 2 f.channel.toNat ++ Octets.bigEndian 4 f.payload.size ++
    f.payload.octets ++ [endOctet])

@[simp] theorem length_octets (f : Frame) : f.octets.length = f.wireSize := by
  simp [octets, wireSize, overhead]
  omega

def encode (f : Frame) : Except FrameError Octets :=
  if maxPayload < f.payload.size then .error (.tooLarge f.payload.size maxPayload)
  else .ok f.octets

def Fits (limit : Nat) (f : Frame) : Prop :=
  f.payload.size ≤ maxPayload ∧ f.wireSize ≤ limit

instance {limit : Nat} {f : Frame} : Decidable (f.Fits limit) := inferInstanceAs (Decidable (_ ∧ _))

theorem encode_of_fits {limit : Nat} {f : Frame} (fits : f.Fits limit) :
    f.encode = .ok f.octets := if_neg (Nat.not_lt.mpr fits.1)

end Frame

/-- What the beginning of a buffer holds. -/
inductive Decoded
  | incomplete
  | frame (f : Frame)
  | failed (e : FrameError)
  deriving DecidableEq

namespace Frame

/-- Answer for the beginning of a buffer, with the octets that stay in it. Only a frame and a
malformed payload take octets away; every other answer leaves the buffer as it is. -/
def decode (limit : Nat) (buffer : Octets) : Decoded × Octets :=
  match buffer with
  | t :: c₁ :: c₀ :: s₃ :: s₂ :: s₁ :: s₀ :: rest =>
    match FrameKind.ofOctet? t with
    | none => (.failed (.invalidType t), buffer)
    | some kind =>
      let size := Octets.value [s₃, s₂, s₁, s₀]
      if limit < size + overhead then (.failed (.tooLarge (size + overhead) limit), buffer)
      else
        match rest.drop size with
        | [] => (.incomplete, buffer)
        | last :: tail =>
          if last ≠ endOctet then (.failed (.missingEnd last), buffer)
          else
            match Payload.decode kind (rest.take size) with
            | .ok payload => (.frame ⟨UInt16.ofNat (Octets.value [c₁, c₀]), payload⟩, tail)
            | .error e => (.failed e, tail)
  | _ => (.incomplete, buffer)

end Frame

/-- Whether the octets behind this answer can be decoded next. Behind a malformed payload they
can, and it is for the caller to say whether they are. -/
def Decoded.resumes (tolerant : Bool) : Decoded → Bool
  | incomplete => false
  | frame _ => true
  | failed (.malformed _) => tolerant
  | failed _ => false

namespace Frame

theorem length_decode_of_resumes (limit : Nat) (tolerant : Bool) (buffer : Octets)
    (h : (decode limit buffer).1.resumes tolerant = true) :
    (decode limit buffer).2.length + overhead ≤ buffer.length := by
  have taken {rest tail : Octets} {size : Nat} {last : UInt8} (hd : rest.drop size = last :: tail) :
      tail.length + overhead ≤ rest.length + 7 := by
    have hl := congrArg List.length hd
    simp only [List.length_drop, List.length_cons] at hl
    simp only [overhead]
    omega
  revert h
  fun_cases decode limit buffer with
  | case1 => simp [Decoded.resumes]
  | case2 => simp [Decoded.resumes]
  | case3 => simp [Decoded.resumes]
  | case4 => simp [Decoded.resumes]
  | case5 _ _ _ _ _ _ _ _ _ _ _ _ _ _ hd => exact fun _ => taken hd
  | case6 _ _ _ _ _ _ _ _ _ _ _ _ _ _ hd => exact fun _ => taken hd
  | case7 => simp [Decoded.resumes]

/-- How many octets must come at least before a buffer that has no frame yet can begin with one. -/
def missing (buffer : Octets) : Nat :=
  match buffer with
  | _ :: _ :: _ :: s₃ :: s₂ :: s₁ :: s₀ :: rest => Octets.value [s₃, s₂, s₁, s₀] + 1 - rest.length
  | _ => 7 - buffer.length

theorem decode_of_length_lt (limit : Nat) {buffer : Octets} (h : buffer.length < 7) :
    decode limit buffer = (.incomplete, buffer) := by
  unfold decode
  split
  · simp only [List.length_cons] at h
    omega
  · rfl

theorem length_lt_of_ne_cons {buffer : Octets}
    (h : ∀ t c₁ c₀ s₃ s₂ s₁ s₀ rest, buffer ≠ t :: c₁ :: c₀ :: s₃ :: s₂ :: s₁ :: s₀ :: rest) :
    buffer.length < 7 := by
  match buffer, h with
  | [], _ | [_], _ | [_, _], _ | [_, _, _], _ | [_, _, _, _], _ | [_, _, _, _, _], _
  | [_, _, _, _, _, _], _ => simp
  | _ :: _ :: _ :: _ :: _ :: _ :: _ :: _, h => exact absurd rfl (h _ _ _ _ _ _ _ _)

theorem missing_of_length_lt {buffer : Octets} (h : buffer.length < 7) :
    missing buffer = 7 - buffer.length := by
  unfold missing
  split
  · simp only [List.length_cons] at h
    omega
  · rfl

theorem missing_pos {limit : Nat} {buffer : Octets} (h : (decode limit buffer).1 = .incomplete) :
    0 < missing buffer := by
  fun_cases missing buffer with
  | case1 t c₁ c₀ s₃ s₂ s₁ s₀ rest =>
    simp only [decode] at h
    split at h
    · simp at h
    · split at h
      · simp at h
      · split at h
        · have := List.drop_eq_nil_iff.mp ‹_›
          omega
        · split at h
          · simp at h
          · split at h <;> simp at h
  | case2 =>
    rename_i short
    exact Nat.sub_pos_of_lt (length_lt_of_ne_cons short)

theorem incomplete_append {limit : Nat} {buffer bs : Octets}
    (h : (decode limit buffer).1 = .incomplete) (hb : bs.length < missing buffer) :
    (decode limit (buffer ++ bs)).1 = .incomplete ∧
      missing (buffer ++ bs) = missing buffer - bs.length := by
  revert hb
  fun_cases missing buffer with
  | case1 t c₁ c₀ s₃ s₂ s₁ s₀ rest =>
    intro hb
    simp only [List.cons_append, missing, List.length_append]
    refine ⟨?_, by omega⟩
    simp only [decode] at h ⊢
    split at h
    · simp at h
    · split at h
      · simp at h
      · rename_i hs
        rw [if_neg hs, List.drop_eq_nil_of_le]
        rw [List.length_append]
        omega
  | case2 =>
    intro hb
    have ht : (buffer ++ bs).length < 7 := by
      rw [List.length_append]
      omega
    rw [decode_of_length_lt limit ht, missing_of_length_lt ht, List.length_append]
    exact ⟨rfl, by omega⟩

/-- What comes behind a frame or a failure does not change it. -/
theorem decode_append {limit : Nat} {buffer : Octets} (more : Octets)
    (h : (decode limit buffer).1 ≠ .incomplete) :
    decode limit (buffer ++ more) = ((decode limit buffer).1, (decode limit buffer).2 ++ more) := by
  revert h
  unfold decode
  split
  · rename_i t c₁ c₀ s₃ s₂ s₁ s₀ rest
    intro h
    simp only [List.cons_append] at h ⊢
    cases known : FrameKind.ofOctet? t with
    | none => simp only [List.cons_append]
    | some kind =>
      simp only [known] at h ⊢
      generalize Octets.value [s₃, s₂, s₁, s₀] = size at h ⊢
      by_cases large : limit < size + overhead
      · simp only [if_pos large, List.cons_append]
      simp only [if_neg large] at h ⊢
      cases there : rest.drop size with
      | nil => simp [there] at h
      | cons last tail =>
        have inside : size ≤ rest.length := by
          have := congrArg List.length there
          simp only [List.length_drop, List.length_cons] at this
          omega
        have there' : (rest ++ more).drop size = last :: (tail ++ more) := by
          rw [List.drop_append_of_le_length inside, there, List.cons_append]
        rw [there', List.take_append_of_le_length inside]
        dsimp only
        by_cases ended : last = endOctet
        · simp only [ended, ne_eq, not_true_eq_false, if_false]
          cases Payload.decode kind (rest.take size) <;> rfl
        · simp only [ne_eq, ended, not_false_eq_true, if_true, List.cons_append]
  · exact fun h => absurd rfl h

/-- Every answer for a buffer in turn, with what each leaves, up to one that cannot be passed. -/
def drain (limit : Nat) (tolerant : Bool) (buffer : Octets) : List (Decoded × Octets) :=
  match _h : decode limit buffer with
  | (answer, rest) =>
    if answer.resumes tolerant then (answer, rest) :: drain limit tolerant rest
    else [(answer, rest)]
  termination_by buffer.length
  decreasing_by
    rename_i hr
    have := length_decode_of_resumes limit tolerant buffer (by rw [_h]; exact hr)
    simp only [_h, overhead] at this
    omega

theorem drain_eq (limit : Nat) (tolerant : Bool) (bs : Octets) :
    drain limit tolerant bs =
      if (decode limit bs).1.resumes tolerant then
        decode limit bs :: drain limit tolerant (decode limit bs).2
      else [decode limit bs] := by
  rw [drain]

end Frame
end Multiplex
