import Multiplex.Frame.Codec

/-! What stands around a payload: its type, its channel, its size and an end. A buffer that begins
with all of that is taken as far as the end, and only then does it matter whether the payload is
one. Nothing else that a buffer begins with is ever taken. -/

namespace Multiplex

def FrameKind.least : FrameKind → Nat
  | method => 4
  | header => 12
  | body | heartbeat => 0

theorem Payload.malformed_of_decode {kind : FrameKind} {bs : Octets} {e : FrameError}
    (refused : decode kind bs = .error e) : ∃ why, e = .malformed why := by
  revert refused
  fun_cases decode kind bs <;> intro refused <;> cases refused <;> exact ⟨_, rfl⟩

/-- A payload with what is put around it, before anyone has looked into it. -/
structure Envelope where
  kind : FrameKind
  channel : ChannelId
  payload : Octets
  deriving DecidableEq

/-- What is said of a buffer that begins with a whole envelope. -/
def Decoded.ofAnswer : Except FrameError Frame → Decoded
  | .ok f => .frame f
  | .error e => .failed e

namespace Envelope

open Octets

def wireSize (e : Envelope) : Nat := e.payload.length + Frame.overhead

def octets (e : Envelope) : Octets :=
  e.kind.octet :: (bigEndian 2 e.channel.toNat ++ bigEndian 4 e.payload.length ++ e.payload ++
    [Frame.endOctet])

@[simp] theorem length_octets (e : Envelope) : e.octets.length = e.wireSize := by
  simp [octets, wireSize, Frame.overhead]
  omega

/-- An envelope whose size can be said and is within the limit. -/
def Fits (limit : Nat) (e : Envelope) : Prop :=
  e.payload.length ≤ Frame.maxPayload ∧ e.wireSize ≤ limit

instance {limit : Nat} {e : Envelope} : Decidable (e.Fits limit) :=
  inferInstanceAs (Decidable (_ ∧ _))

def answer (e : Envelope) : Except FrameError Frame :=
  (Payload.decode e.kind e.payload).map (⟨e.channel, ·⟩)

def fault (e : Envelope) : Malformation :=
  match e.kind with
  | .header => .headerPayload e.payload.length
  | .method | .body | .heartbeat => .methodPayload e.payload.length

section Payload

variable {e : Envelope}

theorem answer_of_short (short : e.payload.length < e.kind.least) :
    e.answer = .error (.malformed e.fault) := by
  obtain ⟨kind, channel, payload⟩ := e
  cases kind with
  | method =>
    simp only [FrameKind.least] at short
    simp only [answer, Payload.decode]
    split
    · simp only [List.length_cons] at short
      omega
    · rfl
  | header =>
    simp only [FrameKind.least] at short
    simp only [answer, Payload.decode]
    split
    · simp only [List.length_cons] at short
      omega
    · rfl
  | body | heartbeat => exact absurd short (Nat.not_lt_zero _)

theorem answer_of_least (enough : e.kind.least ≤ e.payload.length) :
    ∃ f, e.answer = .ok f ∧ f.channel = e.channel ∧ f.kind = e.kind := by
  obtain ⟨kind, channel, payload⟩ := e
  cases kind with
  | method =>
    rcases payload with _ | ⟨c₁, _ | ⟨c₀, _ | ⟨n₁, _ | ⟨n₀, args⟩⟩⟩⟩
    case cons.cons.cons.cons => exact ⟨_, rfl, rfl, rfl⟩
    all_goals simp [FrameKind.least] at enough
  | header =>
    rcases payload with _ | ⟨c₁, _ | ⟨c₀, _ | ⟨w₁, _ | ⟨w₀, _ | ⟨s₇, _ | ⟨s₆, _ | ⟨s₅, _ | ⟨s₄,
      _ | ⟨s₃, _ | ⟨s₂, _ | ⟨s₁, _ | ⟨s₀, properties⟩⟩⟩⟩⟩⟩⟩⟩⟩⟩⟩⟩
    case cons.cons.cons.cons.cons.cons.cons.cons.cons.cons.cons.cons => exact ⟨_, rfl, rfl, rfl⟩
    all_goals simp [FrameKind.least] at enough
  | body | heartbeat => exact ⟨_, rfl, rfl, rfl⟩

theorem least_of_answer {f : Frame} (found : e.answer = .ok f) : e.kind.least ≤ e.payload.length := by
  refine Nat.le_of_not_lt fun short => ?_
  rw [answer_of_short short] at found
  cases found

end Payload

variable {limit : Nat} {e : Envelope} {bs rest : Octets}

theorem exists_fields (small : e.payload.length ≤ Frame.maxPayload) :
    ∃ c₁ c₀ s₃ s₂ s₁ s₀, UInt16.ofNat (value [c₁, c₀]) = e.channel ∧
      value [s₃, s₂, s₁, s₀] = e.payload.length ∧
      e.octets = e.kind.octet :: c₁ :: c₀ :: s₃ :: s₂ :: s₁ :: s₀ ::
        (e.payload ++ [Frame.endOctet]) := by
  have size : value (bigEndian 4 e.payload.length) = e.payload.length := by
    rw [value_bigEndian]
    refine Nat.mod_eq_of_lt (Nat.lt_of_le_of_lt small ?_)
    decide
  exact ⟨_, _, _, _, _, _, ofNat_value_bigEndian16 e.channel, size, rfl⟩

theorem decode_octets_append (fits : e.Fits limit) (rest : Octets) :
    Frame.decode limit (e.octets ++ rest) = (.ofAnswer e.answer, rest) := by
  obtain ⟨c₁, c₀, s₃, s₂, s₁, s₀, channel, size, all⟩ := exists_fields fits.1
  have enough : ¬ limit < e.payload.length + Frame.overhead := Nat.not_lt.mpr fits.2
  simp only [all, Frame.decode, List.cons_append, List.append_assoc, List.nil_append,
    FrameKind.ofOctet?_octet, size, if_neg enough, List.drop_left, List.take_left, channel, answer]
  cases Payload.decode e.kind e.payload <;> rfl

/-- If the size that is told is beyond the limit, nothing behind it is looked at. -/
theorem decode_of_large (small : e.payload.length ≤ Frame.maxPayload) (large : limit < e.wireSize)
    (begins : e.octets.take 7 <+: bs) :
    Frame.decode limit bs = (.failed (.tooLarge e.wireSize limit), bs) := by
  obtain ⟨c₁, c₀, s₃, s₂, s₁, s₀, -, size, all⟩ := exists_fields small
  obtain ⟨rest, rfl⟩ := begins
  have beyond : limit < e.payload.length + Frame.overhead := large
  simp [all, Frame.decode, size, beyond, wireSize]

/-- Another octet in the place of the end is told, and nothing is taken. -/
theorem decode_of_unended {b : UInt8} (fits : e.Fits limit) (other : b ≠ Frame.endOctet)
    (rest : Octets) :
    Frame.decode limit (e.octets.dropLast ++ b :: rest) =
      (.failed (.missingEnd b), e.octets.dropLast ++ b :: rest) := by
  obtain ⟨c₁, c₀, s₃, s₂, s₁, s₀, -, size, all⟩ := exists_fields fits.1
  have begun : e.octets.dropLast =
      e.kind.octet :: c₁ :: c₀ :: s₃ :: s₂ :: s₁ :: s₀ :: e.payload := by
    rw [all]
    simp only [← List.cons_append, List.dropLast_concat]
  have enough : ¬ limit < e.payload.length + Frame.overhead := Nat.not_lt.mpr fits.2
  simp only [begun, List.cons_append, Frame.decode, FrameKind.ofOctet?_octet, size, if_neg enough,
    List.drop_left, ne_eq, other, not_false_eq_true, if_true]

theorem exists_octets_of_size {t c₁ c₀ : UInt8} {size behind rest : Octets} {kind : FrameKind}
    (known : FrameKind.ofOctet? t = some kind) (width : size.length = 4)
    (there : behind.drop (value size) = Frame.endOctet :: rest) :
    ∃ e : Envelope, e.payload.length = value size ∧
      t :: c₁ :: c₀ :: (size ++ behind) = e.octets ++ rest := by
  have length : (behind.take (value size)).length = value size := by
    have inside := congrArg List.length there
    simp only [List.length_drop, List.length_cons] at inside
    rw [List.length_take]
    omega
  refine ⟨⟨kind, UInt16.ofNat (value [c₁, c₀]), behind.take (value size)⟩, length, ?_⟩
  have number : bigEndian 2 (UInt16.ofNat (value [c₁, c₀])).toNat = [c₁, c₀] :=
    bigEndian_ofNat_value16 rfl
  have all : behind.take (value size) ++ Frame.endOctet :: rest = behind := by
    rw [← there, List.take_append_drop]
  simp only [octets, FrameKind.octet_of_ofOctet? known, number, length,
    bigEndian_value_of_length width, List.cons_append, List.nil_append, List.append_assoc, all]

end Envelope

namespace Frame

open Octets

/-- A buffer begins with a whole envelope, or nothing is taken from it and nothing behind its
beginning can be decoded. -/
theorem decode_cases (limit : Nat) (buffer : Octets) :
    (∃ e : Envelope, ∃ rest, e.Fits limit ∧ buffer = e.octets ++ rest) ∨
      (decode limit buffer).1.resumes true = false ∧ (decode limit buffer).2 = buffer := by
  have whole {t c₁ c₀ s₃ s₂ s₁ s₀ last : UInt8} {behind rest : Octets} {kind : FrameKind}
      (known : FrameKind.ofOctet? t = some kind)
      (small : ¬ limit < value [s₃, s₂, s₁, s₀] + overhead)
      (there : behind.drop (value [s₃, s₂, s₁, s₀]) = last :: rest) (ended : ¬ last ≠ endOctet) :
      ∃ e : Envelope, ∃ rest, e.Fits limit ∧
        t :: c₁ :: c₀ :: s₃ :: s₂ :: s₁ :: s₀ :: behind = e.octets ++ rest := by
    obtain rfl := Decidable.of_not_not ended
    obtain ⟨e, size, all⟩ := Envelope.exists_octets_of_size known rfl there
    have field : value [s₃, s₂, s₁, s₀] < capacity 4 := value_lt _
    have bound : maxPayload + 1 = capacity 4 := by decide
    refine ⟨e, rest, ⟨?_, ?_⟩, all⟩
    · omega
    · rw [Envelope.wireSize, size]
      exact Nat.not_lt.mp small
  fun_cases decode limit buffer with
  | case1 | case2 | case3 | case4 | case7 => exact .inr ⟨rfl, rfl⟩
  | case5 t c₁ c₀ s₃ s₂ s₁ s₀ behind kind known size small last rest there ended =>
    exact .inl (whole known small there ended)
  | case6 t c₁ c₀ s₃ s₂ s₁ s₀ behind kind known size small last rest there ended =>
    exact .inl (whole known small there ended)

variable {limit : Nat} {buffer rest : Octets} {d : Decoded}

theorem resumes_ofAnswer (e : Envelope) : (Decoded.ofAnswer e.answer).resumes true := by
  rcases Nat.lt_or_ge e.payload.length e.kind.least with short | enough
  · rw [e.answer_of_short short]
    rfl
  · obtain ⟨f, found, -⟩ := e.answer_of_least enough
    rw [found]
    rfl

/-- What is taken from a buffer is a whole envelope, and what it is taken for is in there. -/
theorem decode_eq_iff_of_resumes (resumes : d.resumes true) :
    decode limit buffer = (d, rest) ↔
      ∃ e : Envelope, e.Fits limit ∧ buffer = e.octets ++ rest ∧ .ofAnswer e.answer = d := by
  constructor
  · intro read
    rcases decode_cases limit buffer with ⟨e, behind, fits, rfl⟩ | ⟨stays, -⟩
    · rw [Envelope.decode_octets_append fits] at read
      obtain ⟨rfl, rfl⟩ := Prod.mk.inj read
      exact ⟨e, fits, rfl, rfl⟩
    · rw [read, resumes] at stays
      cases stays
  · rintro ⟨e, fits, rfl, rfl⟩
    exact Envelope.decode_octets_append fits rest

theorem decode_eq_frame_iff {f : Frame} :
    decode limit buffer = (.frame f, rest) ↔
      ∃ e : Envelope, e.Fits limit ∧ buffer = e.octets ++ rest ∧ e.answer = .ok f := by
  rw [decode_eq_iff_of_resumes (d := .frame f) rfl]
  refine exists_congr fun e => and_congr_right' (and_congr_right' ?_)
  cases e.answer <;> simp [Decoded.ofAnswer]

theorem decode_of_not_resumes (stays : (decode limit buffer).1.resumes true = false) :
    (decode limit buffer).2 = buffer := by
  rcases decode_cases limit buffer with ⟨e, behind, fits, rfl⟩ | ⟨-, same⟩
  · rw [Envelope.decode_octets_append fits, resumes_ofAnswer] at stays
    cases stays
  · exact same

theorem decode_suffix (limit : Nat) (buffer : Octets) : (decode limit buffer).2 <:+ buffer := by
  rcases decode_cases limit buffer with ⟨e, behind, fits, rfl⟩ | ⟨-, same⟩
  · rw [Envelope.decode_octets_append fits]
    exact List.suffix_append _ _
  · exact ⟨[], same⟩

/-- The size of a payload that the beginning of a buffer tells. -/
def toldSize (buffer : Octets) : Nat := value ((buffer.drop 3).take 4)

/-- Nothing is complete just as long as a type, a channel and a size have not all come, or the type
is known, the size is within the limit, and not all that it tells has come. -/
theorem incomplete_iff :
    (decode limit buffer).1 = .incomplete ↔ buffer.length < 7 ∨
      (buffer.head?.bind FrameKind.ofOctet?).isSome ∧ toldSize buffer + overhead ≤ limit ∧
        buffer.length < toldSize buffer + overhead := by
  have full {t c₁ c₀ s₃ s₂ s₁ s₀ : UInt8} {behind : Octets} :
      ¬ (t :: c₁ :: c₀ :: s₃ :: s₂ :: s₁ :: s₀ :: behind).length < 7 := by
    simp only [List.length_cons]
    omega
  have come {t c₁ c₀ s₃ s₂ s₁ s₀ last : UInt8} {behind rest : Octets}
      (there : behind.drop (value [s₃, s₂, s₁, s₀]) = last :: rest) :
      toldSize (t :: c₁ :: c₀ :: s₃ :: s₂ :: s₁ :: s₀ :: behind) + overhead ≤
        (t :: c₁ :: c₀ :: s₃ :: s₂ :: s₁ :: s₀ :: behind).length := by
    have inside := congrArg List.length there
    simp only [List.length_drop, List.length_cons] at inside
    simp only [toldSize, overhead, List.drop_succ_cons, List.drop_zero, List.take_succ_cons,
      List.take_zero, List.length_cons]
    omega
  fun_cases decode limit buffer with
  | case1 t c₁ c₀ s₃ s₂ s₁ s₀ behind unknown => simp [unknown]
  | case2 t c₁ c₀ s₃ s₂ s₁ s₀ behind kind known size large =>
    refine iff_of_false Decoded.noConfusion ?_
    rintro (short | ⟨-, small, -⟩)
    · exact full short
    · exact Nat.not_lt.mpr small large
  | case3 t c₁ c₀ s₃ s₂ s₁ s₀ behind kind known size small none =>
    have lacking : behind.length ≤ size := List.drop_eq_nil_iff.mp none
    have tells : toldSize (t :: c₁ :: c₀ :: s₃ :: s₂ :: s₁ :: s₀ :: behind) = size := rfl
    refine iff_of_true rfl (.inr ⟨by simp [known], Nat.not_lt.mp small, ?_⟩)
    simp only [tells, overhead, List.length_cons]
    omega
  | case4 | case5 | case6 =>
    refine iff_of_false Decoded.noConfusion ?_
    rintro (short | ⟨-, -, lacking⟩)
    · exact full short
    · exact Nat.not_lt.mpr (come ‹_›) lacking
  | case7 =>
    rename_i short
    exact iff_of_true rfl (.inl (length_lt_of_ne_cons short))

theorem decode_of_incomplete (part : (decode limit buffer).1 = .incomplete) :
    decode limit buffer = (.incomplete, buffer) :=
  Prod.ext part (decode_of_not_resumes (part ▸ rfl))

end Frame
end Multiplex
