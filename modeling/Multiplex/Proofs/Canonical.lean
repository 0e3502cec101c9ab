import Multiplex.Proofs.Encoding

/-! What decoding forgets. A frame that was read is written again as it was read, except that the
weight of a header becomes zero and the payload of a heartbeat is gone. -/

namespace Multiplex

open Octets

def FrameKind.kept (kind : FrameKind) (bs : Octets) : Octets :=
  match kind with
  | method | body => bs
  | header => (bs.set 2 0).set 3 0
  | heartbeat => []

namespace Envelope

def weight (e : Envelope) : Nat := value ((e.payload.drop 2).take 2)

def unweighted (e : Envelope) : Envelope := { e with payload := (e.payload.set 2 0).set 3 0 }

/-- What decoding keeps of an envelope. -/
def canonical (e : Envelope) : Envelope := { e with payload := e.kind.kept e.payload }

variable {e g : Envelope} {f : Frame}

theorem length_canonical_le (e : Envelope) : e.canonical.payload.length ≤ e.payload.length := by
  simp only [canonical, FrameKind.kept]
  split <;> simp

theorem canonical_of_header (header : e.kind = .header) : e.canonical = e.unweighted := by
  simp only [canonical, unweighted, header, FrameKind.kept]

theorem canonical_eq_iff : e.canonical = e ↔ e.kind.kept e.payload = e.payload := by
  obtain ⟨kind, channel, payload⟩ := e
  simp [canonical]

theorem octets_inj (small : e.payload.length ≤ Frame.maxPayload)
    (small' : g.payload.length ≤ Frame.maxPayload) : e.octets = g.octets ↔ e = g := by
  refine ⟨fun same => ?_, congrArg octets⟩
  obtain ⟨c₁, c₀, s₃, s₂, s₁, s₀, channel, -, all⟩ := exists_fields small
  obtain ⟨c₁', c₀', s₃', s₂', s₁', s₀', channel', -, all'⟩ := exists_fields small'
  rw [all, all'] at same
  simp only [List.cons.injEq] at same
  obtain ⟨kinds, rfl, rfl, -, -, -, -, payloads⟩ := same
  have kind : e.kind = g.kind := by
    have known := FrameKind.ofOctet?_octet e.kind
    rw [kinds, FrameKind.ofOctet?_octet] at known
    exact (Option.some.inj known).symm
  obtain ⟨_, _, _⟩ := e
  obtain ⟨_, _, _⟩ := g
  simp only at kind channel channel' payloads
  rw [mk.injEq]
  exact ⟨kind, channel.symm.trans channel', List.append_cancel_right payloads⟩

theorem value_eq_zero_iff (b₁ b₀ : UInt8) : value [b₁, b₀] = 0 ↔ b₁ = 0 ∧ b₀ = 0 := by
  have sum : value [b₁, b₀] = b₁.toNat * 256 + b₀.toNat := by simp [value, capacity]
  rw [sum, ← UInt8.toNat_inj, ← UInt8.toNat_inj, UInt8.toNat_zero]
  omega

theorem unweighted_eq_iff (enough : 4 ≤ e.payload.length) : e.unweighted = e ↔ e.weight = 0 := by
  obtain ⟨kind, channel, payload⟩ := e
  rcases payload with _ | ⟨c₁, _ | ⟨c₀, _ | ⟨w₁, _ | ⟨w₀, rest⟩⟩⟩⟩
  case cons.cons.cons.cons =>
    rw [weight, show ((c₁ :: c₀ :: w₁ :: w₀ :: rest).drop 2).take 2 = [w₁, w₀] from rfl,
      value_eq_zero_iff]
    simp [unweighted, eq_comm]
  all_goals simp at enough

end Envelope

/-- What is read of a payload is written again, but for the weight of a header, which becomes zero,
and what a heartbeat carries. -/
theorem Payload.octets_of_decode {kind : FrameKind} {bs : Octets} {p : Payload}
    (read : decode kind bs = .ok p) : p.kind = kind ∧ p.octets = kind.kept bs := by
  revert read
  fun_cases decode kind bs with
  | case1 c₁ c₀ n₁ n₀ args =>
    intro read
    cases read
    have classId : bigEndian 2 (UInt16.ofNat (value [c₁, c₀])).toNat = [c₁, c₀] :=
      bigEndian_ofNat_value16 rfl
    have number : bigEndian 2 (UInt16.ofNat (value [n₁, n₀])).toNat = [n₁, n₀] :=
      bigEndian_ofNat_value16 rfl
    refine ⟨rfl, ?_⟩
    simp only [octets, classId, number]
    rfl
  | case3 c₁ c₀ w₁ w₀ s₇ s₆ s₅ s₄ s₃ s₂ s₁ s₀ properties =>
    intro read
    cases read
    have classId : bigEndian 2 (UInt16.ofNat (value [c₁, c₀])).toNat = [c₁, c₀] :=
      bigEndian_ofNat_value16 rfl
    have size : bigEndian 8 (UInt64.ofNat (value [s₇, s₆, s₅, s₄, s₃, s₂, s₁, s₀])).toNat =
        [s₇, s₆, s₅, s₄, s₃, s₂, s₁, s₀] := bigEndian_ofNat_value64 rfl
    refine ⟨rfl, ?_⟩
    simp only [octets, classId, size]
    rfl
  | case2 | case4 =>
    intro read
    cases read
  | case5 | case6 =>
    intro read
    cases read
    exact ⟨rfl, rfl⟩

namespace Frame

variable {limit : Nat} {buffer rest : Octets} {e : Envelope} {f : Frame}

theorem envelope_of_answer (found : e.answer = .ok f) : f.envelope = e.canonical := by
  unfold Envelope.answer at found
  cases read : Payload.decode e.kind e.payload with
  | error cause =>
    rw [read] at found
    cases found
  | ok p =>
    rw [read] at found
    cases found
    obtain ⟨kind, octets⟩ := Payload.octets_of_decode read
    rw [envelope, Frame.kind, kind, octets, Envelope.canonical]

/-- What is written again is what was read, without what decoding forgets. -/
theorem encode_of_answer (small : e.payload.length ≤ maxPayload) (found : e.answer = .ok f) :
    f.encode = .ok e.canonical.octets := by
  have same := envelope_of_answer found
  have size : f.payload.size ≤ maxPayload := by
    rw [← Payload.length_octets]
    change f.envelope.payload.length ≤ maxPayload
    rw [same]
    exact Nat.le_trans e.length_canonical_le small
  rw [encode, if_neg (Nat.not_lt.mpr size), ← octets_envelope, same]

theorem encode_eq_iff (small : e.payload.length ≤ maxPayload) (found : e.answer = .ok f) :
    f.encode = .ok e.octets ↔ e.canonical = e := by
  rw [encode_of_answer small found, Except.ok.injEq]
  exact Envelope.octets_inj (Nat.le_trans e.length_canonical_le small) small

/-- A frame that was read, whatever the octets, is written again as it was read if it is a method or
a piece of a body, with the weight zeroed if it is a header, and without its payload if it is a
heartbeat. And a buffer begins with a frame just if it begins with a known type, a size within the
limit and large enough for the type, as many octets as it says and an end. -/
theorem encode_of_decode (limit : Nat) (buffer : Octets) :
    (∀ f rest, decode limit buffer = (.frame f, rest) →
      ∃ e : Envelope, e.Fits limit ∧ buffer = e.octets ++ rest ∧
        f.channel = e.channel ∧ f.kind = e.kind ∧
        (e.kind = .method ∨ e.kind = .body → f.encode = .ok e.octets) ∧
        (e.kind = .header → f.encode = .ok e.unweighted.octets ∧
          (f.encode = .ok e.octets ↔ e.weight = 0)) ∧
        (e.kind = .heartbeat → (f.encode = .ok e.octets ↔ e.payload = []))) ∧
    ((∃ f rest, decode limit buffer = (.frame f, rest)) ↔
      ∃ e : Envelope, ∃ rest, buffer = e.octets ++ rest ∧ e.Fits limit ∧
        e.kind.least ≤ e.payload.length) := by
  refine ⟨fun f rest read => ?_, ?_⟩
  · obtain ⟨e, fits, all, found⟩ := decode_eq_frame_iff.mp read
    obtain ⟨f', found', channel, kind⟩ := e.answer_of_least (Envelope.least_of_answer found)
    obtain rfl := Except.ok.inj (found.symm.trans found')
    have again := encode_of_answer fits.1 found
    have same := encode_eq_iff fits.1 found
    refine ⟨e, fits, all, channel, kind, fun plain => ?_, fun header => ?_, fun heartbeat => ?_⟩
    · rcases plain with method | body
      · exact same.mpr (Envelope.canonical_eq_iff.mpr (by rw [method, FrameKind.kept]))
      · exact same.mpr (Envelope.canonical_eq_iff.mpr (by rw [body, FrameKind.kept]))
    · have long : 4 ≤ e.payload.length := by
        have := Envelope.least_of_answer found
        rw [header] at this
        exact Nat.le_trans (by decide) this
      rw [Envelope.canonical_of_header header] at again same
      exact ⟨again, same.trans (Envelope.unweighted_eq_iff long)⟩
    · rw [same, Envelope.canonical_eq_iff, heartbeat, FrameKind.kept, eq_comm]
  · constructor
    · rintro ⟨f, rest, read⟩
      obtain ⟨e, fits, all, found⟩ := decode_eq_frame_iff.mp read
      exact ⟨e, rest, all, fits, Envelope.least_of_answer found⟩
    · rintro ⟨e, rest, all, fits, enough⟩
      obtain ⟨f, found, -, -⟩ := e.answer_of_least enough
      exact ⟨f, rest, decode_eq_frame_iff.mpr ⟨e, fits, all, found⟩⟩

/-- A header whose weight is not zero, with the beginning of a heartbeat behind it. -/
theorem encode_of_decode_weighted :
    let f : Frame := ⟨1, .header ⟨60, 5, []⟩⟩
    let p : Octets := [2, 0, 1, 0, 0, 0, 12, 0, 60, 3, 9, 0, 0, 0, 0, 0, 0, 0, 5, 0xCE]
    decode 20 (p ++ [8]) = (.frame f, [8]) ∧
      ∃ e : Envelope, p = e.octets ∧ e.weight ≠ 0 ∧ f.encode = .ok e.unweighted.octets := by
  intro f p
  have read : decode 20 (p ++ [8]) = (.frame f, [8]) := by decide
  obtain ⟨e, -, all, -, kind, -, header, -⟩ := (encode_of_decode 20 (p ++ [8])).1 f [8] read
  have same : p = e.octets := List.append_cancel_right all
  obtain ⟨again, untouched⟩ := header (kind ▸ rfl)
  refine ⟨read, e, same, fun zero => ?_, again⟩
  have written : f.encode = .ok f.octets := if_neg (by decide)
  have unchanged : f.octets = p :=
    Except.ok.inj (written.symm.trans (same ▸ untouched.mpr zero))
  exact absurd unchanged (by decide)

end Frame
end Multiplex
