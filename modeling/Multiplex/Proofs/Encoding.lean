import Multiplex.Proofs.Envelope

/-! What is written can be read back: decoding undoes encoding, with every field as it was, and
leaves what stands behind. No encoding begins with another one, so that less than a whole one is
never taken for a frame. -/

namespace Multiplex

open Octets

theorem Payload.decode_octets (p : Payload) : decode p.kind p.octets = .ok p := by
  cases p with
  | method m =>
    have read : decode .method (method m).octets =
        .ok (.method ⟨⟨UInt16.ofNat (value (bigEndian 2 m.id.classId.toNat)),
          UInt16.ofNat (value (bigEndian 2 m.id.number.toNat))⟩, m.args⟩) := rfl
    rw [ofNat_value_bigEndian16, ofNat_value_bigEndian16] at read
    exact read
  | header h =>
    have read : decode .header (header h).octets =
        .ok (.header ⟨UInt16.ofNat (value (bigEndian 2 h.classId.toNat)),
          UInt64.ofNat (value (bigEndian 8 h.bodySize.toNat)), h.properties⟩) := rfl
    rw [ofNat_value_bigEndian16, ofNat_value_bigEndian64] at read
    exact read
  | body fragment => rfl
  | heartbeat => rfl

namespace Frame

variable {limit : Nat} {f g : Frame} {bs whole rest : Octets} {d : Decoded}

def envelope (f : Frame) : Envelope := ⟨f.kind, f.channel, f.payload.octets⟩

@[simp] theorem octets_envelope (f : Frame) : f.envelope.octets = f.octets := by
  simp [envelope, Envelope.octets, octets]

@[simp] theorem wireSize_envelope (f : Frame) : f.envelope.wireSize = f.wireSize := by
  simp [envelope, Envelope.wireSize, wireSize, Nat.add_comm]

theorem answer_envelope (f : Frame) : f.envelope.answer = .ok f := by
  simp [envelope, Envelope.answer, kind, Payload.decode_octets, Except.map]

theorem fits_envelope : f.envelope.Fits limit ↔ f.Fits limit := by
  simp [Envelope.Fits, Fits, envelope, Envelope.wireSize, wireSize, Nat.add_comm]

theorem decode_octets_append (fits : f.Fits limit) (rest : Octets) :
    decode limit (f.octets ++ rest) = (.frame f, rest) := by
  have read := Envelope.decode_octets_append (fits_envelope.mpr fits) rest
  rwa [octets_envelope, answer_envelope] at read

theorem decode_octets (fits : f.Fits limit) : decode limit f.octets = (.frame f, []) := by
  simpa using decode_octets_append fits []

theorem incomplete_of_begins (read : decode limit whole = (d, [])) (begins : bs <+: whole)
    (proper : bs ≠ whole) : (decode limit bs).1 = .incomplete := by
  refine Decidable.byContradiction fun complete => ?_
  obtain ⟨more, rfl⟩ := begins
  rw [decode_append more complete, Prod.mk.injEq, List.append_eq_nil_iff] at read
  exact proper (by rw [read.2.2, List.append_nil])

theorem incomplete_of_begins_octets (fits : f.Fits limit) (begins : bs <+: f.octets)
    (proper : bs ≠ f.octets) : (decode limit bs).1 = .incomplete :=
  incomplete_of_begins (decode_octets fits) begins proper

/-- No encoding begins with another one. -/
theorem eq_of_begins_octets (fits : g.Fits limit) (other : f.Fits limit)
    (begins : g.octets <+: f.octets) : g.octets = f.octets := by
  refine Decidable.byContradiction fun proper => ?_
  simpa [decode_octets fits] using incomplete_of_begins_octets other begins proper

/-- A frame whose size can be said is written in as many octets as it tells. Within the limit it is
read back whatever follows it, and no earlier than its last octet; beyond it, its first seven octets
are refused. -/
theorem decode_encode (small : f.payload.size ≤ maxPayload) (limit : Nat) :
    ∃ bs, f.encode = .ok bs ∧ bs.length = f.wireSize ∧
      (f.wireSize ≤ limit →
        (∀ rest, decode limit (bs ++ rest) = (.frame f, rest)) ∧
        ∀ part, part <+: bs → part ≠ bs → decode limit part = (.incomplete, part)) ∧
      (limit < f.wireSize → ∀ buffer, bs.take 7 <+: buffer →
        decode limit buffer = (.failed (.tooLarge f.wireSize limit), buffer)) := by
  have written : f.encode = .ok f.octets := if_neg (Nat.not_lt.mpr small)
  refine ⟨f.octets, written, f.length_octets, fun within => ?_, fun beyond buffer begins => ?_⟩
  · have fits : f.Fits limit := ⟨small, within⟩
    exact ⟨decode_octets_append fits, fun part begins proper =>
      decode_of_incomplete (incomplete_of_begins_octets fits begins proper)⟩
  · have told : f.envelope.payload.length ≤ maxPayload := by
      rw [envelope, Payload.length_octets]
      exact small
    rw [← octets_envelope] at begins
    rw [← wireSize_envelope] at beyond ⊢
    exact Envelope.decode_of_large told beyond begins

/-- A content header of 23 octets, where that is the limit and where it is one too many. -/
theorem decode_encode_boundary :
    let f : Frame := ⟨513, .header ⟨60, 4294967303, [0x80, 0, 0xCE]⟩⟩
    f.payload.size ≤ maxPayload ∧
      decode 23 (f.octets ++ [8, 0]) = (.frame f, [8, 0]) ∧
      decode 23 (f.octets.take 22) = (.incomplete, f.octets.take 22) ∧
      decode 22 (f.octets.take 7 ++ [1]) =
        (.failed (.tooLarge 23 22), f.octets.take 7 ++ [1]) := by
  intro f
  have small : f.payload.size ≤ maxPayload := by decide
  have written : f.encode = .ok f.octets := if_neg (Nat.not_lt.mpr small)
  obtain ⟨bs, written', -, within, -⟩ := decode_encode small 23
  obtain ⟨cs, written'', -, -, beyond⟩ := decode_encode small 22
  obtain rfl := Except.ok.inj (written.symm.trans written')
  obtain rfl := Except.ok.inj (written.symm.trans written'')
  obtain ⟨read, part⟩ := within (by decide)
  exact ⟨small, read _, part _ (List.take_prefix 22 _) (by decide),
    beyond (by decide) _ (List.prefix_append _ _)⟩

end Frame

end Multiplex
