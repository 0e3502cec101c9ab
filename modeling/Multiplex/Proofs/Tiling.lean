import Mathlib.Algebra.Ring.Nat
import Multiplex.Capture.Record
import Multiplex.Proofs.Canonical
import Multiplex.Proofs.Recording

/-! Where the frames of a capture begin. The sizes in the records are worked out from the frames,
not taken from the capture, so they fall short of it by what decoding forgets: the payloads of
heartbeats. Up to the first heartbeat with a payload they add up to where the next frame begins. -/

namespace Multiplex
namespace Envelope

/-- How many octets of a payload are missing from the size of the frame. -/
def dropped (e : Envelope) : Nat := if e.kind = .heartbeat then e.payload.length else 0

/-- How many octets are in front of the envelope with this number, counted from zero. -/
def offset (es : List Envelope) (k : Nat) : Nat := ((es.take k).map wireSize).sum

variable {limit k : Nat} {e : Envelope} {es : List Envelope} {f : Frame} {frames : List Frame}

@[simp] theorem offset_zero (es : List Envelope) : offset es 0 = 0 := rfl

@[simp] theorem offset_cons_succ (e : Envelope) (es : List Envelope) (k : Nat) :
    offset (e :: es) (k + 1) = e.wireSize + offset es k := by
  simp [offset]

theorem length_flatMap_octets (es : List Envelope) :
    (es.flatMap octets).length = (es.map wireSize).sum := by
  simp [List.length_flatMap]

theorem length_kept_add_dropped (e : Envelope) :
    e.canonical.payload.length + e.dropped = e.payload.length := by
  simp only [canonical, dropped]
  cases e.kind <;> simp [FrameKind.kept]

theorem wireSize_add_dropped (found : e.answer = .ok f) : f.wireSize + e.dropped = e.wireSize := by
  have kept := e.length_kept_add_dropped
  rw [← Frame.wireSize_envelope, Frame.envelope_of_answer found]
  simp only [wireSize]
  omega

theorem dropped_eq_zero_iff : e.dropped = 0 ↔ (e.kind = .heartbeat → e.payload = []) := by
  unfold dropped
  by_cases heartbeat : e.kind = .heartbeat
  · simp [heartbeat]
  · simp [heartbeat]

namespace Hold

theorem take (h : Hold limit es frames) (k : Nat) : Hold limit (es.take k) (frames.take k) := by
  induction h generalizing k with
  | nil => simpa using Hold.nil
  | cons fits found _ ih =>
    cases k with
    | zero => exact .nil
    | succ k => exact .cons fits found (ih k)

theorem sum_sizes (h : Hold limit es frames) :
    (frames.map Frame.wireSize).sum + (es.map dropped).sum = (es.map wireSize).sum := by
  induction h with
  | nil => rfl
  | cons _ found _ ih =>
    have first := wireSize_add_dropped found
    simp only [List.map_cons, List.sum_cons]
    omega

/-- Each frame is found where its envelope begins, and leaves what is behind that. -/
theorem decode_drop_offset (h : Hold limit es frames) (there : frames[k]? = some f) :
    Frame.decode limit ((es.flatMap octets).drop (offset es k)) =
      (.frame f, (es.flatMap octets).drop (offset es (k + 1))) := by
  induction h generalizing k with
  | nil => simp at there
  | @cons e es g frames fits found others ih =>
    have behind (n : Nat) : ((e :: es).flatMap octets).drop (e.wireSize + n) =
        (es.flatMap octets).drop n := by
      rw [List.flatMap_cons, ← e.length_octets, List.drop_length_add_append]
    cases k with
    | zero =>
      obtain rfl : g = f := by simpa using there
      have read := decode_octets_append fits (es.flatMap octets)
      rw [found] at read
      rw [offset_zero, offset_cons_succ, behind]
      exact read
    | succ k =>
      rw [offset_cons_succ, offset_cons_succ, behind, behind]
      exact ih (by simpa using there)

end Hold
end Envelope

theorem FrameRecord.sizes_ofFrames (frames : List Frame) :
    (ofFrames frames).map (·.size) = frames.map Frame.wireSize := by
  have numbered (index : Nat) :
      (ofFramesFrom index frames).map (·.size) = frames.map Frame.wireSize := by
    induction frames generalizing index with
    | nil => rfl
    | cons f frames ih => exact congrArg (f.wireSize :: ·) (ih (index + 1))
  exact numbered 1

namespace Capture

/-- The records of a capture that was read: as many octets in front of a frame as the sizes of the
frames before it add up to are in front of it just if there is no heartbeat with a payload among
those, and what is missing otherwise are these payloads. -/
theorem sizes_of_decode (limit : Nat) (data : Octets) (frames : List Frame)
    (read : decode limit data = .ok frames) :
    let bs := stripHeader data
    let sizes := (FrameRecord.ofFrames frames).map (·.size)
    ∃ es, Envelope.Hold limit es frames ∧ bs = es.flatMap Envelope.octets ∧
      Envelope.offset es frames.length = bs.length ∧
      ∀ k,
        (∀ f, frames[k]? = some f → Frame.decode limit (bs.drop (Envelope.offset es k)) =
          (.frame f, bs.drop (Envelope.offset es (k + 1)))) ∧
        (sizes.take k).sum + ((es.take k).map Envelope.dropped).sum = Envelope.offset es k ∧
        ((sizes.take k).sum = Envelope.offset es k ↔
          ∀ e ∈ es.take k, e.kind = .heartbeat → e.payload = []) := by
  intro bs sizes
  obtain ⟨es, hold, all⟩ := decode_eq_ok_iff.mp read
  have told (k : Nat) : sizes.take k = (frames.take k).map Frame.wireSize := by
    rw [List.map_take, ← FrameRecord.sizes_ofFrames]
  refine ⟨es, hold, all, ?_, fun k => ?_⟩
  · change _ = (stripHeader data).length
    rw [all, Envelope.length_flatMap_octets, Envelope.offset, ← hold.length, List.take_length]
  · have sum := (hold.take k).sum_sizes
    rw [← told] at sum
    refine ⟨fun f there => ?_, sum, ?_⟩
    · change Frame.decode limit ((stripHeader data).drop _) = (_, (stripHeader data).drop _)
      rw [all]
      exact hold.decode_drop_offset there
    · have short : (sizes.take k).sum = Envelope.offset es k ↔
          ((es.take k).map Envelope.dropped).sum = 0 := by
        rw [Envelope.offset]
        omega
      rw [short, List.sum_eq_zero_iff_forall_eq_nat]
      simp only [List.forall_mem_map, Envelope.dropped_eq_zero_iff]

theorem sizes_of_decode_beating :
    let data := protocolHeader ++ [3, 0, 1, 0, 0, 0, 2, 0xCE, 8, 0xCE, 8, 0, 0, 0, 0, 0, 1, 7, 0xCE,
      3, 0, 1, 0, 0, 0, 0, 0xCE]
    let frames : List Frame := [⟨1, .body [0xCE, 8]⟩, ⟨0, .heartbeat⟩, ⟨1, .body []⟩]
    let sizes := (FrameRecord.ofFrames frames).map (·.size)
    decode 10 data = .ok frames ∧ sizes = [10, 8, 8] ∧
      ∃ es, Envelope.Hold 10 es frames ∧ Envelope.offset es 3 = 27 ∧
        ∃ e ∈ es, e.kind = .heartbeat ∧ e.payload ≠ [] := by
  intro data frames sizes
  have read : decode 10 data = .ok frames := by cbv
  obtain ⟨es, hold, -, ends, tiles⟩ := sizes_of_decode 10 data frames read
  have length : es.length = 3 := hold.length
  have ends : Envelope.offset es 3 = 27 := ends
  have short : ¬ ∀ e ∈ es.take 3, e.kind = .heartbeat → e.payload = [] := by
    rw [← (tiles 3).2.2, ends]
    decide
  rw [List.take_of_length_le (Nat.le_of_eq length)] at short
  exact ⟨read, rfl, es, hold, ends, by simpa using short⟩

/-- Of a heartbeat with a payload not even the sum of all sizes is right. -/
theorem untiled_beating :
    ¬ ∀ limit data frames, decode limit data = .ok frames →
      ((FrameRecord.ofFrames frames).map (·.size)).sum = (stripHeader data).length := by
  intro tiles
  have read : decode Frame.defaultLimit [8, 0, 0, 0, 0, 0, 1, 7, 0xCE] = .ok [⟨0, .heartbeat⟩] := by
    cbv
  exact absurd (tiles _ _ _ read) (by decide)

end Capture
end Multiplex
