import Multiplex.Proofs.Encoding
import Multiplex.Proofs.Streaming

/-! How far a reader reads ahead. A read is made only for a buffer that begins with nothing
complete. Such a buffer is shorter than the largest frame within the limit, whatever size it tells,
so that never more than that and one read is held, whatever a stream brings and whatever fails. For
every limit that a size can reach there is a stream for which so much is held. -/

namespace Multiplex

namespace Frame

variable {limit : Nat} {buffer : Octets}

/-- The seven octets in front of a payload have not all come, or the size they tell is within the
limit. -/
theorem length_le_of_incomplete (part : (decode limit buffer).1 = .incomplete) :
    buffer.length ≤ max limit 7 - 1 := by
  rcases incomplete_iff.mp part with short | ⟨-, small, lacking⟩ <;> omega

theorem ne_incomplete_of_large (come : 7 ≤ buffer.length)
    (large : limit < toldSize buffer + overhead) : (decode limit buffer).1 ≠ .incomplete := by
  intro part
  rcases incomplete_iff.mp part with short | ⟨-, small, -⟩ <;> omega

end Frame

namespace Arrival

variable {arrivals : List Arrival} {most : Nat}

theorem length_next_le (small : ∀ a ∈ arrivals, (joined [a]).length ≤ most) :
    (joined [next arrivals]).length ≤ most := by
  cases arrivals with
  | nil => exact Nat.zero_le most
  | cons a arrivals => exact small a (.head _)

end Arrival

namespace Reader

open Arrival

variable {limit most n : Nat} {rest bs part : Octets} {answer : Except FrameError Frame}
  {arrivals : List Arrival} {reports : List (Except FrameError Frame)} {r s : Reader}

/-- No read brings more than `most` octets, and no more is held than such a read brings to a buffer
that begins with nothing complete. -/
structure Bounded (limit most : Nat) (r : Reader) : Prop where
  bound : r.limit = limit
  small : ∀ a ∈ r.arrivals, (joined [a]).length ≤ most
  held : r.buffer.length ≤ max limit 7 - 1 + most

namespace Bounded

theorem start (small : ∀ a ∈ arrivals, (joined [a]).length ≤ most) :
    Bounded limit most (start limit arrivals) where
  bound := rfl
  small := small
  held := Nat.zero_le _

theorem settle (h : Bounded limit most r) (there : settled r.limit r.buffer = some (answer, rest)) :
    Bounded limit most { r with buffer := rest } where
  bound := h.bound
  small := h.small
  held := Nat.le_trans (suffix_of_settled there).length_le h.held

/-- However much was held before the read: without anything complete it was little. -/
theorem read (h : Bounded limit most r) (unsettled : settled r.limit r.buffer = none) :
    Bounded limit most
      ⟨r.limit, r.buffer ++ joined [next r.arrivals], r.arrivals.tail, r.reads + 1⟩ where
  bound := h.bound
  small a mem := h.small a (List.mem_of_mem_tail mem)
  held := by
    have part := Frame.length_le_of_incomplete (settled_eq_none_iff.mp unsettled)
    rw [List.length_append, ← h.bound]
    exact Nat.add_le_add part (length_next_le h.small)

theorem fail (h : Bounded limit most r) :
    Bounded limit most { r with arrivals := r.arrivals.tail, reads := r.reads + 1 } where
  bound := h.bound
  small a mem := h.small a (List.mem_of_mem_tail mem)
  held := h.held

theorem along (h : Bounded limit most r) (t : Trail r reports s) : Bounded limit most s := by
  induction t with
  | refl => exact h
  | settle _ there ih => exact ih.settle there
  | read _ unsettled _ ih => exact ih.read unsettled
  | fail _ _ _ ih => exact ih.fail

theorem callAll (h : Bounded limit most r) (calls : List ReaderCall) :
    Bounded limit most (r.callAll calls).2 :=
  h.along (Trail.refl.callAll calls)

end Bounded

theorem settled_of_lt_reads_call {c : ReaderCall} (made : r.reads + n < (r.call c).2.reads) :
    settled r.limit (r.buffer ++ joined (first n r.arrivals)) = none := by
  cases c with
  | readFrame =>
    have read : (r.call .readFrame).2 = (readFrom r.limit r.buffer r.reads r.arrivals).2 :=
      congrArg Prod.snd r.readFrame_eq
    rw [read] at made
    exact settled_of_lt_reads made
  | nextBuffered =>
    have unread : (r.call .nextBuffered).2.reads = r.reads := by
      rw [call_nextBuffered]
      split <;> rfl
    omega
  | releaseBuffers =>
    simp only [call, releaseBuffers_eq] at made
    omega

/-- Whatever a stream brings, in reads of no more than was asked for, whatever fails in between, and
whatever is called when: the buffer holds at most one read more than the largest frame within the
limit lacking an octet, or than what stands in front of a payload lacking one. For whichever call
makes a read, the buffer begins with nothing complete just then, and so is no longer than that; and
a buffer that tells a size beyond the limit never does. -/
theorem bounded_callAll (limit : Nat) (calls : List ReaderCall)
    (small : ∀ a ∈ arrivals, (joined [a]).length ≤ chunk) :
    let r := ((start limit arrivals).callAll calls).2
    r.buffer.length ≤ max limit 7 - 1 + chunk ∧
    (∀ c n, r.reads + n < (r.call c).2.reads →
      let before := r.buffer ++ joined (first n r.arrivals)
      Frame.decode limit before = (.incomplete, before) ∧ before.length ≤ max limit 7 - 1) ∧
    ∀ buffer, 7 ≤ buffer.length → limit < Frame.toldSize buffer + Frame.overhead →
      (Frame.decode limit buffer).1 ≠ .incomplete := by
  intro r
  have bounded : Bounded limit chunk r := (Bounded.start small).callAll calls
  refine ⟨bounded.held, fun c n made => ?_, fun buffer => Frame.ne_incomplete_of_large⟩
  have unsettled := settled_of_lt_reads_call made
  rw [bounded.bound] at unsettled
  have part := settled_eq_none_iff.mp unsettled
  exact ⟨Frame.decode_of_incomplete part, Frame.length_le_of_incomplete part⟩

/-- A size beyond the limit comes in two reads, failures between them. The second one is made when
only an octet of the size is there, and then the size is refused. -/
theorem bounded_callAll_hostile :
    let arrivals : List Arrival := [.octets [3, 0, 1, 0xFF], .failure ⟨.interrupted, "EINTR"⟩,
      .failure ⟨.timedOut, "late"⟩, .octets [0xFF, 0xFF, 0xFF, 1, 2], .octets [3, 4]]
    let r := ((start 16 arrivals).callAll [.readFrame, .nextBuffered]).2
    let refusing := (r.call .readFrame).2
    (∀ a ∈ arrivals, (joined [a]).length ≤ chunk) ∧ r.buffer.length ≤ 15 + chunk ∧
      r.reads + 0 < refusing.reads ∧ Frame.decode 16 r.buffer = (.incomplete, r.buffer) ∧
      refusing.buffer = [3, 0, 1, 0xFF, 0xFF, 0xFF, 0xFF, 1, 2] ∧
      16 < Frame.toldSize refusing.buffer + Frame.overhead ∧
      (Frame.decode 16 refusing.buffer).1 ≠ .incomplete := by
  intro arrivals r refusing
  have small : ∀ a ∈ arrivals, (joined [a]).length ≤ chunk := by decide
  have waiting : r =
      ⟨16, [3, 0, 1, 0xFF], [.octets [0xFF, 0xFF, 0xFF, 1, 2], .octets [3, 4]], 3⟩ := by
    simp only [r, callAll, call, readFrame_eq]
    rfl
  have full : refusing =
      ⟨16, [3, 0, 1, 0xFF, 0xFF, 0xFF, 0xFF, 1, 2], [.octets [3, 4]], 4⟩ := by
    simp only [refusing, waiting, call, readFrame_eq]
    rfl
  have made : r.reads + 0 < refusing.reads := by
    rw [waiting, full]
    decide
  have come : 7 ≤ refusing.buffer.length := by
    rw [full]
    decide
  have large : 16 < Frame.toldSize refusing.buffer + Frame.overhead := by
    rw [full]
    decide
  obtain ⟨bounded, only, refused⟩ := bounded_callAll 16 [.readFrame, .nextBuffered] small
  obtain ⟨part, -⟩ := only .readFrame 0 made
  rw [first, joined, List.append_nil] at part
  exact ⟨small, bounded, made, part, congrArg buffer full, large, refused _ come large⟩

/-- As much of a frame as can come without being one. An octet 0 behind it is a wrong one, and the
failure that it makes takes nothing away. -/
structure Fullest (limit : Nat) (part : Octets) : Prop where
  length : part.length = max limit 7 - 1
  unsettled : settled limit part = none
  failed (more : Octets) :
    ∃ e, settled limit (part ++ 0 :: more) = some (.error e, part ++ 0 :: more)

theorem fullest_of_lt (low : limit < Frame.overhead) : Fullest limit [3, 0, 0, 0, 0, 0] where
  length := by
    rw [Nat.max_eq_right (Nat.le_of_lt_succ low)]
    rfl
  unsettled := settled_eq_none_iff.mpr rfl
  failed more := by
    let e : Envelope := ⟨.body, 0, []⟩
    have front : e.octets.take 7 = [3, 0, 0, 0, 0, 0, 0] := by decide
    have begins : e.octets.take 7 <+: [3, 0, 0, 0, 0, 0] ++ 0 :: more := ⟨more, by rw [front]; rfl⟩
    exact ⟨_, settled_of_failed (Envelope.decode_of_large (Nat.zero_le _) (e := e) low begins)⟩

theorem fullest_of_ge (high : Frame.overhead ≤ limit)
    (sayable : limit ≤ Frame.maxPayload + Frame.overhead) :
    let e : Envelope := ⟨.body, 0, List.replicate (limit - Frame.overhead) 0⟩
    Fullest limit e.octets.dropLast := by
  intro e
  have size : e.wireSize = limit := by
    rw [Envelope.wireSize, List.length_replicate, Nat.sub_add_cancel high]
  have fits : e.Fits limit := by
    refine ⟨?_, Nat.le_of_eq size⟩
    rw [List.length_replicate]
    exact Nat.sub_le_of_le_add sayable
  have length : e.octets.dropLast.length = limit - 1 := by
    rw [List.length_dropLast, Envelope.length_octets, size]
  have proper : e.octets.dropLast ≠ e.octets := by
    intro same
    rw [same, Envelope.length_octets, size] at length
    simp only [Frame.overhead] at high
    omega
  have whole := Envelope.decode_octets_append fits []
  rw [List.append_nil] at whole
  refine ⟨?_, ?_, fun more => ?_⟩
  · rw [length, Nat.max_eq_left (Nat.le_of_succ_le high)]
  · exact settled_eq_none_iff.mpr
      (Frame.incomplete_of_begins whole (List.dropLast_prefix _) proper)
  · exact ⟨_, settled_of_failed (Envelope.decode_of_unended fits (by decide) more)⟩

theorem buffer_callAll_of_failed (unsettled : settled limit part = none)
    (failed : settled limit (part ++ bs) = some (answer, part ++ bs)) (brought : bs ≠ []) :
    ((start limit (Arrival.reads part ++ [.octets bs])).callAll [.readFrame]).2.buffer =
      part ++ bs := by
  have begun : settled limit ([] ++ joined (Arrival.reads part)) = none := by
    rw [joined_reads]
    exact unsettled
  obtain ⟨reads', read⟩ :=
    readFrom_of_unfound (brought_of_mem_reads part) begun 0 [.octets bs]
  rw [joined_reads, List.nil_append, readFrom_of_unsettled unsettled] at read
  simp only [next, List.headD_cons, setback?_octets brought, joined_octets,
    readFrom_of_settled failed] at read
  simp only [callAll, call, readFrame_eq, start, read]

/-- So much is really held, whatever limit there is that a size can reach. -/
theorem exists_length_buffer_eq (sayable : limit ≤ Frame.maxPayload + Frame.overhead) :
    ∃ arrivals : List Arrival, (∀ a ∈ arrivals, (joined [a]).length ≤ chunk) ∧
      ((start limit arrivals).callAll [.readFrame]).2.buffer.length = max limit 7 - 1 + chunk := by
  obtain ⟨part, full⟩ : ∃ part, Fullest limit part := by
    rcases Nat.lt_or_ge limit Frame.overhead with low | high
    · exact ⟨_, fullest_of_lt low⟩
    · exact ⟨_, fullest_of_ge high sayable⟩
  let bs : Octets := 0 :: List.replicate (chunk - 1) 0
  have most : bs.length = chunk := by
    rw [List.length_cons, List.length_replicate, chunk]
  obtain ⟨e, failed⟩ := full.failed (List.replicate (chunk - 1) 0)
  refine ⟨Arrival.reads part ++ [.octets bs], fun a mem => ?_, ?_⟩
  · rcases List.mem_append.mp mem with mem | mem
    · obtain ⟨piece, rfl, -, few⟩ := exists_octets_of_mem_reads mem
      rw [joined_octets]
      exact few
    · obtain rfl := List.mem_singleton.mp mem
      rw [joined_octets]
      exact Nat.le_of_eq most
  · rw [buffer_callAll_of_failed full.unsettled failed (List.cons_ne_nil _ _), List.length_append,
      full.length, most]

end Reader
end Multiplex
