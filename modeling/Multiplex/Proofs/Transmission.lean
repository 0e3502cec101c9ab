import Multiplex.Proofs.Encoding
import Multiplex.Proofs.Streaming
import Multiplex.Stream.Writer

/-! From a writer to a reader. Whatever pieces a stream takes and whatever pieces it brings, as long
as it goes on, the frames that are not too large come out as they went in. -/

namespace Multiplex

/-- Whether the stream has taken something, or the write is made again. -/
def Acceptance.goesOn (timed : Bool) : Acceptance → Bool
  | .upTo n => 0 < n
  | .failure e => Writer.again timed e

theorem Delivery.done_of_goesOn {timed : Bool} {script : List Acceptance} (bs : Octets)
    (goesOn : ∀ a ∈ script, a.goesOn timed) :
    (ofWrites (Writer.again timed) script bs).failure = none ∧
      (ofWrites (Writer.again timed) script bs).script <:+ script := by
  fun_induction ofWrites (Writer.again timed) script bs with
  | case1 | case2 => exact ⟨rfl, List.suffix_rfl⟩
  | case3 => exact absurd (goesOn _ (.head _)) (by simp [Acceptance.goesOn])
  | case4 n script bs left some d ih =>
    obtain ⟨done, suffix⟩ := ih fun a mem => goesOn a (.tail _ mem)
    exact ⟨done, suffix.trans (List.suffix_cons _ _)⟩
  | case5 e script bs left go d ih =>
    obtain ⟨done, suffix⟩ := ih fun a mem => goesOn a (.tail _ mem)
    exact ⟨done, suffix.trans (List.suffix_cons _ _)⟩
  | case6 e script bs left stop => exact absurd (goesOn _ (.head _)) stop

namespace Writer

variable {w : Writer} {f : Frame} {frames : List Frame}

theorem done_of_flushWith {again : IoError → Bool} {script : List (Option IoError)}
    (goesOn : ∀ e, some e ∈ script → again e) :
    (flushWith again script).1 = none ∧ (flushWith again script).2.2 <:+ script := by
  induction script with
  | nil => exact ⟨rfl, List.suffix_rfl⟩
  | cons answer script ih =>
    cases answer with
    | none => exact ⟨rfl, List.suffix_cons _ _⟩
    | some e =>
      obtain ⟨done, suffix⟩ := ih fun e mem => goesOn e (.tail _ mem)
      simp only [flushWith, goesOn e (.head _), if_true]
      exact ⟨done, suffix.trans (List.suffix_cons _ _)⟩

/-- A writer whose stream takes in the end whatever it is given. -/
structure Willing (w : Writer) : Prop where
  writes : ∀ a ∈ w.writes, a.goesOn w.timed
  flushes : ∀ e, some e ∈ w.flushes → again w.timed e

namespace Willing

theorem writeFrame (h : w.Willing) (fits : f.Fits w.limit) :
    ∃ next, w.writeFrame f = (.ok (), next) ∧ next.Willing ∧ next.limit = w.limit ∧
      next.accepted.octets = w.accepted.octets ++ f.octets := by
  obtain ⟨written, writes⟩ := Delivery.done_of_goesOn f.octets h.writes
  obtain ⟨flushed, flushes⟩ := done_of_flushWith h.flushes
  rw [writeFrame_of_fits fits]
  simp only [written, flush, flushed]
  refine ⟨_, rfl, ⟨?_, ?_⟩, rfl, ?_⟩
  · exact fun a mem => h.writes a (writes.mem mem)
  · exact fun e mem => h.flushes e (flushes.mem mem)
  · rw [Spool.octets_push, Delivery.accepted_of_done written]

theorem callAll (h : w.Willing) (small : ∀ f ∈ frames, f.payload.size ≤ Frame.maxPayload) :
    let o := w.callAll (frames.map .writeFrame)
    o.1.map (·.result) = frames.map (fun f =>
      if f.wireSize ≤ w.limit then .ok () else .error (.tooLarge f.wireSize w.limit)) ∧
    o.2.accepted.octets =
      w.accepted.octets ++ (frames.filter (·.wireSize ≤ w.limit)).flatMap Frame.octets := by
  induction frames generalizing w with
  | nil => simp [Writer.callAll]
  | cons f frames ih =>
    have rest := fun g (mem : g ∈ frames) => small g (.tail _ mem)
    by_cases within : f.wireSize ≤ w.limit
    · obtain ⟨next, wrote, willing, limit, accepted⟩ := h.writeFrame ⟨small f (.head _), within⟩
      have later := ih willing rest
      simp only [limit, accepted] at later
      simp [Writer.callAll, Writer.call, wrote, within, later]
    · have refused := writeFrame_of_large (Nat.not_le.mp within)
      have later := ih h rest
      simp [Writer.callAll, Writer.call, refused, within, later]

end Willing

end Writer

namespace Reader

open Arrival

variable {limit : Nat} {buffer : Octets} {arrivals : List Arrival} {frames : List Frame}

theorem callAll_of_brought (reads : Nat) (fit : ∀ f ∈ frames, f.Fits limit)
    (brought : ∀ a ∈ arrivals, a.setback? = none)
    (all : buffer ++ joined arrivals = frames.flatMap Frame.octets) :
    let o := Reader.callAll ⟨limit, buffer, arrivals, reads⟩
      (List.replicate (frames.length + 1) .readFrame)
    o.1 = frames.map .ok ++ [.error .connectionClosed] ∧ o.2.buffer = [] := by
  have fit' : ∀ e ∈ frames.map Frame.envelope, e.Fits limit := by
    simpa [Frame.fits_envelope] using fit
  have all' : buffer ++ joined arrivals = (frames.map Frame.envelope).flatMap Envelope.octets := by
    simpa [List.flatMap_map] using all
  have read := callAll_envelopes reads fit' brought all'
  rw [List.length_map, List.map_map] at read
  rwa [show Envelope.answer ∘ Frame.envelope = .ok from funext Frame.answer_envelope] at read

end Reader

/-- Frames are written to a stream that takes something of whatever it is given, or lets the same be
tried again, and what it has taken is read in pieces of any size, with interruptions. Just the
frames that are too large are refused, and the others are read as they were, in order, up to the end
of the stream, with nothing left over. -/
theorem Writer.transmits (limit : Nat) (timed : Bool) {frames : List Frame}
    {writes : List Acceptance} {flushes : List (Option IoError)} {arrivals : List Arrival}
    (small : ∀ f ∈ frames, f.payload.size ≤ Frame.maxPayload)
    (taking : ∀ a ∈ writes, a.goesOn timed) (flushing : ∀ e, some e ∈ flushes → again timed e)
    (bringing : ∀ a ∈ arrivals, a.setback? = none)
    (same : Arrival.joined arrivals =
      ((start limit timed writes flushes).callAll (frames.map .writeFrame)).2.accepted.octets) :
    let sent := (start limit timed writes flushes).callAll (frames.map .writeFrame)
    let fitting := frames.filter (·.wireSize ≤ limit)
    let read := (Reader.start limit arrivals).callAll
      (List.replicate (fitting.length + 1) .readFrame)
    sent.1.map (·.result) = frames.map (fun f =>
      if f.wireSize ≤ limit then .ok () else .error (.tooLarge f.wireSize limit)) ∧
    read.1 = fitting.map .ok ++ [.error .connectionClosed] ∧ read.2.buffer = [] := by
  intro sent fitting read
  have willing : (start limit timed writes flushes).Willing := ⟨taking, flushing⟩
  obtain ⟨results, accepted⟩ := willing.callAll small
  have fit : ∀ f ∈ fitting, f.Fits limit := by
    intro f mem
    obtain ⟨mem, within⟩ := List.mem_filter.mp mem
    exact ⟨small f mem, of_decide_eq_true within⟩
  exact ⟨results, Reader.callAll_of_brought 0 fit bringing (same.trans accepted)⟩

/-- The second frame is an octet too large, and the payload of the third one looks like ends of
frames. The stream stops short at every turn. -/
theorem Writer.transmits_haltingly :
    let frames : List Frame := [⟨1, .method (.bare .basicAck)⟩,
      ⟨1, .body [1, 2, 3, 4, 5, 6, 7, 8, 9]⟩, ⟨1, .body [0xCE, 0xCE]⟩]
    let interrupted : IoError := ⟨.interrupted, "EINTR"⟩
    let writes : List Acceptance :=
      [.upTo 3, .failure interrupted, .upTo 200, .failure ⟨.wouldBlock, "EAGAIN"⟩, .upTo 1]
    let flushes : List (Option IoError) := [some interrupted, none]
    let arrivals : List Arrival := [.octets [1, 0, 1, 0, 0], .failure interrupted,
      .octets [0, 4, 0, 60, 0, 80, 0xCE, 3], .octets [0, 1, 0, 0, 0, 2, 0xCE, 0xCE, 0xCE]]
    let sent := (start 16 false writes flushes).callAll (frames.map .writeFrame)
    let read := (Reader.start 16 arrivals).callAll (List.replicate 3 .readFrame)
    (∀ f ∈ frames, f.payload.size ≤ Frame.maxPayload) ∧ (∀ a ∈ writes, a.goesOn false) ∧
    (∀ e, some e ∈ flushes → again false e) ∧ (∀ a ∈ arrivals, a.setback? = none) ∧
    Arrival.joined arrivals = sent.2.accepted.octets ∧
    sent.1.map (·.result) = [.ok (), .error (.tooLarge 17 16), .ok ()] ∧
    read.1 = [.ok ⟨1, .method (.bare .basicAck)⟩, .ok ⟨1, .body [0xCE, 0xCE]⟩,
      .error .connectionClosed] ∧ read.2.buffer = [] := by
  intro frames interrupted writes flushes arrivals sent read
  have small : ∀ f ∈ frames, f.payload.size ≤ Frame.maxPayload := by decide
  have taking : ∀ a ∈ writes, a.goesOn false := by decide
  have flushing : ∀ e, some e ∈ flushes → again false e := by simp [flushes, interrupted, again]
  have bringing : ∀ a ∈ arrivals, a.setback? = none := by decide
  have same : Arrival.joined arrivals = sent.2.accepted.octets := by decide +kernel
  exact ⟨small, taking, flushing, bringing, same,
    transmits 16 false small taking flushing bringing same⟩

end Multiplex
