import Multiplex.Command.Failure
import Multiplex.Proofs.Streaming

/-! Captures are read whole or not at all. What is read is exactly one frame behind the other, as a
reader of the same octets gets them up to the end of his stream, and what cannot be read is told by
its place: the number of the frame that cannot be decoded, or how many octets are left over. -/

namespace Multiplex

/-- Envelopes within the limit with these frames in them, one in each. -/
inductive Envelope.Hold (limit : Nat) : List Envelope → List Frame → Prop
  | nil : Hold limit [] []
  | cons {e : Envelope} {es : List Envelope} {f : Frame} {frames : List Frame}
    (fits : e.Fits limit) (found : e.answer = .ok f) (others : Hold limit es frames) :
    Hold limit (e :: es) (f :: frames)

theorem CommandFailure.ofFrame_of_decoding {e : FrameError} (decoding : e.ofStream = false)
    (context : String) : ofFrame context e = ⟨.dataInvalid, s!"{context}: {e.message}"⟩ := by
  cases e with
  | io | connectionClosed => cases decoding
  | _ => rfl

namespace Envelope.Hold

variable {limit : Nat} {es : List Envelope} {frames : List Frame}

theorem fit (h : Hold limit es frames) : ∀ e ∈ es, e.Fits limit := by
  induction h with
  | nil => simp
  | cons fits _ _ ih => exact List.forall_mem_cons.mpr ⟨fits, ih⟩

theorem found (h : Hold limit es frames) : es.map answer = frames.map .ok := by
  induction h with
  | nil => rfl
  | cons _ found _ ih => rw [List.map_cons, List.map_cons, found, ih]

theorem length (h : Hold limit es frames) : es.length = frames.length := by
  simpa using congrArg List.length h.found

end Envelope.Hold

namespace Capture

variable {limit index : Nat} {bs data rest : Octets} {f : Frame} {frames : List Frame}
  {es : List Envelope} {e : FrameError}

theorem stripHeader_cases (data : Octets) :
    data = protocolHeader ++ stripHeader data ∨
      ¬ protocolHeader <+: data ∧ data = stripHeader data := by
  unfold stripHeader
  by_cases begins : protocolHeader <+: data
  · rw [if_pos (List.isPrefixOf_iff_prefix.mpr begins)]
    obtain ⟨rest, rfl⟩ := begins
    exact .inl (by rw [List.drop_left])
  · rw [if_neg (begins ∘ List.isPrefixOf_iff_prefix.mp)]
    exact .inr ⟨begins, rfl⟩

section Frames

theorem framesFrom_of_frame (read : Frame.decode limit bs = (.frame f, rest)) :
    framesFrom index (Frame.drain limit false bs) =
      (f :: ·) <$> framesFrom (index + 1) (Frame.drain limit false rest) := by
  rw [Frame.drain_eq, read]
  rfl

theorem framesFrom_of_failed (read : (Frame.decode limit bs).1 = .failed e) :
    framesFrom index (Frame.drain limit false bs) = .error (.undecodable index e) := by
  have stops : (Decoded.failed e).resumes false = false := by cases e <;> rfl
  rw [Frame.drain_eq, read, if_neg (by simp [stops])]
  cases decoded : Frame.decode limit bs with
  | mk answer left =>
    rw [decoded] at read
    cases read
    rfl

theorem framesFrom_of_incomplete (read : (Frame.decode limit bs).1 = .incomplete) :
    framesFrom index (Frame.drain limit false bs) =
      if bs = [] then .ok [] else .error (.truncated bs.length) := by
  rw [Frame.drain_eq, Frame.decode_of_incomplete read, if_neg (by simp [Decoded.resumes])]
  cases bs <;> rfl

theorem framesFrom_of_hold (h : Envelope.Hold limit es frames) (index : Nat) (rest : Octets) :
    framesFrom index (Frame.drain limit false (es.flatMap Envelope.octets ++ rest)) =
      (frames ++ ·) <$> framesFrom (index + frames.length) (Frame.drain limit false rest) := by
  induction h generalizing index with
  | nil => simp
  | @cons e es f frames fits found _ ih =>
    have read : Frame.decode limit ((e :: es).flatMap Envelope.octets ++ rest) =
        (.frame f, es.flatMap Envelope.octets ++ rest) := by
      rw [List.flatMap_cons, List.append_assoc, Envelope.decode_octets_append fits, found]
      rfl
    rw [framesFrom_of_frame read, ih, List.length_cons, Nat.add_comm frames.length 1, Nat.add_assoc]
    simp

theorem exists_hold (limit : Nat) (bs : Octets) :
    ∃ es frames rest, Envelope.Hold limit es frames ∧ bs = es.flatMap Envelope.octets ++ rest ∧
      ∀ f, (Frame.decode limit rest).1 ≠ .frame f := by
  -- along the calls of the decoder, of which all but the last find a frame
  induction bs using Frame.drain.induct limit false with
  | case1 bs answer rest read resumes ih =>
    cases answer with
    | frame f =>
      obtain ⟨e, fits, all, found⟩ := Frame.decode_eq_frame_iff.mp read
      obtain ⟨es, frames, left, others, behind, ends⟩ := ih
      exact ⟨e :: es, f :: frames, left, .cons fits found others, by rw [all, behind]; simp, ends⟩
    | incomplete => cases resumes
    | failed e => cases e <;> cases resumes
  | case2 bs answer rest read stops =>
    refine ⟨[], [], bs, .nil, rfl, fun f found => ?_⟩
    rw [read] at found
    obtain rfl : answer = .frame f := found
    exact stops rfl

end Frames

/-- How reading octets as frames goes. -/
inductive Transcript (limit : Nat) (bs : Octets) : Except CaptureError (List Frame) → Prop
  | whole (es : List Envelope) (frames : List Frame) (hold : Envelope.Hold limit es frames)
    (all : bs = es.flatMap Envelope.octets) : Transcript limit bs (.ok frames)
  | undecodable (es : List Envelope) (frames : List Frame) (rest : Octets) (e : FrameError)
    (hold : Envelope.Hold limit es frames) (all : bs = es.flatMap Envelope.octets ++ rest)
    (failed : (Frame.decode limit rest).1 = .failed e) :
    Transcript limit bs (.error (.undecodable (frames.length + 1) e))
  | truncated (es : List Envelope) (frames : List Frame) (rest : Octets)
    (hold : Envelope.Hold limit es frames) (all : bs = es.flatMap Envelope.octets ++ rest)
    (incomplete : (Frame.decode limit rest).1 = .incomplete) (left : rest ≠ []) :
    Transcript limit bs (.error (.truncated rest.length))

theorem transcript_decode (limit : Nat) (data : Octets) :
    Transcript limit (stripHeader data) (decode limit data) := by
  obtain ⟨es, frames, rest, hold, all, ends⟩ := exists_hold limit (stripHeader data)
  have reads : decode limit data =
      (frames ++ ·) <$> framesFrom (1 + frames.length) (Frame.drain limit false rest) := by
    rw [decode, all, framesFrom_of_hold hold]
  rw [reads, Nat.add_comm 1]
  cases read : (Frame.decode limit rest).1 with
  | frame f => exact absurd read (ends f)
  | failed e =>
    rw [framesFrom_of_failed read]
    exact .undecodable es frames rest e hold all read
  | incomplete =>
    rw [framesFrom_of_incomplete read]
    by_cases empty : rest = []
    · subst rest
      rw [List.append_nil] at all
      have done : ((frames ++ ·) <$> .ok [] : Except CaptureError (List Frame)) = .ok frames :=
        congrArg Except.ok (List.append_nil frames)
      rw [if_pos rfl, done]
      exact .whole es frames hold all
    · rw [if_neg empty]
      exact .truncated es frames rest hold all read empty

theorem decode_eq_ok_iff : decode limit data = .ok frames ↔
    ∃ es, Envelope.Hold limit es frames ∧ stripHeader data = es.flatMap Envelope.octets := by
  constructor
  · intro read
    have transcript := transcript_decode limit data
    rw [read] at transcript
    cases transcript with
    | whole es _ hold all => exact ⟨es, hold, all⟩
  · rintro ⟨es, hold, all⟩
    have nothing : framesFrom (1 + frames.length) (Frame.drain limit false []) = .ok [] :=
      framesFrom_of_incomplete rfl
    have reads := framesFrom_of_hold hold 1 []
    rw [List.append_nil, ← all, nothing] at reads
    exact reads.trans (congrArg Except.ok (List.append_nil frames))

end Capture

namespace Reader

open Arrival

variable {limit : Nat} {bs rest : Octets} {arrivals : List Arrival} {frames : List Frame}

theorem decode_of_settled {f : Frame} (there : settled limit bs = some (.ok f, rest)) :
    Frame.decode limit bs = (.frame f, rest) := by
  unfold settled at there
  split at there <;> simp_all

theorem exists_hold_of_parse (found : parse limit frames.length bs = (frames.map .ok, rest)) :
    ∃ es, Envelope.Hold limit es frames ∧ bs = es.flatMap Envelope.octets ++ rest := by
  induction frames generalizing bs with
  | nil =>
    obtain ⟨-, rfl⟩ := Prod.mk.inj found
    exact ⟨[], .nil, rfl⟩
  | cons f frames ih =>
    rw [List.length_cons, parse] at found
    cases there : settled limit bs with
    | none => simp [there] at found
    | some p =>
      obtain ⟨answer, left⟩ := p
      simp only [there, List.map_cons, Prod.mk.injEq, List.cons.injEq] at found
      obtain ⟨⟨rfl, others⟩, behind⟩ := found
      obtain ⟨es, hold, later⟩ := ih (Prod.ext others behind)
      obtain ⟨e, fits, all, answer⟩ := Frame.decode_eq_frame_iff.mp (decode_of_settled there)
      exact ⟨e :: es, .cons fits answer hold, by rw [all, later]; simp⟩

theorem mem_of_mem_first {n : Nat} {a : Arrival} (more : arrivals.drop n ≠ [])
    (mem : a ∈ first n arrivals) : a ∈ arrivals := by
  induction n generalizing arrivals with
  | zero => cases mem
  | succ n ih =>
    cases arrivals with
    | nil => exact absurd List.drop_nil more
    | cons b arrivals =>
      rcases List.mem_cons.mp mem with rfl | later
      · exact .head _
      · exact .tail _ (ih more later)

theorem Faithful.arrivals_eq_nil {reports : List (Except FrameError Frame)} {r : Reader}
    (h : Faithful limit arrivals reports r) (brought : ∀ a ∈ arrivals, a.setback? = none)
    (failed : setbacks reports ≠ []) : r.arrivals = [] := by
  by_cases ended : arrivals.drop r.reads = []
  · rw [h.ahead, ended]
  · have unfailing : (first r.reads arrivals).filterMap (·.setback?) = [] :=
      List.filterMap_eq_nil_iff.mpr fun a mem => brought a (mem_of_mem_first ended mem)
    exact absurd (h.failed.trans unfailing) failed

/-- Reads that all bring something bring just these frames and then the end, if and only if they
bring envelopes with these frames in them. -/
theorem callAll_eq_iff (brought : ∀ a ∈ arrivals, a.setback? = none) :
    (let o := (start limit arrivals).callAll (List.replicate (frames.length + 1) .readFrame)
    o.1 = frames.map .ok ++ [.error .connectionClosed] ∧ o.2.buffer = []) ↔
      ∃ es, Envelope.Hold limit es frames ∧ joined arrivals = es.flatMap Envelope.octets := by
  constructor
  · rintro ⟨reports, empty⟩
    have faithful : Faithful limit arrivals _ _ :=
      Faithful.start.callAll (List.replicate (frames.length + 1) .readFrame)
    rw [List.nil_append, reports] at faithful
    have decoded : answers (frames.map .ok ++ [.error .connectionClosed]) = frames.map .ok := by
      simp [answers, setback?, FrameError.ofStream]
    have ended : setbacks (frames.map .ok ++ [.error .connectionClosed]) ≠ [] := by
      simp [setbacks, setback?, FrameError.ofStream]
    have found := faithful.found
    rw [decoded, List.length_map, empty, faithful.arrivals_eq_nil brought ended] at found
    obtain ⟨es, hold, all⟩ := exists_hold_of_parse found
    exact ⟨es, hold, all.trans (List.append_nil _)⟩
  · rintro ⟨es, hold, all⟩
    have there : [] ++ joined arrivals = es.flatMap Envelope.octets := all
    have read := callAll_envelopes 0 hold.fit brought there
    rw [hold.found, hold.length] at read
    exact read

end Reader

namespace Capture

open Arrival

/-- A capture with or without the header in front: it is read if and only if it is one whole frame
within the limit behind the other, which is to say that a reader of the same octets, in whatever
pieces they come, gets these frames and then the end of the stream, with nothing left over. Any
other capture is invalid data, and the complaint says which frame is the first that cannot be
decoded, counted from one, or how many octets are left behind the last frame. -/
theorem whole_or_told (limit : Nat) (data : Octets) :
    let bs := stripHeader data
    (data = protocolHeader ++ bs ∨ ¬ protocolHeader <+: data ∧ data = bs) ∧
    (∀ frames, decode limit data = .ok frames ↔
      ∃ es, Envelope.Hold limit es frames ∧ bs = es.flatMap Envelope.octets) ∧
    (∀ frames arrivals, (∀ a ∈ arrivals, a.setback? = none) → joined arrivals = bs →
      (decode limit data = .ok frames ↔
        let o := (Reader.start limit arrivals).callAll
          (List.replicate (frames.length + 1) .readFrame)
        o.1 = frames.map .ok ++ [.error .connectionClosed] ∧ o.2.buffer = [])) ∧
    ∀ cause, decode limit data = .error cause →
      let failure := CommandFailure.ofCapture cause
      failure.status.code = 60 ∧ ∃ es frames rest,
        Envelope.Hold limit es frames ∧ bs = es.flatMap Envelope.octets ++ rest ∧
        ((∃ e, (Frame.decode limit rest).1 = .failed e ∧
          failure.message = s!"decode frame #{frames.length + 1}: {e.message}") ∨
        (Frame.decode limit rest).1 = .incomplete ∧ rest ≠ [] ∧
          failure.message =
            s!"capture ends with a truncated frame ({rest.length} trailing bytes)") := by
  intro bs
  refine ⟨stripHeader_cases data, fun frames => decode_eq_ok_iff,
    fun frames arrivals brought all => ?_, fun cause refused => ?_⟩
  · rw [decode_eq_ok_iff, Reader.callAll_eq_iff brought, all]
  · have transcript := transcript_decode limit data
    rw [refused] at transcript
    cases transcript with
    | undecodable es frames rest e hold all failed =>
      have decoding : e.ofStream = false := Reader.ofStream_of_decode (Prod.ext failed rfl)
      have told := CommandFailure.ofFrame_of_decoding decoding s!"decode frame #{frames.length + 1}"
      refine ⟨?_, es, frames, rest, hold, all, .inl ⟨e, failed, ?_⟩⟩
      · rw [CommandFailure.ofCapture, told]
        rfl
      · rw [CommandFailure.ofCapture, told]
        rfl
    | truncated es frames rest hold all incomplete left =>
      exact ⟨rfl, es, frames, rest, hold, all, .inr ⟨incomplete, left, rfl⟩⟩

/-- A heartbeat with a payload and a piece of a body behind the header, in two pieces with an
interruption in between, and the same with the beginning of a third frame. -/
theorem whole_or_told_piecewise :
    let es : List Envelope := [⟨.heartbeat, 0, [7]⟩, ⟨.body, 1, [0xCE]⟩]
    let frames : List Frame := [⟨0, .heartbeat⟩, ⟨1, .body [0xCE]⟩]
    let bs := es.flatMap Envelope.octets
    let arrivals : List Arrival :=
      [.octets (bs.take 12), .failure ⟨.interrupted, "EINTR"⟩, .octets (bs.drop 12)]
    decode 9 (protocolHeader ++ bs) = .ok frames ∧
      (∀ a ∈ arrivals, a.setback? = none) ∧ joined arrivals = bs ∧
      ((Reader.start 9 arrivals).callAll (List.replicate 3 .readFrame)).1 =
        frames.map .ok ++ [.error .connectionClosed] ∧
      decode 9 (bs ++ [3, 0]) = .error (.truncated 2) ∧
      (CommandFailure.ofCapture (.truncated 2)).status.code = 60 := by
  intro es frames bs arrivals
  have hold : Envelope.Hold 9 es frames :=
    .cons (by decide) rfl (.cons (by decide) rfl .nil)
  have brought : ∀ a ∈ arrivals, a.setback? = none := by decide
  obtain ⟨-, whole, read, -⟩ := whole_or_told 9 (protocolHeader ++ bs)
  have decoded : decode 9 (protocolHeader ++ bs) = .ok frames := (whole frames).mpr ⟨es, hold, rfl⟩
  have reported := (read frames arrivals brought rfl).mp decoded
  have cut : decode 9 (bs ++ [3, 0]) = .error (.truncated 2) := by cbv
  have told := (whole_or_told 9 (bs ++ [3, 0])).2.2.2 _ cut
  exact ⟨decoded, brought, rfl, reported.1, cut, told.1⟩

end Capture
end Multiplex
