import Multiplex.Proofs.Envelope
import Multiplex.Stream.Reader

/-! However a stream is cut into reads, and whatever fails in between, its frames are those of its
octets. What has been reported is what decoding finds in all the octets, one frame behind the other,
as far as they have come, and what has come beyond that is in the buffer. -/

namespace Multiplex

/-- Whether it is the stream that failed, and not what came of it. -/
def FrameError.ofStream : FrameError → Bool
  | io _ | connectionClosed => true
  | invalidType _ | missingEnd _ | tooLarge .. | malformed _ => false

namespace Arrival

/-- What a read fails with, unless it brings something or is made again. -/
def setback? : Arrival → Option FrameError
  | .octets [] => some .connectionClosed
  | .octets (_ :: _) => none
  | .failure e => if e.kind = .interrupted then none else some (.io e)

/-- What the next read brings. Behind all that a stream was given it has ended. -/
def next (arrivals : List Arrival) : Arrival := arrivals.headD (.octets [])

def first : Nat → List Arrival → List Arrival
  | 0, _ => []
  | n + 1, arrivals => next arrivals :: first n arrivals.tail

variable {a : Arrival} {arrivals : List Arrival} {e : FrameError}

theorem first_succ (n : Nat) (arrivals : List Arrival) :
    first (n + 1) arrivals = first n arrivals ++ [next (arrivals.drop n)] := by
  induction n generalizing arrivals with
  | zero => rfl
  | succ n ih =>
    have later : first (n + 1) arrivals.tail =
        first n arrivals.tail ++ [next (arrivals.tail.drop n)] := ih arrivals.tail
    rw [first, later, first, List.cons_append, List.drop_tail]

theorem joined_next_append (arrivals : List Arrival) :
    joined [next arrivals] ++ joined arrivals.tail = joined arrivals := by
  cases arrivals with
  | nil => rfl
  | cons a arrivals => exact (joined_append [a] arrivals).symm

theorem joined_octets (bs : Octets) : joined [.octets bs] = bs := List.append_nil bs

theorem joined_of_setback (failed : a.setback? = some e) : joined [a] = [] := by
  cases a with
  | failure _ => rfl
  | octets bs =>
    cases bs with
    | nil => rfl
    | cons b bs => cases failed

theorem ofStream_of_setback (failed : a.setback? = some e) : e.ofStream := by
  unfold setback? at failed
  split at failed
  · cases failed
    rfl
  · cases failed
  · split at failed
    · cases failed
    · cases failed
      rfl

theorem kind_ne_interrupted_of_setback {cause : IoError} (failed : a.setback? = some (.io cause)) :
    cause.kind ≠ .interrupted := by
  unfold setback? at failed
  grind

theorem setback?_octets {bs : Octets} (some : bs ≠ []) : (octets bs).setback? = none := by
  cases bs with
  | nil => exact absurd rfl some
  | cons b bs => rfl

theorem exists_octets_of_mem_reads {bs : Octets} (mem : a ∈ reads bs) :
    ∃ part, a = .octets part ∧ part ≠ [] ∧ part.length ≤ chunk := by
  revert mem
  fun_induction reads bs with
  | case1 => exact fun mem => absurd mem List.not_mem_nil
  | case2 bs some ih =>
    intro mem
    obtain rfl | later := List.mem_cons.mp mem
    · refine ⟨bs.take chunk, rfl, fun none => ?_, List.length_take_le chunk bs⟩
      exact some ((List.take_eq_nil_iff.mp none).resolve_left (by decide))
    · exact ih later

theorem brought_of_mem_reads (bs : Octets) : ∀ a ∈ reads bs, a.setback? = none := by
  intro a mem
  obtain ⟨part, rfl, some, -⟩ := exists_octets_of_mem_reads mem
  exact setback?_octets some

end Arrival

namespace Reader

open Arrival

variable {limit n reads : Nat} {buffer rest found : Octets} {answer : Except FrameError Frame}
  {arrivals : List Arrival} {reports : List (Except FrameError Frame)} {r : Reader}

def setback? : Except FrameError Frame → Option FrameError
  | .ok _ => none
  | .error e => if e.ofStream then some e else none

/-- The failures of the stream among some reports. -/
def setbacks (reports : List (Except FrameError Frame)) : List FrameError :=
  reports.filterMap setback?

/-- The frames among some reports, and the failures to decode one. -/
def answers (reports : List (Except FrameError Frame)) : List (Except FrameError Frame) :=
  reports.filter (setback? · = none)

/-- The first `n` frames and failures that are found in a buffer, one behind the other, and what is
behind them. A failure that takes nothing away is found again. -/
def parse (limit : Nat) : Nat → Octets → List (Except FrameError Frame) × Octets
  | 0, buffer => ([], buffer)
  | n + 1, buffer =>
    match settled limit buffer with
    | some (answer, rest) => (answer :: (parse limit n rest).1, (parse limit n rest).2)
    | none => ([], buffer)

section Settled

theorem settled_append (h : settled limit buffer = some (answer, rest)) (more : Octets) :
    settled limit (buffer ++ more) = some (answer, rest ++ more) := by
  have complete : (Frame.decode limit buffer).1 ≠ .incomplete := by
    intro incomplete
    simp [settled_eq_none_iff.mpr incomplete] at h
  unfold settled at h ⊢
  rw [Frame.decode_append more complete]
  split at h <;> simp_all

theorem suffix_of_settled (h : settled limit buffer = some (answer, rest)) : rest <:+ buffer := by
  have suffix := Frame.decode_suffix limit buffer
  unfold settled at h
  split at h <;> simp_all

theorem ofStream_of_decode {e : FrameError} (h : Frame.decode limit buffer = (.failed e, rest)) :
    e.ofStream = false := by
  revert h
  fun_cases Frame.decode limit buffer with
  | case6 _ _ _ _ _ _ _ _ _ _ _ _ _ _ _ _ _ refused =>
    intro h
    cases h
    obtain ⟨why, rfl⟩ := Payload.malformed_of_decode refused
    rfl
  | case1 | case2 | case4 =>
    intro h
    cases h
    rfl
  | case3 | case5 | case7 =>
    intro h
    cases h

theorem setback?_of_settled (h : settled limit buffer = some (answer, rest)) :
    setback? answer = none := by
  unfold settled at h
  split at h
  · cases h
    rfl
  · rename_i failed
    cases h
    simp [setback?, ofStream_of_decode failed]
  · cases h

theorem parse_succ (h : parse limit n buffer = (reports, found)) (full : reports.length = n)
    (next : settled limit found = some (answer, rest)) :
    parse limit (n + 1) buffer = (reports ++ [answer], rest) := by
  induction n generalizing buffer reports with
  | zero =>
    obtain ⟨rfl, rfl⟩ := Prod.mk.inj h
    simp [parse, next]
  | succ n ih =>
    rw [parse] at h
    cases begins : settled limit buffer with
    | none =>
      simp only [begins, Prod.mk.injEq] at h
      obtain ⟨rfl, rfl⟩ := h
      cases full
    | some p =>
      simp only [begins, Prod.mk.injEq] at h
      obtain ⟨rfl, rfl⟩ := h
      have later := ih rfl (by simpa using full)
      rw [parse]
      simp only [begins]
      rw [later]
      rfl

theorem parse_append (h : parse limit n buffer = (reports, found)) (full : reports.length = n)
    (more : Octets) : parse limit n (buffer ++ more) = (reports, found ++ more) := by
  induction n generalizing buffer reports with
  | zero =>
    obtain ⟨rfl, rfl⟩ := Prod.mk.inj h
    rfl
  | succ n ih =>
    rw [parse] at h ⊢
    cases begins : settled limit buffer with
    | none =>
      simp only [begins, Prod.mk.injEq] at h
      obtain ⟨rfl, rfl⟩ := h
      cases full
    | some p =>
      simp only [begins, Prod.mk.injEq] at h
      obtain ⟨rfl, rfl⟩ := h
      simp only [settled_append begins more, ih rfl (by simpa using full)]

/-- As long as the buffer begins with nothing complete, a read is made, and what it brings is added
or its failure told. -/
theorem readFrom_of_unsettled (h : settled limit buffer = none) :
    readFrom limit buffer reads arrivals =
      match (next arrivals).setback? with
      | some e => (.error e, ⟨limit, buffer, arrivals.tail, reads + 1⟩)
      | none => readFrom limit (buffer ++ joined [next arrivals]) (reads + 1) arrivals.tail := by
  cases arrivals with
  | nil => simp [readFrom, h, next, Arrival.setback?]
  | cons a arrivals =>
    cases a with
    | octets bs => cases bs <;> simp [readFrom, h, next, Arrival.setback?, joined]
    | failure e =>
      by_cases again : e.kind = .interrupted <;>
        simp [readFrom, h, next, Arrival.setback?, joined, again]

theorem settled_of_append_none {more : Octets} (h : settled limit (buffer ++ more) = none) :
    settled limit buffer = none := by
  cases begins : settled limit buffer with
  | none => rfl
  | some p => simp [settled_append begins more] at h

variable {chunks : List Arrival}

theorem settled_envelope {e : Envelope} (fits : e.Fits limit) (rest : Octets) :
    settled limit (e.octets ++ rest) = some (e.answer, rest) := by
  rw [settled, Envelope.decode_octets_append fits]
  cases e.answer <;> rfl

/-- Reads that all bring something bring what a frame or a failure lacks, whatever follows them. -/
theorem readFrom_of_found (brought : ∀ a ∈ chunks, a.setback? = none)
    (found : settled limit (buffer ++ joined chunks) = some (answer, rest)) (reads : Nat)
    (later : List Arrival) :
    ∃ kept left reads', left <:+ chunks ∧ kept ++ joined left = rest ∧
      readFrom limit buffer reads (chunks ++ later) =
        (answer, ⟨limit, kept, left ++ later, reads'⟩) := by
  induction chunks generalizing buffer reads with
  | nil =>
    rw [joined, List.append_nil] at found
    exact ⟨rest, [], reads, List.suffix_rfl, List.append_nil _, readFrom_of_settled found⟩
  | cons a chunks ih =>
    cases there : settled limit buffer with
    | some p =>
      obtain ⟨first, kept⟩ := p
      rw [settled_append there, Option.some.injEq, Prod.mk.injEq] at found
      obtain ⟨rfl, rfl⟩ := found
      exact ⟨kept, a :: chunks, reads, List.suffix_rfl, rfl, readFrom_of_settled there⟩
    | none =>
      have further :
          settled limit ((buffer ++ joined [a]) ++ joined chunks) = some (answer, rest) := by
        rw [List.append_assoc, ← joined_append]
        exact found
      obtain ⟨kept, left, reads', suffix, all, read⟩ :=
        ih (fun b mem => brought b (.tail _ mem)) further (reads + 1)
      refine ⟨kept, left, reads', suffix.trans (List.suffix_cons a chunks), all, ?_⟩
      rw [readFrom_of_unsettled there]
      simp only [next, List.cons_append, List.headD_cons, brought a (.head _)]
      exact read

theorem readFrom_of_unfound (brought : ∀ a ∈ chunks, a.setback? = none)
    (unfound : settled limit (buffer ++ joined chunks) = none) (reads : Nat)
    (later : List Arrival) :
    ∃ reads', readFrom limit buffer reads (chunks ++ later) =
      readFrom limit (buffer ++ joined chunks) reads' later := by
  induction chunks generalizing buffer reads with
  | nil =>
    rw [joined, List.append_nil]
    exact ⟨reads, rfl⟩
  | cons a chunks ih =>
    have all : buffer ++ joined (a :: chunks) = (buffer ++ joined [a]) ++ joined chunks := by
      rw [List.append_assoc, ← joined_append]
      rfl
    rw [all] at unfound ⊢
    obtain ⟨reads', read⟩ := ih (fun b mem => brought b (.tail _ mem)) unfound (reads + 1)
    have there : settled limit buffer = none := by
      rw [List.append_assoc] at unfound
      exact settled_of_append_none unfound
    refine ⟨reads', ?_⟩
    rw [readFrom_of_unsettled there]
    simp only [next, List.cons_append, List.headD_cons, brought a (.head _)]
    exact read

theorem callAll_envelopes {es : List Envelope} (reads : Nat) (fit : ∀ e ∈ es, e.Fits limit)
    (brought : ∀ a ∈ arrivals, a.setback? = none)
    (all : buffer ++ joined arrivals = es.flatMap Envelope.octets) :
    let o := Reader.callAll ⟨limit, buffer, arrivals, reads⟩
      (List.replicate (es.length + 1) .readFrame)
    o.1 = es.map Envelope.answer ++ [.error .connectionClosed] ∧ o.2.buffer = [] := by
  induction es generalizing buffer arrivals reads with
  | nil =>
    have unfound : settled limit (buffer ++ joined arrivals) = none := by
      rw [all]
      rfl
    obtain ⟨reads', read⟩ := readFrom_of_unfound brought unfound reads []
    rw [List.append_nil, all] at read
    simp [Reader.callAll, Reader.call, readFrame_eq, read, readFrom, settled, Frame.decode]
  | cons e es ih =>
    rw [List.flatMap_cons] at all
    have found : settled limit (buffer ++ joined arrivals) =
        some (e.answer, es.flatMap Envelope.octets) := by
      rw [all]
      exact settled_envelope (fit e (.head _)) _
    obtain ⟨kept, left, reads', suffix, rest, read⟩ := readFrom_of_found brought found reads []
    rw [List.append_nil, List.append_nil] at read
    have later := ih reads' (fun g mem => fit g (.tail _ mem))
      (fun a mem => brought a (suffix.mem mem)) rest
    rw [List.length_cons, List.replicate_succ]
    simp only [Reader.callAll, Reader.call, readFrame_eq, read]
    refine ⟨?_, later.2⟩
    rw [later.1]
    rfl

end Settled

theorem call_nextBuffered (r : Reader) :
    r.call .nextBuffered =
      match settled r.limit r.buffer with
      | some (answer, rest) => (some answer, { r with buffer := rest })
      | none => (none, r) := by
  cases there : settled r.limit r.buffer with
  | none => simp only [call, nextBuffered, there]
  | some p =>
    obtain ⟨answer, rest⟩ := p
    cases answer <;> simp [call, nextBuffered, there, Except.map]

/-- What a reader does, one thing after another, and what it reports meanwhile. Reads are made only
for a buffer that begins with nothing complete. -/
inductive Trail (r : Reader) : List (Except FrameError Frame) → Reader → Prop
  | refl : Trail r [] r
  | settle {reports : List (Except FrameError Frame)} {s : Reader}
      {answer : Except FrameError Frame} {rest : Octets} (before : Trail r reports s)
      (there : settled s.limit s.buffer = some (answer, rest)) :
      Trail r (reports ++ [answer]) { s with buffer := rest }
  | read {reports : List (Except FrameError Frame)} {s : Reader} (before : Trail r reports s)
      (unsettled : settled s.limit s.buffer = none) (again : (next s.arrivals).setback? = none) :
      Trail r reports
        ⟨s.limit, s.buffer ++ joined [next s.arrivals], s.arrivals.tail, s.reads + 1⟩
  | fail {reports : List (Except FrameError Frame)} {s : Reader} {e : FrameError}
      (before : Trail r reports s) (unsettled : settled s.limit s.buffer = none)
      (failed : (next s.arrivals).setback? = some e) :
      Trail r (reports ++ [.error e]) { s with arrivals := s.arrivals.tail, reads := s.reads + 1 }

namespace Trail

variable {s : Reader}

theorem readFrom {coming : List Arrival} (t : Trail r reports ⟨limit, buffer, coming, reads⟩) :
    Trail r (reports ++ [(Reader.readFrom limit buffer reads coming).1])
      (Reader.readFrom limit buffer reads coming).2 := by
  -- read by read
  induction coming generalizing buffer reads with
  | nil =>
    cases there : settled limit buffer with
    | some p =>
      rw [readFrom_of_settled there]
      exact t.settle there
    | none =>
      rw [readFrom_of_unsettled there]
      exact t.fail there rfl
  | cons a coming ih =>
    cases there : settled limit buffer with
    | some p =>
      rw [readFrom_of_settled there]
      exact t.settle there
    | none =>
      rw [readFrom_of_unsettled there]
      cases failed : (next (a :: coming)).setback? with
      | some e => exact t.fail there failed
      | none => exact ih (t.read there failed)

theorem call (t : Trail r reports s) (c : ReaderCall) :
    Trail r (reports ++ (s.call c).1.toList) (s.call c).2 := by
  cases c with
  | readFrame =>
    have read := t.readFrom
    rw [← readFrame_eq] at read
    exact read
  | nextBuffered =>
    rw [call_nextBuffered]
    cases there : settled s.limit s.buffer with
    | none => simpa using t
    | some p => exact t.settle there
  | releaseBuffers => simpa [Reader.call, releaseBuffers_eq] using t

theorem callAll (t : Trail r reports s) (calls : List ReaderCall) :
    Trail r (reports ++ (s.callAll calls).1) (s.callAll calls).2 := by
  induction calls generalizing reports s with
  | nil => simpa [Reader.callAll] using t
  | cons c calls ih => simpa [Reader.callAll] using ih (t.call c)

end Trail

/-- What some calls have reported is what there was to report, and the reader has kept the rest. -/
structure Faithful (limit : Nat) (arrivals : List Arrival)
    (reports : List (Except FrameError Frame)) (r : Reader) : Prop where
  bound : r.limit = limit
  ahead : r.arrivals = arrivals.drop r.reads
  /-- Each read that failed was reported, once, and no failure of the stream besides. -/
  failed : setbacks reports = (first r.reads arrivals).filterMap (·.setback?)
  /-- All else that was reported are the first frames and failures in all the octets, and what is
  behind these is in the buffer or still to come. -/
  found : parse limit (answers reports).length (joined arrivals) =
    (answers reports, r.buffer ++ joined r.arrivals)
  /-- What has come is what was taken out of it and what is in the buffer. -/
  kept : ∃ taken, joined (first r.reads arrivals) = taken ++ r.buffer ∧
    joined arrivals = taken ++ (r.buffer ++ joined r.arrivals)

namespace Faithful

theorem start : Faithful limit arrivals [] (start limit arrivals) where
  bound := rfl
  ahead := rfl
  failed := rfl
  found := rfl
  kept := ⟨[], rfl, rfl⟩

theorem settle (h : Faithful limit arrivals reports r)
    (there : settled limit r.buffer = some (answer, rest)) :
    Faithful limit arrivals (reports ++ [answer]) { r with buffer := rest } where
  bound := h.bound
  ahead := h.ahead
  failed := by simpa [setbacks, setback?_of_settled there] using h.failed
  found := by
    have one_more : answers (reports ++ [answer]) = answers reports ++ [answer] := by
      simp [answers, setback?_of_settled there]
    rw [one_more, List.length_append]
    exact parse_succ h.found rfl (settled_append there _)
  kept := by
    obtain ⟨taken, delivered, all⟩ := h.kept
    obtain ⟨consumed, same⟩ := suffix_of_settled there
    refine ⟨taken ++ consumed, ?_, ?_⟩
    · rw [delivered, List.append_assoc, same]
    · rw [all, ← same]
      simp

theorem read (h : Faithful limit arrivals reports r)
    (again : (next r.arrivals).setback? = none) :
    Faithful limit arrivals reports
      ⟨r.limit, r.buffer ++ joined [next r.arrivals], r.arrivals.tail, r.reads + 1⟩ where
  bound := h.bound
  ahead := by rw [h.ahead, List.tail_drop]
  failed := by
    rw [first_succ, ← h.ahead, List.filterMap_append, ← h.failed]
    simp [again]
  found := by rw [h.found, List.append_assoc, joined_next_append]
  kept := by
    obtain ⟨taken, delivered, all⟩ := h.kept
    refine ⟨taken, ?_, ?_⟩
    · rw [first_succ, joined_append, delivered, ← h.ahead, List.append_assoc]
    · rw [all, List.append_assoc r.buffer, joined_next_append]

theorem fail {e : FrameError} (h : Faithful limit arrivals reports r)
    (failed : (next r.arrivals).setback? = some e) :
    Faithful limit arrivals (reports ++ [.error e])
      { r with arrivals := r.arrivals.tail, reads := r.reads + 1 } where
  bound := h.bound
  ahead := by rw [h.ahead, List.tail_drop]
  failed := by
    rw [first_succ, ← h.ahead, List.filterMap_append, ← h.failed]
    simp [failed, setbacks, Reader.setback?, ofStream_of_setback failed]
  found := by
    have none_more : answers (reports ++ [.error e]) = answers reports := by
      simp [answers, Reader.setback?, ofStream_of_setback failed]
    rw [none_more, h.found, ← joined_next_append, joined_of_setback failed, List.nil_append]
  kept := by
    obtain ⟨taken, delivered, all⟩ := h.kept
    refine ⟨taken, ?_, ?_⟩
    · rw [first_succ, joined_append, ← h.ahead, joined_of_setback failed, List.append_nil, delivered]
    · rw [all, ← joined_next_append r.arrivals, joined_of_setback failed, List.nil_append]

theorem along {more : List (Except FrameError Frame)} {s : Reader}
    (h : Faithful limit arrivals reports r) (t : Trail r more s) :
    Faithful limit arrivals (reports ++ more) s := by
  induction t with
  | refl => rwa [List.append_nil]
  | settle _ there ih =>
    rw [← List.append_assoc]
    exact ih.settle (ih.bound ▸ there)
  | read _ _ again ih => exact ih.read again
  | fail _ _ failed ih =>
    rw [← List.append_assoc]
    exact ih.fail failed

theorem callAll (h : Faithful limit arrivals reports r) (calls : List ReaderCall) :
    Faithful limit arrivals (reports ++ (r.callAll calls).1) (r.callAll calls).2 :=
  h.along (Trail.refl.callAll calls)

end Faithful

theorem settled_of_lt_reads (made : reads + n < (readFrom limit buffer reads arrivals).2.reads) :
    settled limit (buffer ++ joined (first n arrivals)) = none := by
  induction n generalizing buffer reads arrivals with
  | zero =>
    cases there : settled limit buffer with
    | none => simpa [first, joined] using there
    | some p =>
      rw [readFrom_of_settled there] at made
      exact absurd made (Nat.lt_irrefl _)
  | succ n ih =>
    cases there : settled limit buffer with
    | some p =>
      rw [readFrom_of_settled there] at made
      dsimp only at made
      omega
    | none =>
      rw [readFrom_of_unsettled there] at made
      cases failed : (next arrivals).setback? with
      | some e =>
        simp only [failed] at made
        omega
      | none =>
        simp only [failed, Nat.add_comm n 1, ← Nat.add_assoc reads] at made
        rw [first, ← List.singleton_append, joined_append, ← List.append_assoc]
        exact ih made

theorem call_readFrame_of_settled (there : settled r.limit r.buffer = some (answer, rest)) :
    r.call .readFrame = (some answer, { r with buffer := rest }) := by
  rw [call, readFrame_eq, readFrom_of_settled there]

/-- Whatever a stream brings, in reads of whatever size, with interruptions, failures and ends in
between, and whatever is called when: the reports are faithful to its octets, no interruption is
among them, and no read is made while the buffer begins with a frame or a failure. That is what
either call then reports, and one that makes no reads reports nothing else. -/
theorem faithful_callAll (limit : Nat) (arrivals : List Arrival) (calls : List ReaderCall) :
    let o := (start limit arrivals).callAll calls
    Faithful limit arrivals o.1 o.2 ∧
      (∀ e, .error (.io e) ∈ o.1 → e.kind ≠ .interrupted) ∧
      (∀ n, o.2.reads + n < o.2.readFrame.2.reads →
        settled limit (o.2.buffer ++ joined (first n o.2.arrivals)) = none) ∧
      (∀ answer rest, settled limit o.2.buffer = some (answer, rest) →
        o.2.call .readFrame = (some answer, { o.2 with buffer := rest }) ∧
        o.2.call .nextBuffered = (some answer, { o.2 with buffer := rest })) ∧
      (settled limit o.2.buffer = none → o.2.call .nextBuffered = (none, o.2)) := by
  intro o
  have faithful : Faithful limit arrivals o.1 o.2 := Faithful.start.callAll calls
  refine ⟨faithful, fun e reported => ?_, fun n made => ?_, fun answer rest there => ?_,
    fun nothing => ?_⟩
  · have told : .io e ∈ setbacks o.1 := by
      refine List.mem_filterMap.mpr ⟨_, reported, ?_⟩
      rfl
    rw [faithful.failed] at told
    obtain ⟨a, -, failed⟩ := List.mem_filterMap.mp told
    exact kind_ne_interrupted_of_setback failed
  · rw [readFrame_eq, faithful.bound] at made
    exact settled_of_lt_reads made
  · rw [← faithful.bound] at there
    exact ⟨call_readFrame_of_settled there, by rw [call_nextBuffered, there]⟩
  · rw [← faithful.bound] at nothing
    rw [call_nextBuffered, nothing]

example :
    let arrivals : List Arrival := [.octets [8, 0, 0], .failure ⟨.interrupted, "EINTR"⟩, .octets [0],
      .failure ⟨.timedOut, "late"⟩, .octets [0, 0, 0, 0xCE, 8]]
    ((start 16 arrivals).callAll [.readFrame, .releaseBuffers, .readFrame, .nextBuffered]).1 =
      [.error (.io ⟨.timedOut, "late"⟩), .ok ⟨0, .heartbeat⟩] := by
  cbv

end Reader
end Multiplex
