import Multiplex.Link.Wire
import Multiplex.Proofs.Streaming

/-! Frames over a wire. Receiving makes the reads that a reader makes of the socket, a chunk at a
time. A pull finds what the buffer and the socket begin with together, wherever it is cut, and
however long the pull may wait; otherwise it leaves everything where it can be found. So whatever
happens in between, the frames that are pulled are those of all the octets that have arrived. -/

namespace Multiplex

namespace Pulled

/-- A pull that brings what a reader answers. -/
def ofAnswer : Except FrameError Frame → Pulled
  | .ok f => .frame f
  | .error e => .failed (.frame e)

def frame? : Pulled → Option Frame
  | frame f => some f
  | nothing | failed _ => none

/-- The frame, or the failure to decode one, that a pull brings. -/
def answer? : Pulled → Option (Except FrameError Frame)
  | frame f => some (.ok f)
  | failed (.frame e) => if e.ofStream then none else some (.error e)
  | nothing | failed (.socket _) => none

variable {answer : Except FrameError Frame}

theorem answer?_ofAnswer (decoded : Reader.setback? answer = none) :
    (ofAnswer answer).answer? = some answer := by
  cases answer with
  | ok f => rfl
  | error e =>
    have decoding : e.ofStream = false := by simpa [Reader.setback?] using decoded
    simp [ofAnswer, answer?, decoding]

end Pulled

def Decoded.frame? : Decoded → Option Frame
  | frame f => some f
  | incomplete | failed _ => none

namespace Frame

variable {limit : Nat} {bs rest : Octets} {e : FrameError}

/-- The frames that decoding finds in some octets, again and again. -/
def found (limit : Nat) (bs : Octets) : List Frame :=
  (drain limit true bs).filterMap (·.1.frame?)

end Frame

namespace Reader

open Arrival

variable {limit n : Nat} {buffer bs rest : Octets} {reports : List (Except FrameError Frame)}

theorem readFrom_chunk (unsettled : settled limit buffer = none) (bs : Octets) (reads : Nat)
    (later : List Arrival) :
    ∃ reads', readFrom limit buffer reads (Arrival.reads bs ++ later) =
      readFrom limit (buffer ++ bs.take chunk) reads' (Arrival.reads (bs.drop chunk) ++ later) := by
  cases bs with
  | nil => exact ⟨reads, by simp⟩
  | cons b bs =>
    refine ⟨reads + 1, ?_⟩
    rw [Arrival.reads, if_neg (List.cons_ne_nil b bs), List.cons_append,
      readFrom_of_unsettled unsettled]
    simp [next, joined, Arrival.setback?, chunk]

/-- As long as less has come than is missing, one chunk is read after another. -/
theorem readFrom_chunks {k : Nat} (lacking : k * chunk < Frame.missing buffer)
    (unsettled : settled limit buffer = none) (bs : Octets) (reads : Nat) (later : List Arrival) :
    ∃ reads', readFrom limit buffer reads (Arrival.reads bs ++ later) =
      readFrom limit (buffer ++ bs.take ((k + 1) * chunk)) reads'
        (Arrival.reads (bs.drop ((k + 1) * chunk)) ++ later) := by
  obtain ⟨reads₁, first⟩ := readFrom_chunk unsettled bs reads later
  induction k generalizing buffer bs reads reads₁ with
  | zero => exact ⟨reads₁, by rw [first, Nat.zero_add, Nat.one_mul]⟩
  | succ k ih =>
    have short : (bs.take chunk).length < Frame.missing buffer := by
      have := List.length_take_le chunk bs
      rw [Nat.succ_mul] at lacking
      omega
    obtain ⟨incomplete, missing⟩ :=
      Frame.incomplete_append (settled_eq_none_iff.mp unsettled) short
    have still := settled_eq_none_iff.mpr incomplete
    obtain ⟨reads₂, second⟩ := readFrom_chunk still (bs.drop chunk) reads₁ later
    have lacking : k * chunk < Frame.missing (buffer ++ bs.take chunk) := by
      have := List.length_take_le chunk bs
      rw [Nat.succ_mul] at lacking
      omega
    obtain ⟨reads', rest⟩ := ih lacking still (bs.drop chunk) reads₁ reads₂ second
    refine ⟨reads', ?_⟩
    rw [first, rest, List.append_assoc, ← List.take_add, List.drop_drop, Nat.succ_mul (k + 1),
      Nat.add_comm chunk]

end Reader

namespace Wire

open Reader

variable {w : Wire} {rest : Octets} {answer : Except FrameError Frame} {wait : Timeout}

/-- What a read finds behind all that has arrived. -/
def beyond (w : Wire) : Arrival := if w.ended then .octets [] else .failure wouldBlock

/-- What is told when all that has arrived is not enough. -/
def shortage (w : Wire) : FrameError := if w.ended then .connectionClosed else .io wouldBlock

theorem joined_beyond (w : Wire) : Arrival.joined [w.beyond] = [] := by
  unfold beyond
  split <;> rfl

theorem setback?_beyond (w : Wire) : w.beyond.setback? = some w.shortage := by
  unfold beyond shortage
  split <;> rfl

theorem readFrom_beyond (w : Wire) {limit : Nat} {buffer : Octets}
    (unsettled : settled limit buffer = none) (reads : Nat) :
    readFrom limit buffer reads [w.beyond] =
      (.error w.shortage, ⟨limit, buffer, [], reads + 1⟩) := by
  rw [readFrom_of_unsettled unsettled, Arrival.next, List.headD_cons, setback?_beyond]
  rfl

/-- To receive is to read from the socket, a chunk at a time. -/
theorem receive_eq_readFrom (w : Wire) (reads : Nat) :
    w.receive =
      let o := readFrom w.limit w.buffer reads (Arrival.reads w.incoming ++ [w.beyond])
      (.ofAnswer o.1,
        { w with buffer := o.2.buffer, incoming := Arrival.joined o.2.arrivals }) := by
  fun_induction receive w generalizing reads with
  | case1 w f rest found =>
    simp [readFrom_of_settled found, joined_beyond, Pulled.ofAnswer]
  | case2 w e rest found =>
    simp [readFrom_of_settled found, joined_beyond, Pulled.ofAnswer]
  | case3 w unfound empty =>
    have read := readFrom_beyond w unfound reads
    rw [empty, Arrival.reads, if_pos rfl, List.nil_append, read]
    rcases w with ⟨_, _, _, _, _, _, _⟩
    cases empty
    rfl
  | case4 w unfound some n ih =>
    have positive := Frame.missing_pos (settled_eq_none_iff.mp unfound)
    have lacking : (Frame.missing w.buffer - 1) / Arrival.chunk * Arrival.chunk <
        Frame.missing w.buffer :=
      Nat.lt_of_le_of_lt (Nat.div_mul_le_self _ _) (Nat.sub_lt positive Nat.one_pos)
    obtain ⟨reads', read⟩ := readFrom_chunks lacking unfound w.incoming reads [w.beyond]
    rw [read]
    exact ih reads'

theorem receive_of_settled
    (found : settled w.limit (w.buffer ++ w.incoming) = some (answer, rest)) :
    ∃ kept left, kept ++ left = rest ∧
      w.receive = (.ofAnswer answer, { w with buffer := kept, incoming := left }) := by
  rw [← Arrival.joined_reads w.incoming] at found
  obtain ⟨kept, left, reads', -, all, read⟩ :=
    readFrom_of_found (Arrival.brought_of_mem_reads w.incoming) found 0 [w.beyond]
  refine ⟨kept, Arrival.joined left, all, ?_⟩
  rw [receive_eq_readFrom w 0, read]
  simp [joined_beyond]

theorem receive_of_unsettled (unfound : settled w.limit (w.buffer ++ w.incoming) = none) :
    w.receive = (.failed (.frame w.shortage),
      { w with buffer := w.buffer ++ w.incoming, incoming := [] }) := by
  have joined := Arrival.joined_reads w.incoming
  rw [← joined] at unfound
  obtain ⟨reads', read⟩ :=
    readFrom_of_unfound (Arrival.brought_of_mem_reads w.incoming) unfound 0 [w.beyond]
  rw [receive_eq_readFrom w 0, read, readFrom_beyond w unfound, joined]
  rfl

/-- However long it may wait, a pull brings what the buffer and the socket begin with. -/
theorem pull_of_settled (found : settled w.limit (w.buffer ++ w.incoming) = some (answer, rest))
    (wait : Timeout) :
    ∃ kept left, kept ++ left = rest ∧
      w.pull wait = (.ofAnswer answer, { w with buffer := kept, incoming := left }) := by
  have ready : ¬ (wait.isSome ∧ w.incoming = [] ∧ ¬ w.ended ∧
      (settled w.limit w.buffer).isNone) := by
    rintro ⟨-, empty, -, nowhere⟩
    rw [empty, List.append_nil] at found
    simp [found] at nowhere
  rw [pull, if_neg ready]
  exact receive_of_settled found

/-- Otherwise a limited wait brings nothing if the socket is quiet; any other pull reads all there
is and tells the shortage. -/
theorem pull_of_unsettled (unfound : settled w.limit (w.buffer ++ w.incoming) = none)
    (wait : Timeout) :
    w.pull wait =
      if wait.isSome ∧ w.incoming = [] ∧ ¬ w.ended then (.nothing, w)
      else (.failed (.frame w.shortage),
        { w with buffer := w.buffer ++ w.incoming, incoming := [] }) := by
  rw [pull, receive_of_unsettled unfound, settled_of_append_none unfound]
  simp

/-- The answers of some pulls are the first ones in all the octets that have arrived, and what is
behind these is in the buffer or at the socket. -/
structure Faithful (limit : Nat) (arrived : Octets) (pulls : List Pulled) (w : Wire) : Prop where
  bound : w.limit = limit
  found : parse limit (pulls.filterMap Pulled.answer?).length arrived =
    (pulls.filterMap Pulled.answer?, w.buffer ++ w.incoming)

namespace Faithful

variable {limit : Nat} {arrived : Octets} {pulls : List Pulled}

theorem arrive (h : Faithful limit arrived pulls w) (bs : Octets) :
    Faithful limit (arrived ++ bs) pulls (w.feed bs) where
  bound := h.bound
  found := by
    rw [parse_append h.found rfl, List.append_assoc]
    rfl

theorem pull (h : Faithful limit arrived pulls w) (wait : Timeout) :
    Faithful limit arrived (pulls ++ [(w.pull wait).1]) (w.pull wait).2 := by
  obtain rfl := h.bound
  cases begins : settled w.limit (w.buffer ++ w.incoming) with
  | some p =>
    obtain ⟨answer, rest⟩ := p
    obtain ⟨kept, left, all, pulled⟩ := pull_of_settled begins wait
    have answered := Pulled.answer?_ofAnswer (setback?_of_settled begins)
    rw [pulled]
    refine ⟨rfl, ?_⟩
    simp only [List.filterMap_append, List.filterMap_cons, answered, List.filterMap_nil,
      List.length_append, List.length_singleton]
    rw [all]
    exact parse_succ h.found rfl begins
  | none =>
    rw [pull_of_unsettled begins wait]
    split
    · exact ⟨rfl, by simpa [List.filterMap_cons, Pulled.answer?] using h.found⟩
    · have short : w.shortage.ofStream := by
        unfold shortage
        split <;> rfl
      exact ⟨rfl, by simpa [List.filterMap_cons, Pulled.answer?, short] using h.found⟩

theorem undergo (h : Faithful limit arrived pulls w) (event : WireEvent) :
    Faithful limit (arrived ++ WireEvent.received [event])
      (pulls ++ (w.undergo event).1.toList) (w.undergo event).2 := by
  cases event with
  | arrive bs => simpa [WireEvent.received, Wire.undergo] using h.arrive bs
  | pull wait => simpa [WireEvent.received, Wire.undergo] using h.pull wait
  | hangUp =>
    have same : Faithful limit arrived pulls { w with ended := true } := ⟨h.bound, h.found⟩
    simpa [WireEvent.received, Wire.undergo] using same
  | send channel method =>
    have same : Faithful limit arrived pulls (w.send channel method).2 := ⟨h.bound, h.found⟩
    simpa [WireEvent.received, Wire.undergo] using same

theorem undergoAll (h : Faithful limit arrived pulls w) (events : List WireEvent) :
    Faithful limit (arrived ++ WireEvent.received events) (pulls ++ (w.undergoAll events).1)
      (w.undergoAll events).2 := by
  induction events generalizing arrived pulls w with
  | nil => simpa [WireEvent.received, Wire.undergoAll] using h
  | cons event events ih =>
    have all : WireEvent.received (event :: events) =
        WireEvent.received [event] ++ WireEvent.received events := by
      cases event <;> simp [WireEvent.received]
    have later := ih (h.undergo event)
    rw [List.append_assoc, List.append_assoc, ← all] at later
    exact later

end Faithful

end Wire
end Multiplex
