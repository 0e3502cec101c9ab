import Multiplex.Proofs.Canonical
import Multiplex.Proofs.Streaming

/-! Going on behind a payload that is none. It costs its own envelope and nothing else, and it makes
no difference in which pieces the octets come. Every other failure stays where it is. -/

namespace Multiplex

/-- What a call reports, if anything was complete. -/
def Decoded.answer? : Decoded → Option (Except FrameError Frame)
  | incomplete => none
  | frame f => some (.ok f)
  | failed e => some (.error e)

@[simp] theorem Decoded.answer?_ofAnswer (answer : Except FrameError Frame) :
    (ofAnswer answer).answer? = some answer := by
  cases answer <;> rfl

namespace Frame

open Arrival

/-- All that is reported when a buffer is decoded again and again, payloads that are none being
passed, and what it holds then. -/
def drained (limit : Nat) (buffer : Octets) : List (Except FrameError Frame) × Octets :=
  ((drain limit true buffer).filterMap (·.1.answer?),
    ((drain limit true buffer).getLast?.map (·.2)).getD buffer)

/-- The same when octets are added to the buffer a chunk at a time. -/
def drainAll (limit : Nat) (buffer : Octets) :
    List Octets → List (Except FrameError Frame) × Octets
  | [] => ([], buffer)
  | chunk :: chunks =>
    let now := drained limit (buffer ++ chunk)
    let later := drainAll limit now.2 chunks
    (now.1 ++ later.1, later.2)

variable {limit : Nat} {buffer rest x y : Octets} {d : Decoded} {err : FrameError}
  {es : List Envelope} {chunks : List Octets}

theorem drained_of_resumes (resumes : (decode limit buffer).1.resumes true) :
    drained limit buffer =
      ((decode limit buffer).1.answer?.toList ++ (drained limit (decode limit buffer).2).1,
        (drained limit (decode limit buffer).2).2) := by
  have calls := drain_eq limit true buffer
  rw [if_pos resumes] at calls
  rw [drained, drained, calls, List.filterMap_cons, List.getLast?_cons]
  cases (decode limit buffer).1.answer? <;>
    cases (drain limit true (decode limit buffer).2).getLast? <;> rfl

theorem drained_of_stays (stays : (decode limit buffer).1.resumes true = false) :
    drained limit buffer = ((decode limit buffer).1.answer?.toList, buffer) := by
  have calls : drain limit true buffer = [((decode limit buffer).1, buffer)] := by
    rw [drain_eq, stays, if_neg Bool.false_ne_true]
    exact congrArg ([·]) (Prod.ext rfl (decode_of_not_resumes stays))
  rw [drained, calls]
  simp only [List.filterMap_cons, List.filterMap_nil]
  cases (decode limit buffer).1.answer? <;> rfl

theorem drained_of_incomplete (part : (decode limit buffer).1 = .incomplete) :
    drained limit buffer = ([], buffer) := by
  rw [drained_of_stays (part ▸ rfl), part]
  rfl

theorem drained_nil : drained limit [] = ([], []) := drained_of_incomplete rfl

/-- What holds where decoding ends, and in front of an envelope if behind it, holds of a buffer. -/
theorem drained_induction (limit : Nat) {P : Octets → Prop}
    (stays : ∀ buffer, (decode limit buffer).1.resumes true = false → P buffer)
    (goesOn : ∀ buffer, (decode limit buffer).1.resumes true → P (decode limit buffer).2 →
      P buffer) (buffer : Octets) : P buffer := by
  induction buffer using drain.induct limit true with
  | case1 buffer answer rest read resumes ih =>
    refine goesOn buffer ?_ ?_
    · rwa [read]
    · rwa [read]
  | case2 buffer answer rest read stops => exact stays buffer (by rw [read]; simpa using stops)

theorem ne_incomplete_of_resumes (resumes : d.resumes true) : d ≠ .incomplete := by
  rintro rfl
  cases resumes

theorem incomplete_drained (x : Octets)
    (ends : (decode limit (drained limit (x ++ y)).2).1 = .incomplete) :
    (decode limit (drained limit x).2).1 = .incomplete := by
  induction x using drained_induction limit with
  | stays x stays =>
    rw [drained_of_stays stays]
    refine Decidable.byContradiction fun complete => ?_
    have same := decode_append y complete
    have stays' : (decode limit (x ++ y)).1.resumes true = false := by rw [same, stays]
    rw [drained_of_stays stays', same] at ends
    exact complete ends
  | goesOn x resumes ih =>
    have complete := ne_incomplete_of_resumes resumes
    have same := decode_append y complete
    have resumes' : (decode limit (x ++ y)).1.resumes true := by rw [same, resumes]
    rw [drained_of_resumes resumes]
    refine ih ?_
    rwa [drained_of_resumes resumes', same] at ends

/-- Decoding what has come and then the rest is decoding all of it. -/
theorem drained_append (x : Octets)
    (ends : (decode limit (drained limit x).2).1 = .incomplete) :
    drained limit (x ++ y) =
      ((drained limit x).1 ++ (drained limit ((drained limit x).2 ++ y)).1,
        (drained limit ((drained limit x).2 ++ y)).2) := by
  induction x using drained_induction limit with
  | stays x stays =>
    rw [drained_of_stays stays] at ends ⊢
    rw [show (decode limit x).1 = .incomplete from ends]
    rfl
  | goesOn x resumes ih =>
    have same := decode_append y (ne_incomplete_of_resumes resumes)
    have resumes' : (decode limit (x ++ y)).1.resumes true := by rw [same, resumes]
    rw [drained_of_resumes resumes] at ends ⊢
    rw [drained_of_resumes resumes', same, ih ends, List.append_assoc]

theorem drainAll_eq (part : (decode limit buffer).1 = .incomplete)
    (ends : (decode limit (drained limit (buffer ++ chunks.flatten)).2).1 = .incomplete) :
    drainAll limit buffer chunks = drained limit (buffer ++ chunks.flatten) := by
  induction chunks generalizing buffer with
  | nil => rw [List.flatten_nil, List.append_nil, drained_of_incomplete part, drainAll]
  | cons chunk chunks ih =>
    rw [List.flatten_cons, ← List.append_assoc] at ends ⊢
    have first := incomplete_drained _ ends
    have all := drained_append (y := chunks.flatten) _ first
    rw [all] at ends ⊢
    rw [drainAll, ih first ends]

theorem drained_envelopes (fit : ∀ e ∈ es, e.Fits limit) (rest : Octets) :
    drained limit (es.flatMap Envelope.octets ++ rest) =
      (es.map Envelope.answer ++ (drained limit rest).1, (drained limit rest).2) := by
  induction es with
  | nil => rfl
  | cons e es ih =>
    have read := Envelope.decode_octets_append (fit e (.head _))
      (es.flatMap Envelope.octets ++ rest)
    rw [List.flatMap_cons, List.append_assoc, drained_of_resumes (by rw [read, resumes_ofAnswer e]),
      read, ih fun e mem => fit e (.tail _ mem), Decoded.answer?_ofAnswer]
    rfl

/-- A failure that is not passed is found again, whatever is added. -/
theorem drainAll_of_stuck (read : (decode limit buffer).1 = .failed err)
    (fatal : (Decoded.failed err).resumes true = false) (chunks : List Octets) :
    drainAll limit buffer chunks =
      (List.replicate chunks.length (.error err), buffer ++ chunks.flatten) := by
  induction chunks generalizing buffer with
  | nil => rw [drainAll, List.flatten_nil, List.append_nil, List.length_nil, List.replicate_zero]
  | cons chunk chunks ih =>
    have again : decode limit (buffer ++ chunk) = (.failed err, (decode limit buffer).2 ++ chunk) :=
      read ▸ decode_append chunk (read ▸ nofun)
    have stays : (decode limit (buffer ++ chunk)).1.resumes true = false := by rw [again, fatal]
    rw [drainAll, drained_of_stays stays, again, ih (congrArg Prod.fst again)]
    simp [Decoded.answer?, List.replicate_succ]

theorem fatal_of_not_malformed (other : ∀ why, err ≠ .malformed why) :
    (Decoded.failed err).resumes true = false := by
  cases err with
  | malformed why => exact absurd rfl (other why)
  | _ => rfl

theorem exists_envelope_of_malformed {why : Malformation}
    (read : decode limit buffer = (.failed (.malformed why), rest)) :
    ∃ e : Envelope, e.Fits limit ∧ e.payload.length < e.kind.least ∧ why = e.fault ∧
      buffer = e.octets ++ rest := by
  obtain ⟨e, fits, all, refused⟩ := (decode_eq_iff_of_resumes rfl).mp read
  rcases Nat.lt_or_ge e.payload.length e.kind.least with short | enough
  · rw [e.answer_of_short short] at refused
    cases refused
    exact ⟨e, fits, short, rfl, all⟩
  · obtain ⟨f, found, -⟩ := e.answer_of_least enough
    rw [found] at refused
    cases refused

/-- Envelopes within the limit, one behind the other, whatever their payloads: in whatever pieces
they come, each is answered in its place, with its frame if its payload is long enough and with its
one fault if not, and nothing is left. A payload that is none takes just its envelope with it,
whatever the buffer, and any other failure takes nothing and is found again, whatever is added. -/
theorem drainAll_envelopes (fit : ∀ e ∈ es, e.Fits limit) :
    (∀ e ∈ es, if e.kind.least ≤ e.payload.length
      then ∃ f, e.answer = .ok f ∧ f.envelope = e.canonical
      else e.answer = .error (.malformed e.fault)) ∧
    (∀ chunks : List Octets, chunks.flatten = es.flatMap Envelope.octets →
      drainAll limit [] chunks = (es.map Envelope.answer, [])) ∧
    (∀ arrivals : List Arrival, (∀ a ∈ arrivals, a.setback? = none) →
      joined arrivals = es.flatMap Envelope.octets →
      let o := (Reader.start limit arrivals).callAll (List.replicate (es.length + 1) .readFrame)
      o.1 = es.map Envelope.answer ++ [.error .connectionClosed] ∧ o.2.buffer = []) ∧
    ∀ buffer rest err, decode limit buffer = (.failed err, rest) →
      (∀ why, err = .malformed why → ∃ e : Envelope, e.Fits limit ∧
        e.payload.length < e.kind.least ∧ why = e.fault ∧ buffer = e.octets ++ rest) ∧
      ((∀ why, err ≠ .malformed why) → rest = buffer ∧
        (∀ more, decode limit (buffer ++ more) = (.failed err, buffer ++ more)) ∧
        ∀ chunks, drainAll limit buffer chunks =
          (List.replicate chunks.length (.error err), buffer ++ chunks.flatten)) := by
  refine ⟨fun e _ => ?_, fun chunks all => ?_, fun arrivals brought all => ?_,
    fun buffer rest err read => ⟨fun why => ?_, fun other => ?_⟩⟩
  · split
    · obtain ⟨f, found, -⟩ := e.answer_of_least ‹_›
      exact ⟨f, found, envelope_of_answer found⟩
    · exact e.answer_of_short (Nat.lt_of_not_le ‹_›)
  · have answers := drained_envelopes fit []
    rw [List.append_nil, drained_nil, List.append_nil, ← all] at answers
    have pieces : drainAll limit [] chunks = drained limit ([] ++ chunks.flatten) :=
      drainAll_eq rfl (by rw [List.nil_append, answers]; rfl)
    rw [pieces, List.nil_append, answers]
  · exact Reader.callAll_envelopes 0 fit brought all
  · rintro rfl
    exact exists_envelope_of_malformed read
  · have fatal := fatal_of_not_malformed other
    have stays : (decode limit buffer).2 = buffer :=
      decode_of_not_resumes (by rw [read, fatal])
    obtain rfl : rest = buffer := by rw [← stays, read]
    have first : (decode limit rest).1 = .failed err := by rw [read]
    refine ⟨rfl, fun more => ?_, drainAll_of_stuck first fatal⟩
    rw [decode_append more (first ▸ nofun), read]

/-- A method without a number and a header without a size, a heartbeat with a payload between them
and a body with an end octet behind them, in three pieces. -/
theorem drainAll_envelopes_piecewise :
    let es : List Envelope := [⟨.method, 1, [0, 10]⟩, ⟨.heartbeat, 0, [7]⟩, ⟨.header, 1, [0, 60]⟩,
      ⟨.body, 1, [0xCE]⟩]
    let chunks : List Octets := [[1, 0, 1, 0, 0, 0, 2, 0, 10], [0xCE, 8, 0, 0, 0, 0, 0, 1, 7, 0xCE, 2],
      [0, 1, 0, 0, 0, 2, 0, 60, 0xCE, 3, 0, 1, 0, 0, 0, 1, 0xCE, 0xCE]]
    (∀ e ∈ es, e.Fits 10) ∧ chunks.flatten = es.flatMap Envelope.octets ∧
      drainAll 10 [] chunks = ([.error (.malformed (.methodPayload 2)), .ok ⟨0, .heartbeat⟩,
        .error (.malformed (.headerPayload 2)), .ok ⟨1, .body [0xCE]⟩], []) := by
  intro es chunks
  have fit : ∀ e ∈ es, e.Fits 10 := by decide
  have all : chunks.flatten = es.flatMap Envelope.octets := by decide
  exact ⟨fit, all, (drainAll_envelopes fit).2.1 chunks all⟩

end Frame
end Multiplex
