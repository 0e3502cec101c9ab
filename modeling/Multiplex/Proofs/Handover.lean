import Multiplex.Proofs.Framing

/-! How a frame gets onto its stream, call by call. Each write is made where the octets that were
taken end, whatever mixture of short writes and passing failures came before. So a call leaves
exactly as much of its frame as the answers say, and calls that succeed leave their frames one
behind the other. -/

namespace Multiplex

/-- A failure behind which the call is made again: an interruption, or a call that would block where
no time is set for it. -/
def IoError.Passes (timed : Bool) (e : IoError) : Prop :=
  e.kind = .interrupted ∨ e.kind = .wouldBlock ∧ timed = false

theorem Writer.again_iff {timed : Bool} {e : IoError} : again timed e ↔ e.Passes timed := by
  simp [again, IoError.Passes]

/-- What a stream says to the flushes that are made, and what comes of them. -/
inductive Flushing (timed : Bool) : List (Option IoError) → Except FrameError Unit → Prop
  | done : Flushing timed [none] (.ok ())
  | failed {e : IoError} (lasting : ¬ e.Passes timed) : Flushing timed [some e] (.error (.io e))
  | again {e : IoError} {flushes : List (Option IoError)} {result : Except FrameError Unit}
    (passes : e.Passes timed) (later : Flushing timed flushes result) :
    Flushing timed (some e :: flushes) result

/-- What a stream says to the writes and flushes that are made when all but the first `offset` of
some octets are to go out, what comes of them, and how many of the octets are out in the end. -/
inductive Handover (timed : Bool) (bs : Octets) :
    Nat → List Acceptance → List (Option IoError) → Except FrameError Unit → Nat → Prop
  | out {offset : Nat} {flushes : List (Option IoError)} {result : Except FrameError Unit}
    (all : bs.length ≤ offset) (flushing : Flushing timed flushes result) :
    Handover timed bs offset [] flushes result bs.length
  | closed {offset : Nat} (short : offset < bs.length) :
    Handover timed bs offset [.upTo 0] [] (.error .connectionClosed) offset
  | failed {offset : Nat} {e : IoError} (short : offset < bs.length) (lasting : ¬ e.Passes timed) :
    Handover timed bs offset [.failure e] [] (.error (.io e)) offset
  | took {offset n last : Nat} {writes : List Acceptance} {flushes : List (Option IoError)}
    {result : Except FrameError Unit} (short : offset < bs.length) (some : n ≠ 0)
    (later : Handover timed bs (offset + n) writes flushes result last) :
    Handover timed bs offset (.upTo n :: writes) flushes result last
  | again {offset last : Nat} {e : IoError} {writes : List Acceptance}
    {flushes : List (Option IoError)} {result : Except FrameError Unit}
    (short : offset < bs.length) (passes : e.Passes timed)
    (later : Handover timed bs offset writes flushes result last) :
    Handover timed bs offset (.failure e :: writes) flushes result last

namespace Handover

variable {timed : Bool} {bs : Octets} {offset last : Nat} {writes : List Acceptance}
  {flushes : List (Option IoError)} {result : Except FrameError Unit}

theorem all_out (h : Handover timed bs offset writes flushes result last)
    (late : result = .ok () ∨ flushes ≠ []) : last = bs.length := by
  induction h with
  | out all flushing => rfl
  | closed short => exact late.elim (fun ok => nomatch ok) (absurd rfl)
  | failed short lasting => exact late.elim (fun ok => nomatch ok) (absurd rfl)
  | took short some later ih => exact ih late
  | again short passes later ih => exact ih late

end Handover

theorem Writer.flushing_flushWith (timed : Bool) (script : List (Option IoError)) :
    let o := flushWith (again timed) script
    ∃ flushes, flushes <+: script ++ [none] ∧ o.2.2 = script.drop flushes.length ∧
      o.2.1 = flushes.length ∧
      Flushing timed flushes (match o.1 with | some e => .error e | none => .ok ()) := by
  fun_induction flushWith (again timed) script with
  | case1 => exact ⟨[none], List.prefix_rfl, rfl, rfl, .done⟩
  | case2 script => exact ⟨[none], ⟨script ++ [none], rfl⟩, rfl, rfl, .done⟩
  | case3 e script passes failure calls rest same ih =>
    rw [same] at ih
    obtain ⟨flushes, used, left, count, flushing⟩ := ih
    refine ⟨some e :: flushes, ?_, left, ?_, .again (again_iff.mp passes) flushing⟩
    · exact List.cons_prefix_cons.mpr ⟨rfl, used⟩
    · exact congrArg (· + 1) count
  | case4 e script lasting =>
    have lasting : ¬ e.Passes timed := fun passes => lasting (again_iff.mpr passes)
    exact ⟨[some e], ⟨script ++ [none], rfl⟩, rfl, rfl, .failed lasting⟩

def Delivery.Settled (timed : Bool) (failure : Option FrameError) (flushes : List (Option IoError))
    (result : Except FrameError Unit) : Prop :=
  match failure with
  | some e => flushes = [] ∧ result = .error e
  | none => Flushing timed flushes result

namespace Delivery

variable {timed : Bool} {bs left : Octets}

theorem short_of_left {offset : Nat} (rest : left = bs.drop offset) (some : left ≠ []) :
    offset < bs.length :=
  Nat.lt_of_not_le fun all => some (rest.trans (List.drop_eq_nil_of_le all))

/-- The writes for what is left of some octets. Behind its script the stream takes `most` octets,
which is enough. -/
theorem handover_ofWrites {most : Nat} (script : List Acceptance) (enough : left.length ≤ most) :
    let d := ofWrites (Writer.again timed) script left
    ∀ {offset}, left = bs.drop offset →
      ∃ writes last, writes <+: script ++ [.upTo most] ∧ d.script = script.drop writes.length ∧
        d.calls = writes.length ∧ bs.take offset ++ d.accepted = bs.take last ∧
        ∀ flushes result, Settled timed d.failure flushes result →
          Handover timed bs offset writes flushes result last := by
  fun_induction ofWrites (Writer.again timed) script left with
  | case1 script =>
    intro _ offset rest
    have all : bs.length ≤ offset := List.drop_eq_nil_iff.mp rest.symm
    refine ⟨[], bs.length, List.nil_prefix, rfl, rfl, ?_, fun _ _ => .out all⟩
    rw [List.append_nil, List.take_of_length_le all, List.take_length]
  | case2 left some =>
    intro _ offset rest
    have short := short_of_left rest some
    have all : bs.length ≤ offset + most := by
      rw [rest, List.length_drop] at enough
      exact Nat.sub_le_iff_le_add'.mp enough
    have positive : most ≠ 0 := by omega
    refine ⟨[.upTo most], bs.length, List.prefix_rfl, rfl, rfl, ?_, fun _ _ flushing => ?_⟩
    · change bs.take offset ++ left = bs.take bs.length
      rw [rest, List.take_append_drop, List.take_length]
    · exact .took short positive (.out all flushing)
  | case3 script left some =>
    intro _ offset rest
    refine ⟨[.upTo 0], offset, ⟨script ++ [.upTo most], rfl⟩, rfl, rfl, List.append_nil _, ?_⟩
    rintro _ _ ⟨rfl, rfl⟩
    exact .closed (short_of_left rest some)
  | case4 n script left some positive d ih =>
    intro _ offset rest
    have further : left.drop n = bs.drop (offset + n) := by rw [rest, List.drop_drop]
    have enough' : (left.drop n).length ≤ most :=
      Nat.le_trans (List.drop_sublist n left).length_le enough
    obtain ⟨writes, last, used, script, calls, accepted, ends⟩ := ih enough' further
    refine ⟨.upTo n :: writes, last, List.cons_prefix_cons.mpr ⟨rfl, used⟩, script,
      congrArg (· + 1) calls, ?_, fun _ _ settled => ?_⟩
    · have piece : bs.take (offset + n) = bs.take offset ++ left.take n := by
        rw [List.take_add, rest]
      rwa [piece, List.append_assoc] at accepted
    · exact .took (short_of_left rest some) positive (ends _ _ settled)
  | case5 e script left some passes d ih =>
    intro _ offset rest
    obtain ⟨writes, last, used, script, calls, accepted, ends⟩ := ih enough rest
    refine ⟨.failure e :: writes, last, List.cons_prefix_cons.mpr ⟨rfl, used⟩, script,
      congrArg (· + 1) calls, accepted, fun _ _ settled => ?_⟩
    exact .again (short_of_left rest some) (Writer.again_iff.mp passes) (ends _ _ settled)
  | case6 e script left some lasting =>
    intro _ offset rest
    have lasting : ¬ e.Passes timed := fun passes => lasting (Writer.again_iff.mpr passes)
    refine ⟨[.failure e], offset, ⟨script ++ [.upTo most], rfl⟩, rfl, rfl, List.append_nil _, ?_⟩
    rintro _ _ ⟨rfl, rfl⟩
    exact .failed (short_of_left rest some) lasting

end Delivery

namespace Writer

def after (w : Writer) (writes : List Acceptance) (flushes : List (Option IoError))
    (taken : Octets) : Writer :=
  { w with
    writes := w.writes.drop writes.length
    flushes := w.flushes.drop flushes.length
    accepted := w.accepted.push taken
    writeCalls := w.writeCalls + writes.length
    flushCalls := w.flushCalls + flushes.length }

theorem handover_writeFrame {w : Writer} {f : Frame} (fits : f.Fits w.limit) :
    ∃ writes flushes last, writes <+: w.writes ++ [.upTo f.octets.length] ∧
      flushes <+: w.flushes ++ [none] ∧
      Handover w.timed f.octets 0 writes flushes (w.writeFrame f).1 last ∧
      (w.writeFrame f).2 = w.after writes flushes (f.octets.take last) := by
  obtain ⟨writes, last, used, script, calls, accepted, ends⟩ :=
    Delivery.handover_ofWrites w.writes (Nat.le_refl _) (List.drop_zero (l := f.octets)).symm
  rw [List.take_zero, List.nil_append] at accepted
  rw [writeFrame_of_fits fits]
  cases failure : (Delivery.ofWrites (again w.timed) w.writes f.octets).failure with
  | some e =>
    refine ⟨writes, [], last, used, List.nil_prefix, ?_, ?_⟩
    · simp only [failure]
      exact ends _ _ (failure ▸ ⟨rfl, rfl⟩)
    · simp only [failure, after, script, calls, accepted]
      rfl
  | none =>
    obtain ⟨flushes, flushed, flushes_left, flush_calls, flushing⟩ :=
      flushing_flushWith w.timed w.flushes
    refine ⟨writes, flushes, last, used, flushed, ?_, ?_⟩
    · simp only [failure]
      exact ends _ _ (failure ▸ flushing)
    · simp only [failure, flush, after, script, calls, accepted, flushes_left, flush_calls]

theorem calls_callAll (w : Writer) (calls : List WriterCall) :
    (w.callAll calls).1.map (·.call) = calls := by
  induction calls generalizing w with
  | nil => rfl
  | cons c calls ih => exact congrArg (c :: ·) (ih (w.call c).2)

theorem accepted_callAll_of_ok {w : Writer} {calls : List WriterCall}
    (ok : ∀ x ∈ (w.callAll calls).1, x.result = .ok ()) :
    (w.callAll calls).2.accepted.octets = w.accepted.octets ++ calls.flatMap (·.octets) := by
  obtain ⟨shares, -, sound⟩ := w.sound_callAll calls
  have whole : (w.callAll calls).1.flatMap (·.taken) =
      (w.callAll calls).1.flatMap fun x => x.call.octets :=
    List.flatMap_congr fun x mem => (sound x mem).all (ok x mem)
  rw [shares, whole, ← List.flatMap_map (fun x : Writing => x.call), calls_callAll]

/-- A frame that is too large is refused without a call to the stream. For any other one, the writes
and flushes are those that a handover of its encoding makes from its first octet on, and the stream
takes as much of the encoding as the handover says: all of it, if the call succeeds or gets as far as
a flush. Calls that all succeed leave their encodings one behind the other. -/
theorem writeFrame_exact (w : Writer) :
    (∀ f : Frame, f.payload.size ≤ Frame.maxPayload →
      (w.limit < f.wireSize → w.writeFrame f = (.error (.tooLarge f.wireSize w.limit), w)) ∧
      (f.wireSize ≤ w.limit → ∃ bs writes flushes last, f.encode = .ok bs ∧
        writes <+: w.writes ++ [.upTo bs.length] ∧ flushes <+: w.flushes ++ [none] ∧
        Handover w.timed bs 0 writes flushes (w.writeFrame f).1 last ∧
        (w.writeFrame f).2 = w.after writes flushes (bs.take last) ∧
        ((w.writeFrame f).1 = .ok () ∨ flushes ≠ [] → bs.take last = bs))) ∧
    ∀ calls : List WriterCall, (∀ x ∈ (w.callAll calls).1, x.result = .ok ()) →
      (w.callAll calls).2.accepted.octets = w.accepted.octets ++ calls.flatMap (·.octets) := by
  refine ⟨fun f small => ⟨writeFrame_of_large, fun within => ?_⟩,
    fun calls => accepted_callAll_of_ok⟩
  have fits : f.Fits w.limit := ⟨small, within⟩
  obtain ⟨writes, flushes, last, used, flushed, handover, after⟩ := handover_writeFrame fits
  refine ⟨f.octets, writes, flushes, last, Frame.encode_of_fits fits, used, flushed, handover, after,
    fun late => ?_⟩
  rw [handover.all_out late, List.take_length]

/-- Two octets of a frame are taken, then three, and each time the stream fails in passing before it
goes on, as it does before the flush. The same frame once more is taken at once. -/
theorem writeFrame_exact_halting :
    let interrupted : IoError := ⟨.interrupted, "EINTR"⟩
    let writes : List Acceptance :=
      [.upTo 2, .failure interrupted, .upTo 3, .failure ⟨.wouldBlock, "EAGAIN"⟩, .upTo 9]
    let w := start 8 false writes [some interrupted]
    let f : Frame := ⟨0, .heartbeat⟩
    let calls : List WriterCall := [.writeFrame f, .flush, .writeFrame f]
    f.payload.size ≤ Frame.maxPayload ∧ f.wireSize ≤ w.limit ∧
    (∀ x ∈ (w.callAll calls).1, x.result = .ok ()) ∧
    (∃ used flushed last, Handover false f.octets 0 used flushed (.ok ()) last ∧
      (w.writeFrame f).2 = w.after used flushed (f.octets.take last) ∧
      f.octets.take last = f.octets) ∧
    (w.writeFrame f).2.writeCalls = 5 ∧ (w.writeFrame f).2.flushCalls = 2 ∧
    (w.callAll calls).2.accepted.octets = f.octets ++ f.octets := by
  intro interrupted writes w f calls
  have small : f.payload.size ≤ Frame.maxPayload := by decide
  have within : f.wireSize ≤ w.limit := by decide
  have ok : ∀ x ∈ (w.callAll calls).1, x.result = .ok () := by decide +kernel
  have done : (w.writeFrame f).1 = .ok () := by decide +kernel
  obtain ⟨frame, sequence⟩ := w.writeFrame_exact
  obtain ⟨bs, used, flushed, last, encoded, -, -, handover, after, whole⟩ :=
    (frame f small).2 within
  obtain rfl : f.octets = bs := Except.ok.inj encoded
  refine ⟨small, within, ok, ⟨used, flushed, last, ?_, after, whole (.inl done)⟩,
    by decide +kernel, by decide +kernel, sequence calls ok⟩
  rwa [done] at handover

end Writer

end Multiplex
