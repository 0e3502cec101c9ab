import Mathlib.Data.List.Basic
import Multiplex.Proofs.Transmission

/-! What a writer leaves on its stream when writes fail. Each call leaves the beginning of its
frame, and all of it if the call succeeds. As long as nothing is written behind a frame that was
broken off, the stream consists of frames, the last of which may be unfinished. A stream that ends
inside a frame is spoilt, however well it goes on. -/

namespace Multiplex

/-- Frames within a limit, one behind the other. -/
inductive Complete (limit : Nat) : Octets → Prop
  | nothing : Complete limit []
  | whole {f : Frame} {rest : Octets} (fits : f.Fits limit) (later : Complete limit rest) :
    Complete limit (f.octets ++ rest)

/-- Frames within a limit, one behind the other, the last of which may be unfinished. -/
inductive Framed (limit : Nat) : Octets → Prop
  | nothing : Framed limit []
  | begun {f : Frame} {bs : Octets} (fits : f.Fits limit) (begins : bs <+: f.octets)
    (proper : bs ≠ f.octets) : Framed limit bs
  | whole {f : Frame} {rest : Octets} (fits : f.Fits limit) (later : Framed limit rest) :
    Framed limit (f.octets ++ rest)

section Framed

variable {limit : Nat} {f : Frame} {frames : List Frame} {bs part rest : Octets}

theorem Complete.framed (h : Complete limit bs) : Framed limit bs := by
  induction h with
  | nothing => exact .nothing
  | whole fits later ih => exact .whole fits ih

theorem Complete.append (h : Complete limit bs) (more : Complete limit rest) :
    Complete limit (bs ++ rest) := by
  induction h with
  | nothing => exact more
  | whole fits later ih =>
    rw [List.append_assoc]
    exact .whole fits ih

theorem complete_flatMap (fit : ∀ f ∈ frames, f.Fits limit) :
    Complete limit (frames.flatMap Frame.octets) := by
  induction frames with
  | nil => exact .nothing
  | cons f frames ih => exact .whole (fit f (.head _)) (ih fun g mem => fit g (.tail _ mem))

theorem Framed.of_begins (h : Framed limit bs) (begins : part <+: bs) : Framed limit part := by
  induction h generalizing part with
  | nothing =>
    rw [List.prefix_nil.mp begins]
    exact .nothing
  | begun fits within proper =>
    refine .begun fits (begins.trans within) fun same => proper ?_
    exact within.eq_of_length_le (same ▸ begins.length_le)
  | @whole f rest fits later ih =>
    rcases List.prefix_or_prefix_of_prefix begins (List.prefix_append f.octets rest) with
      inside | beyond
    · by_cases same : part = f.octets
      · rw [same, ← List.append_nil f.octets]
        exact .whole fits .nothing
      · exact .begun fits inside same
    · obtain ⟨more, rfl⟩ := beyond
      exact .whole fits (ih ((List.prefix_append_right_inj _).mp begins))

/-- A peer that decodes it with the same limit never finds a failure. -/
theorem Framed.decode_ne_failed (h : Framed limit bs) (e : FrameError) :
    (Frame.decode limit bs).1 ≠ .failed e := by
  cases h with
  | nothing => simp [Frame.decode]
  | begun fits begins proper => simp [Frame.incomplete_of_begins_octets fits begins proper]
  | whole fits later => simp [Frame.decode_octets_append fits]

theorem Framed.of_octets_append (h : Framed limit (f.octets ++ rest)) (fits : f.Fits limit) :
    Framed limit rest := by
  have read := Frame.decode_octets_append fits rest
  generalize all : f.octets ++ rest = bs at h read
  cases h with
  | nothing => simp [Frame.decode] at read
  | begun fits' begins proper =>
    have part := Frame.incomplete_of_begins_octets fits' begins proper
    rw [read] at part
    cases part
  | whole fits' later =>
    rw [Frame.decode_octets_append fits', Prod.mk.injEq] at read
    exact read.2 ▸ later

theorem Framed.of_append {whole : Octets} (complete : Complete limit whole)
    (h : Framed limit (whole ++ rest)) : Framed limit rest := by
  induction complete with
  | nothing => exact h
  | whole fits later ih =>
    rw [List.append_assoc] at h
    exact ih (h.of_octets_append fits)

theorem Framed.ends (h : Framed limit bs) :
    Complete limit bs ∨ ∃ whole part, ∃ f : Frame, Complete limit whole ∧ bs = whole ++ part ∧
      f.Fits limit ∧ part ≠ [] ∧ part <+: f.octets ∧ part ≠ f.octets := by
  induction h with
  | nothing => exact .inl .nothing
  | @begun f part fits begins proper =>
    by_cases empty : part = []
    · exact .inl (empty ▸ .nothing)
    · exact .inr ⟨[], part, f, .nothing, rfl, fits, empty, begins, proper⟩
  | @whole g rest fits later ih =>
    rcases ih with complete | ⟨whole, part, f, complete, rfl, begun⟩
    · exact .inl (.whole fits complete)
    · exact .inr ⟨g.octets ++ whole, part, f, .whole fits complete,
        (List.append_assoc ..).symm, begun⟩

end Framed

section Spoilt

variable {limit : Nat} {f : Frame} {bs part more : Octets}

/-- The seventh octet of a frame tells how long it is, up to a multiple of eight. -/
theorem Frame.length_mod_eight (f : Frame) :
    ∃ b, f.octets[6]? = some b ∧ f.octets.length % 8 = b.toNat % 8 := by
  refine ⟨UInt8.ofNat (f.payload.size / Octets.capacity 0), rfl, ?_⟩
  rw [Frame.length_octets, Frame.wireSize, Frame.overhead, Octets.capacity, Nat.div_one]
  simp only [UInt8.toNat_ofNat']
  omega

theorem Frame.getLast?_octets (f : Frame) : f.octets.getLast? = some Frame.endOctet := by
  rw [Frame.octets, ← List.cons_append, List.getLast?_concat]

def blank : Frame := ⟨0, .body []⟩

def spare : Frame := ⟨0, .body [0]⟩

def blanks (n : Nat) : Octets := (List.replicate n blank).flatMap Frame.octets

theorem blanks_succ (n : Nat) : blanks (n + 1) = blank.octets ++ blanks n := by
  rw [blanks, List.replicate_succ, List.flatMap_cons, blanks]

theorem length_blanks (n : Nat) : (blanks n).length = 8 * n := by
  induction n with
  | zero => rfl
  | succ n ih =>
    rw [blanks_succ, List.length_append, ih, Frame.length_octets, show blank.wireSize = 8 from rfl]
    omega

/-- Where a frame has no end octet before its end, only the whole of it ends with one. -/
theorem Frame.octets_prefix_of_ends (clear : Frame.endOctet ∉ f.octets.dropLast)
    (begins : bs <+: f.octets ++ more) (ends : bs.getLast? = some Frame.endOctet) :
    f.octets <+: bs := by
  rcases List.prefix_or_prefix_of_prefix begins (List.prefix_append f.octets more) with
    ⟨missing, same⟩ | beyond
  · cases missing with
    | nil => exact ⟨[], by rw [← same, List.append_nil, List.append_nil]⟩
    | cons b missing =>
      rw [← same, List.dropLast_append_of_ne_nil (List.cons_ne_nil b missing)] at clear
      exact absurd (List.mem_append_left _ (List.mem_of_getLast? ends)) clear
  · exact beyond

theorem ends_of_append (ends : (part ++ more).getLast? = some Frame.endOctet) :
    more = [] ∨ more.getLast? = some Frame.endOctet := by
  by_cases empty : more = []
  · exact .inl empty
  · exact .inr (List.getLast?_append_of_ne_nil part empty ▸ ends)

theorem length_of_prefix_blanks {n : Nat} (begins : bs <+: blanks n)
    (ends : bs = [] ∨ bs.getLast? = some Frame.endOctet) : bs.length % 8 = 0 := by
  rcases ends with rfl | ends
  · rfl
  induction n generalizing bs with
  | zero =>
    rw [List.prefix_nil.mp begins] at ends
    cases ends
  | succ n ih =>
    rw [blanks_succ] at begins
    obtain ⟨more, rfl⟩ := Frame.octets_prefix_of_ends (by decide) begins ends
    have eight : (blank.octets ++ more).length = more.length + 8 := by
      rw [List.length_append, Nat.add_comm]
      rfl
    rw [eight, Nat.add_mod_right]
    rcases ends_of_append ends with rfl | ends
    · rfl
    · exact ih ((List.prefix_append_right_inj _).mp begins) ends

/-- Where frames are written behind the beginning of one, and all is framed, the first end that a
peer finds is the end of one of those. -/
theorem exists_end (fits : f.Fits limit) (begun : part ≠ []) (begins : part <+: f.octets)
    (proper : part ≠ f.octets) (framed : Framed limit (part ++ more))
    (long : limit ≤ more.length) :
    ∃ first b, first <+: more ∧ first.getLast? = some Frame.endOctet ∧
      (part ++ first)[6]? = some b ∧ (part ++ first).length % 8 = b.toNat % 8 := by
  generalize all : part ++ more = bs at framed
  cases framed with
  | nothing => exact absurd (List.append_eq_nil_iff.mp all).1 begun
  | @begun g _ fits' within _ =>
    have shorter := within.length_le
    have positive := List.length_pos_iff.mpr begun
    have size := fits'.2
    rw [← all, List.length_append, Frame.length_octets] at shorter
    omega
  | @whole g rest fits' later =>
    -- the frame that is found is not there before the new ones begin
    have beyond : ¬ g.octets <+: part := fun inside => by
      have same := Frame.eq_of_begins_octets fits' fits (inside.trans begins)
      exact proper (begins.eq_of_length_le (same ▸ inside.length_le))
    obtain ⟨first, same⟩ : part <+: g.octets :=
      (List.prefix_or_prefix_of_prefix ⟨more, all⟩ (List.prefix_append g.octets rest)).resolve_right
        beyond
    obtain ⟨b, seventh, length⟩ := g.length_mod_eight
    have some_first : first ≠ [] := by
      rintro rfl
      rw [List.append_nil] at same
      exact beyond (same ▸ List.prefix_rfl)
    refine ⟨first, b, ?_, ?_, same ▸ seventh, same ▸ length⟩
    · rw [← same, List.append_assoc] at all
      exact ⟨rest, (List.append_cancel_left all).symm⟩
    · rw [← List.getLast?_append_of_ne_nil part some_first, same, g.getLast?_octets]

theorem seventh_of_short {n : Nat} {first : Octets} {b : UInt8} (begun : part ≠ [])
    (short : part.length < 7) (begins : first <+: blanks (n + 1))
    (ends : first.getLast? = some Frame.endOctet) (seventh : (part ++ first)[6]? = some b) :
    part.length % 8 ≠ b.toNat % 8 := by
  obtain ⟨rest, rfl⟩ : blank.octets <+: first :=
    Frame.octets_prefix_of_ends (by decide) (blanks_succ n ▸ begins) ends
  have inside : blank.octets[6 - part.length]? = some b := by
    rw [List.getElem?_append_right (Nat.le_of_lt_succ short)] at seventh
    rwa [List.getElem?_append_left] at seventh
    exact Nat.lt_of_le_of_lt (Nat.sub_le 6 _) (by decide)
  have differ : ∀ k < 7, 0 < k → ∀ c ∈ blank.octets[6 - k]?, k % 8 ≠ c.toNat % 8 := by
    decide +kernel
  exact differ part.length short (List.length_pos_iff.mpr begun) b inside

/-- Behind the beginning of a frame, frames can be written that leave something else than frames. -/
theorem exists_spoilt (fits : f.Fits limit) (begun : part ≠ []) (begins : part <+: f.octets)
    (proper : part ≠ f.octets) :
    ∃ frames : List Frame, (∀ g ∈ frames, g.Fits limit) ∧
      ¬ Framed limit (part ++ frames.flatMap Frame.octets) := by
  refine Classical.byContradiction fun none => ?_
  have framed (frames : List Frame) (fit : ∀ g ∈ frames, g.Fits limit) :
      Framed limit (part ++ frames.flatMap Frame.octets) :=
    Classical.byContradiction fun spoilt => none ⟨frames, fit, spoilt⟩
  have size := fits.2
  have eight : 8 ≤ f.wireSize := Nat.le_add_right _ _
  have row : ∀ g ∈ List.replicate (limit + 1) blank, g.Fits limit :=
    fun g mem => List.eq_of_mem_replicate mem ▸ ⟨Nat.zero_le _, Nat.le_trans eight size⟩
  have long : limit ≤ (blanks (limit + 1)).length := by
    rw [length_blanks]
    omega
  -- the first end that is found is the end of a shortest frame
  obtain ⟨first, b, begins₁, ends₁, seventh₁, length₁⟩ :=
    exists_end fits begun begins proper (framed _ row) long
  have aligned₁ := length_of_prefix_blanks begins₁ (.inr ends₁)
  rw [List.length_append] at length₁
  by_cases short : part.length < 7
  · have differ := seventh_of_short begun short begins₁ ends₁ seventh₁
    omega
  -- the size stands in the unfinished frame, so that the end is not moved by a longer frame
  have same (more : Octets) : (part ++ more)[6]? = part[6]? :=
    List.getElem?_append_left (Nat.le_of_not_lt short)
  rw [same] at seventh₁
  -- there is room for a longer frame, as the unfinished one lacks eight octets or more
  have room : 9 ≤ limit := by
    obtain ⟨d, seventh, length⟩ := f.length_mod_eight
    obtain ⟨missing, whole⟩ := id begins
    rw [← whole, same] at seventh
    have told : b = d := Option.some.inj (seventh₁.symm.trans seventh)
    have shorter : part.length < f.octets.length :=
      Nat.lt_of_not_le fun all => proper (begins.eq_of_length_le all)
    rw [told] at length₁
    rw [Frame.length_octets] at length shorter
    omega
  have spare_fits : spare.Fits limit := ⟨by decide, room⟩
  obtain ⟨second, c, begins₂, ends₂, seventh₂, length₂⟩ :=
    exists_end fits begun begins proper
      (framed (spare :: List.replicate (limit + 1) blank)
        (List.forall_mem_cons.mpr ⟨spare_fits, row⟩))
      (Nat.le_trans long (by simp [blanks]))
  change second <+: spare.octets ++ blanks (limit + 1) at begins₂
  obtain ⟨rest, rfl⟩ : spare.octets <+: second :=
    Frame.octets_prefix_of_ends (by decide) begins₂ ends₂
  have aligned₂ := length_of_prefix_blanks ((List.prefix_append_right_inj _).mp begins₂)
    (ends_of_append ends₂)
  rw [same] at seventh₂
  have told : b = c := Option.some.inj (seventh₁.symm.trans seventh₂)
  rw [List.length_append, List.length_append, show spare.octets.length = 9 from rfl] at length₂
  rw [told] at length₁
  omega

end Spoilt

namespace Writing

variable {limit : Nat} {log : List Writing}

/-- A call that left some of its frame on the stream, but not all. -/
def Broken (x : Writing) : Prop := x.taken ≠ [] ∧ x.taken ≠ x.call.octets

instance {x : Writing} : Decidable x.Broken := inferInstanceAs (Decidable (_ ∧ _))

structure Sound (limit : Nat) (x : Writing) : Prop where
  begins : x.taken <+: x.call.octets
  all : x.result = .ok () → x.taken = x.call.octets
  fits : x.taken ≠ [] → ∃ f : Frame, f.Fits limit ∧ x.call.octets = f.octets

theorem framed_of_unbroken (sound : ∀ x ∈ log, x.Sound limit)
    (unbroken : log.Pairwise fun x y => x.Broken → y.taken = []) :
    Framed limit (log.flatMap (·.taken)) := by
  induction log with
  | nil => exact .nothing
  | cons x log ih =>
    obtain ⟨behind, unbroken⟩ := List.pairwise_cons.mp unbroken
    have later := ih (fun y mem => sound y (.tail _ mem)) unbroken
    have here := sound x (.head _)
    rw [List.flatMap_cons]
    by_cases nothing : x.taken = []
    · rwa [nothing, List.nil_append]
    obtain ⟨f, fits, task⟩ := here.fits nothing
    by_cases all : x.taken = x.call.octets
    · rw [all, task]
      exact .whole fits later
    · have silence : log.flatMap (·.taken) = [] :=
        List.flatMap_eq_nil_iff.mpr fun y mem => behind y mem ⟨nothing, all⟩
      rw [silence, List.append_nil]
      exact .begun fits (task ▸ here.begins) (task ▸ all)

end Writing

namespace Writer

theorem sound_writeFrame (w : Writer) (f : Frame) {c : WriterCall} (task : c.octets = f.octets) :
    ∃ taken, (w.writeFrame f).2.accepted.octets = w.accepted.octets ++ taken ∧
      (w.writeFrame f).2.limit = w.limit ∧
      Writing.Sound w.limit ⟨c, (w.writeFrame f).1, taken⟩ := by
  by_cases fits : f.Fits w.limit
  · have begins : (Delivery.ofWrites (again w.timed) w.writes f.octets).accepted <+: c.octets :=
      task ▸ Delivery.accepted_begins _ _ _
    rw [writeFrame_of_fits fits]
    cases failure : (Delivery.ofWrites (again w.timed) w.writes f.octets).failure with
    | some e =>
      simp only [failure]
      exact ⟨_, Spool.octets_push _ _, trivial, begins, (fun done => nomatch done),
        fun _ => ⟨f, fits, task⟩⟩
    | none =>
      have all := (Delivery.accepted_of_done failure).trans task.symm
      simp only [failure]
      exact ⟨_, Spool.octets_push _ _, rfl, begins, fun _ => all, fun _ => ⟨f, fits, task⟩⟩
  · obtain ⟨e, refused⟩ := refused_of_not_fits fits
    rw [refused]
    exact ⟨[], (List.append_nil _).symm, rfl, List.nil_prefix, (fun done => nomatch done),
      fun some => absurd rfl some⟩

theorem sound_call (w : Writer) (c : WriterCall) :
    ∃ taken, (w.call c).2.accepted.octets = w.accepted.octets ++ taken ∧
      (w.call c).2.limit = w.limit ∧ Writing.Sound w.limit ⟨c, (w.call c).1, taken⟩ := by
  cases c with
  | writeFrame f => exact w.sound_writeFrame f rfl
  | sendMethod channel method => exact w.sound_writeFrame ⟨channel, .method method⟩ rfl
  | flush =>
    exact ⟨[], (List.append_nil _).symm, rfl, List.nil_prefix, fun _ => rfl,
      fun some => absurd rfl some⟩

theorem sound_callAll (w : Writer) (calls : List WriterCall) :
    (w.callAll calls).2.accepted.octets =
      w.accepted.octets ++ (w.callAll calls).1.flatMap (·.taken) ∧
    (w.callAll calls).2.limit = w.limit ∧ ∀ x ∈ (w.callAll calls).1, x.Sound w.limit := by
  induction calls generalizing w with
  | nil => simp [callAll]
  | cons c calls ih =>
    obtain ⟨taken, accepted, limit, sound⟩ := w.sound_call c
    obtain ⟨later, limits, sounds⟩ := ih (w.call c).2
    have share : (w.call c).2.accepted.octets.drop w.accepted.size = taken := by
      rw [accepted, ← Spool.length_octets, List.drop_left]
    simp only [callAll, share]
    refine ⟨?_, limits.trans limit, List.forall_mem_cons.mpr ⟨sound, limit ▸ sounds⟩⟩
    rw [later, accepted, List.flatMap_cons, List.append_assoc]

/-- Whatever a stream takes and whichever calls fail, each call leaves the beginning of its frame
there, and all of it if it succeeds. If nothing was taken behind a frame that was broken off, the
stream is framed at every moment. It stays so, whatever is written from then on and taken whole,
just if it does not end inside a frame. -/
theorem framed_callAll (limit : Nat) (timed : Bool) (writes : List Acceptance)
    (flushes : List (Option IoError)) (calls : List WriterCall) :
    let o := (start limit timed writes flushes).callAll calls
    let stream := o.2.accepted.octets
    (stream = o.1.flatMap (·.taken) ∧ ∀ x ∈ o.1, x.Sound limit) ∧
    ((o.1.Pairwise fun x y => x.Broken → y.taken = []) →
      ∀ moment, moment <+: stream → Framed limit moment) ∧
    (Framed limit stream →
      ((∀ frames : List Frame, (∀ f ∈ frames, f.Fits limit) →
        Framed limit (({ o.2 with writes := [], flushes := [] } : Writer).callAll
          (frames.map .writeFrame)).2.accepted.octets) ↔ Complete limit stream)) := by
  intro o stream
  obtain ⟨shares, same, sound⟩ := sound_callAll (start limit timed writes flushes) calls
  have shares : stream = o.1.flatMap (·.taken) := shares
  refine ⟨⟨shares, sound⟩, fun unbroken moment begins => ?_, fun framed => ?_⟩
  · exact (Writing.framed_of_unbroken sound unbroken).of_begins (shares ▸ begins)
  · have written (frames : List Frame) (fit : ∀ f ∈ frames, f.Fits limit) :
        (({ o.2 with writes := [], flushes := [] } : Writer).callAll
          (frames.map .writeFrame)).2.accepted.octets = stream ++ frames.flatMap Frame.octets := by
      have willing : ({ o.2 with writes := [], flushes := [] } : Writer).Willing :=
        ⟨List.forall_mem_nil _, fun _ mem => nomatch mem⟩
      have all : frames.filter (·.wireSize ≤ o.2.limit) = frames :=
        List.filter_eq_self.mpr fun f mem => decide_eq_true (same ▸ (fit f mem).2)
      obtain ⟨-, accepted⟩ := willing.callAll fun f mem => (fit f mem).1
      rw [accepted, all]
    constructor
    · intro goesOn
      refine framed.ends.resolve_right ?_
      rintro ⟨whole, part, f, complete, ends, fits, begun, begins, proper⟩
      obtain ⟨frames, fit, spoilt⟩ := exists_spoilt fits begun begins proper
      have framed := goesOn frames fit
      rw [written frames fit, ends, List.append_assoc] at framed
      exact spoilt (framed.of_append complete)
    · intro complete frames fit
      rw [written frames fit]
      exact (complete.append (complete_flatMap fit)).framed

def stalled : IoError := ⟨.wouldBlock, "Resource temporarily unavailable (os error 11)"⟩

theorem framed_stalled :
    let o := (start 131072 true [.upTo 8, .upTo 7, .failure stalled] []).callAll
      [.writeFrame ⟨0, .heartbeat⟩, .writeFrame ⟨1, .body [1, 2]⟩]
    o.1.map (·.result) = [.ok (), .error (.io stalled)] ∧
    (o.1.Pairwise fun x y => x.Broken → y.taken = []) ∧
    o.2.accepted.octets = [8, 0, 0, 0, 0, 0, 0, 0xCE, 3, 0, 1, 0, 0, 0, 2] ∧
    ∀ moment, moment <+: o.2.accepted.octets → Framed 131072 moment := by
  intro o
  obtain ⟨-, moments, -⟩ := framed_callAll 131072 true [.upTo 8, .upTo 7, .failure stalled] []
    [.writeFrame ⟨0, .heartbeat⟩, .writeFrame ⟨1, .body [1, 2]⟩]
  have unbroken : o.1.Pairwise fun x y => x.Broken → y.taken = [] := by decide +kernel
  exact ⟨by decide +kernel, unbroken, by decide +kernel, moments unbroken⟩

/-- A frame is broken off behind its size, and then the next one is written whole. Its third octet
stands where the first one was to end. -/
theorem garbled_stalled :
    let o := (start 131072 true [.upTo 7, .failure stalled] []).callAll
      [.writeFrame ⟨1, .body [1, 2]⟩, .writeFrame ⟨0, .heartbeat⟩]
    o.1.map (·.result) = [.error (.io stalled), .ok ()] ∧
    o.2.accepted.octets = [3, 0, 1, 0, 0, 0, 2, 8, 0, 0, 0, 0, 0, 0, 0xCE] ∧
    (Frame.decode 131072 o.2.accepted.octets).1 = .failed (.missingEnd 0) ∧
    ¬ Framed 131072 o.2.accepted.octets := by
  intro o
  have found : (Frame.decode 131072 o.2.accepted.octets).1 = .failed (.missingEnd 0) := by
    decide +kernel
  exact ⟨by decide +kernel, by decide +kernel, found, fun framed => framed.decode_ne_failed _ found⟩

end Writer
end Multiplex
