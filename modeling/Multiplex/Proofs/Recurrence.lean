import Mathlib.Data.List.Find
import Mathlib.Data.List.Induction
import Multiplex.Proofs.Demultiplexing
import Multiplex.Proofs.Rotation

/-! How soon a number comes round again. The search goes on behind the number reserved last,
whatever became of that one, so before it comes back to a number it has passed all the others, and
each of them was open at some moment in between. -/

namespace Multiplex

def Event.reserved? : Event → Option ChannelId
  | .reserved c => some c
  | .sent .. | .pulled .. | .delivered .. | .refused _ | .forgotten _ | .abandoned _ | .shut => none

/-- The number reserved last. -/
def lastReserved (history : List Event) : ChannelId :=
  (history.filterMap (·.reserved?)).getLast?.getD .connection

/-- Whether a channel is open, going by what happened. -/
def openAfter (c : ChannelId) (history : List Event) : Bool := (lifetimes c history).present.isSome

section History

variable {c : ChannelId} {history events : List Event}

theorem reserved?_eq_some {e : Event} : e.reserved? = some c ↔ e = .reserved c := by
  cases e <;> simp [Event.reserved?]

@[simp] theorem lastReserved_concat : lastReserved (history ++ [.reserved c]) = c := by
  simp [lastReserved, Event.reserved?]

theorem lastReserved_of_unreserved (unreserved : ∀ d, .reserved d ∉ events) :
    lastReserved (history ++ events) = lastReserved history := by
  have nothing : events.filterMap (·.reserved?) = [] := by
    refine List.filterMap_eq_nil_iff.mpr fun e he => Option.eq_none_iff_forall_ne_some.mpr ?_
    exact fun d reserved => unreserved d (reserved?_eq_some.mp reserved ▸ he)
  rw [lastReserved, lastReserved, List.filterMap_append, nothing, List.append_nil]

@[simp] theorem openAfter_concat : openAfter c (history ++ [.reserved c]) = true := by
  simp [openAfter, lifetimes_append, Lifetimes.record]

end History

namespace Session

section Distance

/-- How far behind `last` a number is reached, counting on to the bound and round again from 1. -/
def stepsTo (max last i : Nat) : Nat := if last < i then i - last else max - last + i

theorem pairwise_range' {R : Nat → Nat → Prop} {first n : Nat}
    (rising : ∀ i j, first ≤ i → i < j → j < first + n → R i j) :
    (List.range' first n).Pairwise R := by
  refine List.Pairwise.imp_of_mem (fun {i j} hi hj less => ?_) List.pairwise_lt_range'
  exact rising i j (List.mem_range'_1.mp hi).1 less (List.mem_range'_1.mp hj).2

theorem pairwise_inTurn (max last : Nat) :
    (inTurn max last).Pairwise (stepsTo max last · < stepsTo max last ·) := by
  unfold inTurn
  split
  · refine pairwise_range' fun i j low less high => ?_
    grind [stepsTo]
  · refine List.pairwise_append.mpr ⟨?_, ?_, fun i behind j before => ?_⟩
    · refine pairwise_range' fun i j low less high => ?_
      grind [stepsTo]
    · refine pairwise_range' fun i j low less high => ?_
      grind [stepsTo]
    · rw [List.mem_range'_1] at behind before
      grind [stepsTo]

theorem stepsTo_lt {max last i j : Nat} (positive : 1 ≤ i) (within : i ≤ max) (upto : j ≤ max)
    (sooner : stepsTo max last i < stepsTo max last j) :
    stepsTo max i j < stepsTo max last j := by
  unfold stepsTo at *
  grind

/-- The first number in turn that is free is nearer to every other that is free. -/
theorem stepsTo_of_find? {max last c d : ChannelId} {free : ChannelId → Bool}
    (found : (rotation max last).find? free = some c) (other : d ≠ c) (unused : free d)
    (within : 1 ≤ d ∧ d ≤ max) :
    stepsTo max.toNat last.toNat c.toNat < stepsTo max.toNat last.toNat d.toNat ∧
      stepsTo max.toNat c.toNat d.toNat < stepsTo max.toNat last.toNat d.toNat := by
  have rising := pairwise_inTurn max.toNat last.toNat
  have mem : c ∈ rotation max last := List.mem_of_find?_eq_some found
  obtain ⟨-, before, after, split, taken⟩ := List.find?_eq_some_iff_append.mp found
  have later : d ∈ after := by
    have there : d ∈ rotation max last := mem_rotation.mpr within
    rw [split, List.mem_append, List.mem_cons] at there
    exact (there.resolve_left fun early => by simpa [unused] using taken d early).resolve_left other
  rw [← toNat_rotation, split, List.map_append, List.map_cons] at rising
  have sooner := List.rel_of_pairwise_cons (List.pairwise_append.mp rising).2.1
    (List.mem_map_of_mem later)
  obtain ⟨positive, bounded⟩ := mem_inTurn.mp (toNat_rotation max last ▸ List.mem_map_of_mem mem)
  exact ⟨sooner, stepsTo_lt positive bounded (UInt16.le_iff_toNat_le.mp within.2) sooner⟩

end Distance

/-- Each number that was reserved was the first in turn, behind the one reserved before, that was
not open. -/
def ReservedInTurn (max : ChannelId) (history : List Event) : Prop :=
  ∀ past c future, history = past ++ .reserved c :: future →
    (rotation max (lastReserved past)).find? (!openAfter · past) = some c

section History

variable {max c d : ChannelId} {history events before between after : List Event}

/-- As long as a number is not open, the search has not passed it. -/
theorem ReservedInTurn.stepsTo_le (h : ReservedInTurn max history)
    (split : history = before ++ .reserved c :: between ++ after) (within : 1 ≤ d ∧ d ≤ max)
    (unopened : ∀ early, early <+: between → openAfter d (before ++ .reserved c :: early) = false) :
    stepsTo max.toNat (lastReserved (before ++ .reserved c :: between)).toNat d.toNat ≤
      stepsTo max.toNat c.toNat d.toNat := by
  -- the number reserved last only comes nearer
  induction between using List.reverseRecOn generalizing after with
  | nil => simp
  | append_singleton between e ih =>
    have shorter : history = before ++ .reserved c :: between ++ e :: after := by simpa using split
    have so_far := ih shorter fun early sooner =>
      unopened early (sooner.trans (List.prefix_append ..))
    rw [← List.cons_append, ← List.append_assoc]
    cases reserved : e.reserved? with
    | none =>
      rw [lastReserved_of_unreserved]
      · exact so_far
      · rintro r mem
        obtain rfl := List.mem_singleton.mp mem
        cases reserved
    | some r =>
      obtain rfl := reserved?_eq_some.mp reserved
      have found := h (before ++ .reserved c :: between) r after (by simpa using split)
      have other : d ≠ r := by
        rintro rfl
        have closed := unopened (between ++ [.reserved d]) (List.prefix_refl _)
        rw [← List.cons_append, ← List.append_assoc, openAfter_concat] at closed
        cases closed
      have unused := unopened between (List.prefix_append ..)
      have nearer := (stepsTo_of_find? found other (by simpa using unused) within).2
      rw [lastReserved_concat]
      omega

theorem ReservedInTurn.exists_open (h : ReservedInTurn max history)
    (split : history = before ++ .reserved c :: between ++ .reserved c :: after) (other : d ≠ c)
    (within : 1 ≤ d ∧ d ≤ max) :
    ∃ early, early <+: between ∧ openAfter d (before ++ .reserved c :: early) := by
  by_contra never
  have unopened : ∀ early, early <+: between →
      openAfter d (before ++ .reserved c :: early) = false := by simpa using never
  have behind := h.stepsTo_le split within unopened
  have found := h (before ++ .reserved c :: between) c after split
  have unused := unopened between (List.prefix_refl _)
  have nearer := (stepsTo_of_find? found other (by simpa using unused) within).2
  omega

theorem ReservedInTurn.append (h : ReservedInTurn max history)
    (unreserved : ∀ r, .reserved r ∉ events) : ReservedInTurn max (history ++ events) := by
  intro past r future split
  rcases eq_append_cons_or split with ⟨rest, before⟩ | ⟨rest, -, now⟩
  · exact h past r rest before
  · exact absurd (by simp [now]) (unreserved r)

theorem ReservedInTurn.concat (h : ReservedInTurn max history)
    (found : (rotation max (lastReserved history)).find? (!openAfter · history) = some c) :
    ReservedInTurn max (history ++ [.reserved c]) := by
  intro past r future split
  rcases eq_append_cons_or split with ⟨rest, before⟩ | ⟨rest, rfl, now⟩
  · exact h past r rest before
  · obtain ⟨rfl, rfl⟩ : rest = [] ∧ c = r := by cases rest <;> simp_all
    simpa using found

end History

section Course

variable {σ : Type} {k : Task} {past trace events : List Event} {s t : Session} {max c : ChannelId}
  {op : Operation} {o : Outcome σ Reply} {history : List Event}

theorem Move.lastId (h : Move k past s events t) : t.lastId = s.lastId := by
  cases h with
  | park wait f t foreign routed => rw [eq_of_route routed]
  | _ => rfl

theorem Moves.lastId (h : Moves k past s trace t) : t.lastId = s.lastId :=
  h.keeps (P := fun _ t => t.lastId = s.lastId) rfl fun held move => move.lastId.trans held

theorem Course.reserves (h : Course max s op o) :
    (∀ c, .reserved c ∉ o.trace) ∧ o.session.lastId = s.lastId ∨
      ∃ c rest, o.trace = .reserved c :: rest ∧ (∀ d, .reserved d ∉ rest) ∧
        s.reservable max = some c ∧ o.session.lastId = c := by
  cases h with
  | reserved c o usable unused free work =>
    exact .inr ⟨c, o.trace, rfl, fun _ => work.moves.unreserved, free, work.moves.lastId⟩
  | worked op k o task work => exact .inl ⟨fun _ => work.moves.unreserved, work.moves.lastId⟩
  | closed o usable work => exact .inl ⟨fun _ => work.unreserved, work.lastId⟩
  | _ => exact .inl ⟨by simp, rfl⟩

theorem find?_of_reservable (positive : max ≠ 0) (free : s.reservable max = some c) :
    (rotation max s.lastId).find? (!s.isOpen ·) = some c := by
  rw [← reservable_of_lt (reservable_eq_some positive free).1, free]

structure Rotating (max : ChannelId) (history : List Event) (s : Session) : Prop where
  inTurn : ReservedInTurn max history
  last : s.lastId = lastReserved history
  tally : ∀ c, c ≠ .connection → Tally c history s

namespace Rotating

theorem start (settings : Settings) : Rotating max [] (.start settings) where
  inTurn := by simp [ReservedInTurn]
  last := rfl
  tally _ nonzero := .start settings nonzero

theorem isOpen (h : Rotating max history s) (nonzero : c ≠ .connection) :
    s.isOpen c = openAfter c history := (h.tally c nonzero).isOpen

theorem find? (h : Rotating max history s) (positive : max ≠ 0) (free : s.reservable max = some c) :
    (rotation max (lastReserved history)).find? (!openAfter · history) = some c := by
  rw [← h.last, ← find?_of_reservable positive free]
  refine List.find?_congr fun d mem => ?_
  rw [h.isOpen]
  rintro rfl
  exact absurd (mem_rotation.mp mem).1 (by decide)

theorem course (h : Rotating max history s) (positive : max ≠ 0) (course : Course max s op o) :
    Rotating max (history ++ o.trace) o.session := by
  have tally : ∀ c, c ≠ .connection → Tally c (history ++ o.trace) o.session := fun c nonzero =>
    (h.tally c nonzero).course nonzero positive course
  rcases course.reserves with ⟨unreserved, last⟩ | ⟨c, rest, trace, unreserved, free, last⟩
  · refine ⟨h.inTurn.append unreserved, ?_, tally⟩
    rw [last, lastReserved_of_unreserved unreserved, h.last]
  · rw [trace, List.append_cons] at tally ⊢
    refine ⟨(h.inTurn.concat (h.find? positive free)).append unreserved, ?_, tally⟩
    rw [last, lastReserved_of_unreserved unreserved, lastReserved_concat]

end Rotating

end Course
end Session

namespace Run

variable {σ : Type} [Link σ]
open Session

theorem rotating_performAll (settings : Settings) (calls : List (Operation × σ))
    {advertised : ChannelId} (constant : ∀ call ∈ calls, Link.channelMax call.2 = advertised) :
    Rotating (ChannelId.bound advertised) ((start settings).performAll calls).history
      ((start settings).performAll calls).session := by
  have initial : Rotating (ChannelId.bound advertised) (start settings).history
      (start settings).session := .start settings
  refine performAll_induction
    (P := fun r => Rotating (ChannelId.bound advertised) r.history r.session) initial
    fun r op link mem rotating => ?_
  have course := course_perform op r.session link
  rw [constant _ mem] at course
  rw [history_perform]
  exact rotating.course (ChannelId.bound_ne_zero advertised) course

/-- With the bound the same all the time, a number is reserved again only after every other one up
to the bound has been open at some moment since. For each reservation takes the first number in
turn that is not open then, behind the one reserved last, and it makes no difference whether that
one could be opened. -/
theorem recurs_performAll (settings : Settings) (calls : List (Operation × σ))
    {advertised : ChannelId} (constant : ∀ call ∈ calls, Link.channelMax call.2 = advertised) :
    let r := (start settings).performAll calls
    let max := ChannelId.bound advertised
    (∀ before c between after,
      r.history = before ++ .reserved c :: between ++ .reserved c :: after →
      ∀ d, d ≠ c → 1 ≤ d ∧ d ≤ max →
        ∃ early, early <+: between ∧ openAfter d (before ++ .reserved c :: early)) ∧
    (∀ past c future, r.history = past ++ .reserved c :: future →
      (rotation max (lastReserved past)).find? (!openAfter · past) = some c) ∧
    r.session.lastId = lastReserved r.history ∧
    ∀ c, c ≠ .connection → r.session.isOpen c = openAfter c r.history := by
  intro r max
  have rotating := rotating_performAll settings calls constant
  refine ⟨fun before c between after split d other within => ?_, rotating.inTurn, rotating.last,
    fun c nonzero => rotating.isOpen nonzero⟩
  exact rotating.inTurn.exists_open split other within

/-- Of the three numbers there are, the first is closed again at once, the second cannot be opened
and the third is handed out before the first comes round again. -/
def wrapping : List (Operation × Loopback) :=
  let broker := { Loopback.start 3 with replies := Loopback.agreeable }
  [(.acquire, broker), (.closeChannel 1, broker), (.acquire, Loopback.start 3), (.acquire, broker),
   (.acquire, broker)]

theorem recurs_wrapping :
    let history := ((start .standard).performAll wrapping).history
    (∀ call ∈ wrapping, Link.channelMax call.2 = 3) ∧
    ∃ between after, history = [] ++ .reserved 1 :: between ++ .reserved 1 :: after ∧
      (∃ early, early <+: between ∧ openAfter 2 ([] ++ .reserved 1 :: early)) ∧
      openAfter 2 ([] ++ .reserved 1 :: between) = false ∧
      ((start .standard).performAll (wrapping.take 3)).session.lastId = 2 := by
  intro history
  have constant : ∀ call ∈ wrapping, Link.channelMax call.2 = 3 := by decide
  have split : history = [] ++ .reserved 1 :: (history.drop 1).take 21 ++
      .reserved 1 :: history.drop 23 := by decide +kernel
  have recurs := (recurs_performAll .standard wrapping constant).1 _ _ _ _ split
  exact ⟨constant, _, _, split, recurs 2 (by decide) (by decide), by decide +kernel,
    by decide +kernel⟩

end Run
end Multiplex
