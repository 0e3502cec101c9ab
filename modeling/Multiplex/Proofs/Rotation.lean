import Multiplex.Proofs.Bookkeeping

/-! Which number is reserved. The numbers up to the bound are tried in turn, each of them once, and
the first that is not open is taken. Among as many as the bound allows one is free if fewer are open,
whatever the bound was when these were opened. -/

namespace Multiplex
namespace Session

/-- The numbers up to `max` in turn, those behind `last` first. -/
def inTurn (max last : Nat) : List Nat :=
  if max ≤ last then List.range' 1 max
  else List.range' (last + 1) (max - last) ++ List.range' 1 last

def rotation (max last : ChannelId) : List ChannelId :=
  (inTurn max.toNat last.toNat).map UInt16.ofNat

/-- The open channels, the connection's own left out. -/
def opened (s : Session) : List ChannelId := s.queues.keys.filter (· ≠ .connection)

def tried (max : ChannelId) : Nat → ChannelId → List ChannelId
  | 0, _ => []
  | tries + 1, c => following max c :: tried max tries (following max c)

variable {s : Session} {max last c : ChannelId} {m n : Nat}

theorem firstFree_eq_find? (s : Session) (max : ChannelId) (tries : Nat) (c : ChannelId) :
    s.firstFree max tries c = (tried max tries c).find? (!s.isOpen ·) := by
  induction tries generalizing c with
  | zero => rfl
  | succ tries ih =>
    rw [firstFree, tried, List.find?_cons, ih]
    cases s.isOpen (following max c) <;> rfl

section Counting

/-- Counting on never goes beyond the bound, so that it never overflows. -/
theorem toNat_following (max c : ChannelId) :
    (following max c).toNat = if max ≤ c then 1 else c.toNat + 1 := by
  unfold following
  split
  · rfl
  · have below : c.toNat < max.toNat := UInt16.lt_iff_toNat_lt.mp (UInt16.not_le.mp ‹_›)
    have highest := max.toNat_lt
    rw [UInt16.toNat_add, UInt16.toNat_one]
    exact Nat.mod_eq_of_lt (by omega)

theorem following_of_lt (below : c.toNat < max.toNat) :
    following max c = UInt16.ofNat (c.toNat + 1) ∧ (following max c).toNat = c.toNat + 1 := by
  have not_le : ¬ max ≤ c := UInt16.not_le.mpr (UInt16.lt_iff_toNat_lt.mpr below)
  have next := toNat_following max c
  rw [if_neg not_le] at next
  exact ⟨by rw [← next, UInt16.ofNat_toNat], next⟩

theorem tried_ascending (within : c.toNat + n ≤ max.toNat) :
    tried max n c = (List.range' (c.toNat + 1) n).map UInt16.ofNat := by
  induction n generalizing c with
  | zero => rfl
  | succ n ih =>
    have below : c.toNat < max.toNat := by omega
    obtain ⟨next, number⟩ := following_of_lt below
    rw [tried, ih (by omega), number, List.range'_succ, List.map_cons, ← next]

theorem tried_from_bound (reached : max ≤ c) (within : n ≤ max.toNat) :
    tried max n c = (List.range' 1 n).map UInt16.ofNat := by
  cases n with
  | zero => rfl
  | succ n =>
    have first : following max c = 1 := if_pos reached
    rw [tried, first, tried_ascending (by simpa [Nat.add_comm] using within), List.range'_succ]
    rfl

theorem tried_add (reaches : c.toNat + m = max.toNat) (n : Nat) :
    tried max (m + n) c = tried max m c ++ tried max n max := by
  induction m generalizing c with
  | zero =>
    obtain rfl : c = max := UInt16.toNat_inj.mp reaches
    rw [Nat.zero_add]
    rfl
  | succ m ih =>
    have below : c.toNat < max.toNat := by omega
    have number := (following_of_lt below).2
    rw [Nat.add_right_comm, tried, tried, ih (by omega), List.cons_append]

/-- The search tries the numbers in turn, and all of them. -/
theorem tried_eq_rotation (max last : ChannelId) : tried max max.toNat last = rotation max last := by
  unfold rotation inTurn
  by_cases reached : max ≤ last
  · rw [if_pos (UInt16.le_iff_toNat_le.mp reached), tried_from_bound reached (Nat.le_refl _)]
  · have below : last.toNat < max.toNat := UInt16.lt_iff_toNat_lt.mp (UInt16.not_le.mp reached)
    have turns : max.toNat = (max.toNat - last.toNat) + last.toNat := by omega
    have reaches : last.toNat + (max.toNat - last.toNat) = max.toNat := by omega
    rw [if_neg (Nat.not_le.mpr below)]
    conv => lhs; rw [turns]
    rw [tried_add reaches, tried_ascending (Nat.le_of_eq reaches),
      tried_from_bound (UInt16.le_refl max) (Nat.le_of_lt below), List.map_append]

example : tried 5 5 3 = [4, 5, 1, 2, 3] ∧ tried 5 5 9 = [1, 2, 3, 4, 5] := by decide

end Counting

section Rotation

theorem mem_inTurn {max last i : Nat} : i ∈ inTurn max last ↔ 1 ≤ i ∧ i ≤ max := by
  unfold inTurn
  split
  · rw [List.mem_range'_1]
    omega
  · rw [List.mem_append, List.mem_range'_1, List.mem_range'_1]
    omega

theorem nodup_inTurn (max last : Nat) : (inTurn max last).Nodup := by
  unfold inTurn
  split
  · exact List.nodup_range'
  · refine List.nodup_append.mpr ⟨List.nodup_range', List.nodup_range', fun i behind j before => ?_⟩
    rw [List.mem_range'_1] at behind before
    omega

theorem length_inTurn (max last : Nat) : (inTurn max last).length = max := by
  unfold inTurn
  split
  · exact List.length_range'
  · rw [List.length_append, List.length_range', List.length_range']
    omega

theorem toNat_rotation (max last : ChannelId) :
    (rotation max last).map UInt16.toNat = inTurn max.toNat last.toNat := by
  rw [rotation, List.map_map]
  refine (List.map_congr_left fun i mem => ?_).trans (List.map_id _)
  exact UInt16.toNat_ofNat_of_lt' (Nat.lt_of_le_of_lt (mem_inTurn.mp mem).2 max.toNat_lt_size)

theorem mem_rotation : c ∈ rotation max last ↔ 1 ≤ c ∧ c ≤ max := by
  have same : c ∈ rotation max last ↔ c.toNat ∈ (rotation max last).map UInt16.toNat := by
    refine ⟨List.mem_map_of_mem, fun mem => ?_⟩
    obtain ⟨d, there, number⟩ := List.mem_map.mp mem
    exact UInt16.toNat_inj.mp number ▸ there
  rw [same, toNat_rotation, mem_inTurn, UInt16.le_iff_toNat_le, UInt16.le_iff_toNat_le]
  rfl

theorem nodup_rotation (max last : ChannelId) : (rotation max last).Nodup := by
  have distinct := nodup_inTurn max.toNat last.toNat
  rw [← toNat_rotation] at distinct
  exact List.Pairwise.of_map _ (fun _ _ differ same => differ (congrArg _ same)) distinct

theorem length_rotation (max last : ChannelId) : (rotation max last).length = max.toNat := by
  rw [rotation, List.length_map, length_inTurn]

end Rotation

theorem mem_opened : c ∈ s.opened ↔ s.isOpen c ∧ c ≠ .connection := by
  rw [opened, List.mem_filter, Std.ExtTreeMap.mem_keys, decide_eq_true_eq]
  rfl

theorem length_opened (control : s.isOpen .connection) : s.opened.length = s.openCount := by
  have distinct : s.queues.keys.Nodup := Std.ExtTreeMap.nodup_keys
  have there : ChannelId.connection ∈ s.queues.keys := Std.ExtTreeMap.mem_keys.mpr control
  have others : s.opened = s.queues.keys.erase .connection := by
    rw [opened, distinct.erase_eq_filter]
    exact List.filter_congr fun c _ => by rw [Bool.eq_iff_iff, decide_eq_true_eq, bne_iff_ne]
  rw [others, List.length_erase_of_mem there, Std.ExtTreeMap.length_keys, openCount]

theorem exists_free (control : s.isOpen .connection) (room : s.openCount < max.toNat)
    (last : ChannelId) : ∃ c, (rotation max last).find? (!s.isOpen ·) = some c := by
  refine Option.ne_none_iff_exists'.mp fun none_free => ?_
  have all : rotation max last ⊆ s.opened := fun c mem => by
    have opened : s.isOpen c := by simpa using List.find?_eq_none.mp none_free c mem
    refine mem_opened.mpr ⟨opened, ?_⟩
    rintro rfl
    exact absurd (mem_rotation.mp mem).1 (by decide)
  have many := (nodup_rotation max last).length_le_of_subset all
  rw [length_rotation, length_opened control] at many
  omega

theorem reservable_of_lt (room : s.openCount < max.toNat) :
    s.reservable max = (rotation max s.lastId).find? (!s.isOpen ·) := by
  rw [reservable, if_neg (Nat.not_le.mpr room), firstFree_eq_find?, tried_eq_rotation]

end Session

namespace Run

variable {σ : Type} [Link σ]
open Session

/-- A number is reserved exactly if fewer are open than the bound allows, and it is the first in turn
that is not open; else nothing is changed. The search never gives up, and never counts too far. -/
theorem reserve_performAll (settings : Settings) (calls : List (Operation × σ)) (link : σ) :
    let s := ((start settings).performAll calls).session
    let max := ChannelId.bound (Link.channelMax link)
    (if s.opened.length < max.toNat then
      ∃ c, (rotation max s.lastId).find? (!s.isOpen ·) = some c ∧ 1 ≤ c ∧ c ≤ max ∧
        reserve.run s link =
          ⟨.ok c, [.reserved c], { s with queues := s.queues.insert c .empty, lastId := c }, link⟩
    else reserve.run s link = ⟨.error (.tooManyChannels max), [], s, link⟩) ∧
    (s.openCount < max.toNat → s.firstFree max max.toNat s.lastId ≠ none) ∧
    ∀ c, (following max c).toNat = if max ≤ c then 1 else c.toNat + 1 := by
  intro s max
  have control : s.isOpen .connection := (inOrder_performAll settings calls).control
  refine ⟨?_, fun room => ?_, toNat_following max⟩
  · rw [length_opened control]
    split
    · rename_i room
      obtain ⟨c, found⟩ := exists_free control room s.lastId
      have mem : c ∈ rotation max s.lastId := List.mem_of_find?_eq_some found
      have free : s.reservable max = some c := (reservable_of_lt room).trans found
      exact ⟨c, found, (mem_rotation.mp mem).1, (mem_rotation.mp mem).2, run_reserve_of_some free⟩
    · rename_i full
      exact run_reserve_of_none (if_pos (Nat.not_lt.mp full))
  · obtain ⟨c, found⟩ := exists_free control room s.lastId
    rw [firstFree_eq_find?, tried_eq_rotation, found]
    exact Option.some_ne_none c

end Run
end Multiplex
