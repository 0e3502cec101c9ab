/-! Queues: first in, first out. A queue is kept in two halves, so that pushing, popping and
counting take no longer the more it holds. What it holds, in order, is all there is to it: queues
of the same list are equal. -/

namespace Multiplex
namespace Queue

/-- A list cut in two: the front in order, the back latest first. -/
structure Halves (α : Type) where
  front : List α
  back : List α
  size : Nat
  size_eq : size = front.length + back.length

namespace Halves

variable {α : Type}

def toList (h : Halves α) : List α := h.front ++ h.back.reverse

theorem length_toList (h : Halves α) : h.toList.length = h.size := by
  simp [toList, h.size_eq]

def ofList (l : List α) : Halves α := ⟨l, [], l.length, rfl⟩

def push (h : Halves α) (a : α) : Halves α :=
  ⟨h.front, a :: h.back, h.size + 1, by simp [h.size_eq, Nat.add_assoc]⟩

theorem toList_push (h : Halves α) (a : α) : (h.push a).toList = h.toList ++ [a] := by
  simp [toList, push]

/-- The first element, and the rest. The back is turned over when the front has run out. -/
def pop? (h : Halves α) : Option (α × Halves α) :=
  match hf : h.front with
  | a :: front =>
    some (a, ⟨front, h.back, h.size - 1, by simp only [h.size_eq, hf, List.length_cons]; omega⟩)
  | [] =>
    match hb : h.back.reverse with
    | a :: front =>
      some (a, ⟨front, [], h.size - 1, by
        have := congrArg List.length hb
        simp only [List.length_reverse, List.length_cons] at this
        simp [h.size_eq, hf, this]⟩)
    | [] => none

theorem map_pop? (h : Halves α) :
    h.pop?.map (fun p => p.1 :: p.2.toList) = if h.toList = [] then none else some h.toList := by
  unfold pop? toList
  split
  · simp_all
  · split <;> simp_all

instance setoid (α : Type) : Setoid (Halves α) where
  r a b := a.toList = b.toList
  iseqv := ⟨fun _ => rfl, Eq.symm, Eq.trans⟩

end Halves
end Queue

def Queue (α : Type) : Type := Quotient (Queue.Halves.setoid α)

namespace Queue

variable {α : Type}

def toList : Queue α → List α := Quotient.lift Halves.toList fun _ _ h => h

@[ext] theorem ext {a b : Queue α} (h : a.toList = b.toList) : a = b := by
  induction a using Quotient.ind
  induction b using Quotient.ind
  exact Quotient.sound h

def length : Queue α → Nat :=
  Quotient.lift Halves.size fun a b h => by
    rw [← a.length_toList, ← b.length_toList]
    exact congrArg List.length h

@[simp] theorem length_toList (q : Queue α) : q.toList.length = q.length := by
  induction q using Quotient.ind
  exact Halves.length_toList _

def ofList (l : List α) : Queue α := Quotient.mk _ (.ofList l)

@[simp] theorem toList_ofList (l : List α) : (ofList l).toList = l := List.append_nil l

def empty : Queue α := ofList []

@[simp] theorem toList_empty : (empty : Queue α).toList = [] := rfl

def push (q : Queue α) (a : α) : Queue α :=
  q.lift (fun h => Quotient.mk _ (h.push a)) fun x y h => Quotient.sound <| by
    change (x.push a).toList = (y.push a).toList
    rw [Halves.toList_push, Halves.toList_push, show x.toList = y.toList from h]

@[simp] theorem toList_push (q : Queue α) (a : α) : (q.push a).toList = q.toList ++ [a] := by
  induction q using Quotient.ind
  exact Halves.toList_push _ a

def pop? (q : Queue α) : Option (α × Queue α) :=
  q.lift (fun h => h.pop?.map fun p => (p.1, Quotient.mk _ p.2)) fun x y h => by
    have heads := x.map_pop?
    rw [show x.toList = y.toList from h, ← y.map_pop?] at heads
    cases hx : x.pop? <;> cases hy : y.pop? <;> simp only [hx, hy, Option.map_none, Option.map_some,
      Option.some.injEq, List.cons.injEq, reduceCtorEq] at heads ⊢
    exact Prod.ext heads.1 (Quotient.sound heads.2)

theorem map_pop? (q : Queue α) :
    q.pop?.map (fun p => p.1 :: p.2.toList) = if q.toList = [] then none else some q.toList := by
  induction q using Quotient.ind with
  | _ h =>
    change Option.map _ (h.pop?.map _) = _
    rw [Option.map_map]
    exact h.map_pop?

theorem pop?_eq_none_iff {q : Queue α} : q.pop? = none ↔ q.toList = [] := by
  have := q.map_pop?
  cases h : q.pop? <;> split at this <;> simp_all

theorem pop?_eq_some_iff {q rest : Queue α} {a : α} :
    q.pop? = some (a, rest) ↔ q.toList = a :: rest.toList := by
  have := q.map_pop?
  cases h : q.pop? with
  | none => split at this <;> simp_all
  | some p =>
    split at this
    · simp_all
    · rw [h] at this
      simp only [Option.map_some, Option.some.injEq] at this
      rw [← this, List.cons.injEq, ← Queue.ext_iff, Option.some.injEq, Prod.ext_iff]

end Queue
end Multiplex
