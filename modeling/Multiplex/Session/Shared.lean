import Multiplex.Session.Run

/-! A session that several users share under one lock. An operation holds the lock from beginning
to end, so the history of the session is one of the orders of its users' operations. A user that
breaks down while holding the lock spoils it for all. -/

namespace Multiplex

structure Shared (σ : Type) where
  session : Session
  link : σ
  poisoned : Bool

namespace Shared

def ofSession (session : Session) (link : σ) : Shared σ := ⟨session, link, false⟩

def poison (m : Shared σ) : Shared σ := { m with poisoned := true }

def locked (m : Shared σ) (x : Action σ α) : Outcome σ α :=
  if m.poisoned then ⟨.error .lockPoisoned, [], m.session, m.link⟩ else x.run m.session m.link

def leave (m : Shared σ) (o : Outcome σ α) : Shared σ :=
  { m with session := o.session, link := o.link }

@[simp] theorem leave_locked_of_poisoned (m : Shared σ) (x : Action σ α) (h : m.poisoned = true) :
    m.leave (m.locked x) = m := by
  cases m
  simp_all [locked, leave]

end Shared

/-- What a user does when its turn comes: one operation, with the link as it is then, or a breakdown
while it holds the lock. -/
inductive Visit (σ : Type)
  | perform (op : Operation) (link : σ)
  | breakDown

/-- A shared session in use, with what each of its users has done so far. -/
structure Sharing (ι σ : Type) where
  turns : List (ι × Turn)
  shared : Shared σ

namespace Sharing

variable {ι σ : Type} [Link σ]

def visit (d : Sharing ι σ) (user : ι) : Visit σ → Sharing ι σ
  | .perform op link =>
    let m := { d.shared with link }
    let o := m.locked (Session.perform op)
    ⟨d.turns ++ [(user, ⟨op, o.result, o.trace⟩)], m.leave o⟩
  | .breakDown => { d with shared := d.shared.poison }

def visitAll (d : Sharing ι σ) (visits : List (ι × Visit σ)) : Sharing ι σ :=
  visits.foldl (fun d v => d.visit v.1 v.2) d

end Sharing
end Multiplex
