import Multiplex.Session.Operation

/-! Runs: operations on one session, one after another. Whoever owns the link can reach it between
two operations, so each operation comes with the link that it finds. -/

namespace Multiplex

/-- One operation of a run, and what came of it. -/
structure Turn where
  operation : Operation
  result : Except SessionError Reply
  trace : List Event

structure Run where
  turns : List Turn
  session : Session

namespace Run

variable {σ : Type} [Link σ]

def start (settings : Settings) : Run := ⟨[], .start settings⟩

def perform (r : Run) (op : Operation) (link : σ) : Run :=
  let o := (Session.perform op).run r.session link
  ⟨r.turns ++ [⟨op, o.result, o.trace⟩], o.session⟩

def performAll (r : Run) (calls : List (Operation × σ)) : Run :=
  calls.foldl (fun r call => r.perform call.1 call.2) r

/-- All that happened, in order. -/
def history (r : Run) : List Event := r.turns.flatMap (·.trace)

/-- The same, with the operation during which it happened. -/
def log (r : Run) : List (Operation × Event) :=
  r.turns.flatMap fun t => t.trace.map (t.operation, ·)

@[simp] theorem history_perform (r : Run) (op : Operation) (link : σ) :
    (r.perform op link).history =
      r.history ++ ((Session.perform op).run r.session link).trace := by
  simp [history, perform]

@[simp] theorem log_perform (r : Run) (op : Operation) (link : σ) :
    (r.perform op link).log =
      r.log ++ ((Session.perform op).run r.session link).trace.map (op, ·) := by
  simp [log, perform]

theorem performAll_append (r : Run) (calls more : List (Operation × σ)) :
    r.performAll (calls ++ more) = (r.performAll calls).performAll more := by
  simp [performAll]

/-- What holds at first and is kept by every operation holds after every run. -/
theorem performAll_induction {P : Run → Prop} {r : Run} {calls : List (Operation × σ)} (start : P r)
    (perform : ∀ r op (link : σ), (op, link) ∈ calls → P r → P (r.perform op link)) :
    P (r.performAll calls) := by
  induction calls generalizing r with
  | nil => exact start
  | cons call calls ih =>
    have first := perform r call.1 call.2 (.head _) start
    exact ih first fun r op link later => perform r op link (.tail _ later)

end Run
end Multiplex
