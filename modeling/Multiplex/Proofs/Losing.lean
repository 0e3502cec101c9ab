import Multiplex.Proofs.Closing
import Multiplex.Proofs.Finality

/-! When a channel is lost, or the whole connection. A close that a reader meets takes with it what
it closes; otherwise only the operations that close or that acknowledge a close lose anything. -/

namespace Multiplex

/-- What is erased with an event. -/
def Event.loss? : Event → Option Scope
  | .forgotten c => some (.channel c)
  | .shut => some .connection
  | .sent .. | .pulled .. | .delivered .. | .refused _ | .reserved _ | .abandoned _ => none

/-- Something is erased. -/
def Lost (x : Scope) (trace : List Event) : Prop := ∃ e ∈ trace, e.loss? = some x

/-- A close of the peer's comes in. -/
def Met (x : Scope) (trace : List Event) : Prop := ∃ e ∈ trace, ∃ m, e.close? = some (x, m)

/-- Our close of a channel goes out, and the answer is handed over after that. -/
def Parted (c : ChannelId) (trace : List Event) : Prop :=
  ∃ before after f, trace = before ++ .sent c (.channelClose .normal) none :: after ∧
    .delivered c f ∈ after ∧ f.isMethod .channelCloseOk

/-- The occasions on which a channel or the connection is lost. -/
inductive Turn.Loses (u : Turn) : Scope → Prop
  | met (x : Scope) (came : Met x u.trace) : Loses u x
  | shown (c : ChannelId) (f : Frame) (context : String) (x : Scope) (m : Method)
    (op : u.operation = .check c f context) (closing : f.closing? c = some (x, m))
    (there : u.result ≠ .error (.channelNotFound c)) : Loses u x
  | finished (c : ChannelId) (op : u.operation = .finishChannel c)
    (nonzero : u.result ≠ .error (.invalidChannel c))
    (there : u.result ≠ .error (.channelNotFound c)) : Loses u (.channel c)
  | surrendered (op : u.operation = .finishConnection)
    (there : u.result ≠ .error .connectionClosed) : Loses u .connection
  | parted (c : ChannelId) (op : u.operation = .closeChannel c ∨ u.operation = .acquire)
    (answered : Parted c u.trace) : Loses u (.channel c)
  | left (op : u.operation = .closeConnection) (begun : u.trace ≠ []) : Loses u .connection

/-- Whoever meets a close loses what it closes; besides that, what an operation loses hangs on what
it is. -/
theorem Turn.loses_iff (u : Turn) (x : Scope) : u.Loses x ↔ Met x u.trace ∨
    match u.operation with
    | .check c f _ =>
      (∃ m, f.closing? c = some (x, m)) ∧ u.result ≠ .error (.channelNotFound c)
    | .finishChannel c => x = .channel c ∧ u.result ≠ .error (.invalidChannel c) ∧
      u.result ≠ .error (.channelNotFound c)
    | .finishConnection => x = .connection ∧ u.result ≠ .error .connectionClosed
    | .closeChannel c => x = .channel c ∧ Parted c u.trace
    | .acquire => ∃ d, x = .channel d ∧ Parted d u.trace
    | .closeConnection => x = .connection ∧ u.trace ≠ []
    | _ => False := by
  obtain ⟨operation, result, trace⟩ := u
  constructor
  · intro loses
    cases loses with
    | met _ came => exact .inl came
    | shown c f context x m op closing there =>
      cases op
      exact .inr ⟨⟨m, closing⟩, there⟩
    | finished c op nonzero there =>
      cases op
      exact .inr ⟨rfl, nonzero, there⟩
    | surrendered op there =>
      cases op
      exact .inr ⟨rfl, there⟩
    | parted c op answered =>
      rcases op with op | op <;> cases op
      · exact .inr ⟨rfl, answered⟩
      · exact .inr ⟨c, rfl, answered⟩
    | left op begun =>
      cases op
      exact .inr ⟨rfl, begun⟩
  · rintro (came | occasion)
    · exact .met x came
    · cases operation with
      | check c f context =>
        obtain ⟨⟨m, closing⟩, there⟩ := occasion
        exact .shown c f context x m rfl closing there
      | finishChannel c =>
        obtain ⟨rfl, nonzero, there⟩ := occasion
        exact .finished c rfl nonzero there
      | finishConnection =>
        obtain ⟨rfl, there⟩ := occasion
        exact .surrendered rfl there
      | closeChannel c =>
        obtain ⟨rfl, answered⟩ := occasion
        exact .parted c (.inl rfl) answered
      | acquire =>
        obtain ⟨d, rfl, answered⟩ := occasion
        exact .parted d (.inr rfl) answered
      | closeConnection =>
        obtain ⟨rfl, begun⟩ := occasion
        exact .left rfl begun
      | _ => cases occasion

section Trace

variable {x y : Scope} {c d : ChannelId} {trace events : List Event}

@[simp] theorem not_lost_nil (x : Scope) : ¬ Lost x [] := by simp [Lost]

@[simp] theorem not_met_nil (x : Scope) : ¬ Met x [] := by simp [Met]

@[simp] theorem not_parted_nil (c : ChannelId) : ¬ Parted c [] := by simp [Parted]

theorem lost_append : Lost x (trace ++ events) ↔ Lost x trace ∨ Lost x events := by
  simp [Lost, or_and_right, exists_or]

theorem met_append : Met x (trace ++ events) ↔ Met x trace ∨ Met x events := by
  simp [Met, or_and_right, exists_or]

theorem not_lost (kept : ∀ e ∈ trace, e.loss? = none) (x : Scope) : ¬ Lost x trace := by
  rintro ⟨e, mem, lost⟩
  rw [kept e mem] at lost
  cases lost

theorem lost_settled (x : Scope) (failure : Option LinkError) :
    Lost y (x.settled failure) ↔ y = x := by
  cases x <;> simp [Lost, Scope.settled, Event.loss?, eq_comm]

theorem not_met_settled (x : Scope) (failure : Option LinkError) :
    ¬ Met y (x.settled failure) := by
  rintro ⟨e, mem, m, met⟩
  rw [x.close?_settled failure e mem] at met
  cases met

theorem Parted.after (h : Parted c events) (trace : List Event) : Parted c (trace ++ events) := by
  obtain ⟨before, after, f, rfl, handed, answers⟩ := h
  exact ⟨trace ++ before, after, f, by simp, handed, answers⟩

theorem parted_append (unsent : .sent c (.channelClose .normal) none ∉ trace) :
    Parted c (trace ++ events) ↔ Parted c events := by
  refine ⟨?_, fun h => h.after trace⟩
  rintro ⟨before, after, f, split, handed, answers⟩
  rcases eq_append_cons_or split with ⟨rest, rfl⟩ | ⟨rest, rfl, rfl⟩
  · simp at unsent
  · exact ⟨rest, after, f, rfl, handed, answers⟩

end Trace

def Excused (trace : List Event) : Prop := ∀ x, Lost x trace → Met x trace

def Once (trace : List Event) : Prop := ∀ x y, Lost x trace → Lost y trace → x = y

theorem once_of_kept {trace : List Event} (kept : ∀ e ∈ trace, e.loss? = none) : Once trace :=
  fun x _ lost => absurd lost (not_lost kept x)

theorem once_of_only {trace : List Event} {x : Scope} (only : ∀ y, Lost y trace → y = x) :
    Once trace := fun y z first second => (only y first).trans (only z second).symm

namespace Excused

variable {x : Scope} {trace events : List Event}

theorem of_kept (kept : ∀ e ∈ trace, e.loss? = none) : Excused trace := fun x lost =>
  absurd lost (not_lost kept x)

theorem append (first : Excused trace) (second : Excused events) : Excused (trace ++ events) := by
  intro x lost
  rcases lost_append.mp lost with before | now
  · exact met_append.mpr (.inl (first x before))
  · exact met_append.mpr (.inr (second x now))

theorem settled (kept : ∀ e ∈ trace, e.loss? = none) (met : Met x trace)
    (failure : Option LinkError) : Excused (trace ++ x.settled failure) := by
  intro y lost
  rcases lost_append.mp lost with before | now
  · exact absurd before (not_lost kept y)
  · obtain rfl := (lost_settled x failure).mp now
    exact met_append.mpr (.inl met)

section Actions

open Multiplex.Action

variable {σ α β : Type} {x : Action σ α} {s : Session} {link : σ}

theorem settle {next : Except SessionError α → Action σ β} (first : Excused (x.run s link).trace)
    (second : ∀ r t link, Excused ((next r).run t link).trace) :
    Excused ((x.settle next).run s link).trace := by
  rw [run_settle, Outcome.trace_after]
  exact first.append (second _ _ _)

theorem bind {next : α → Action σ β} (first : Excused (x.run s link).trace)
    (second : ∀ a t link, Excused ((next a).run t link).trace) :
    Excused ((x >>= next).run s link).trace := by
  change Excused ((x.andThen next).run s link).trace
  unfold andThen
  refine settle first fun r t link => ?_
  cases r with
  | ok a => exact second a t link
  | error e => exact .of_kept (by simp)

theorem gated {next : Unit → Action σ β} (inside : ∀ t link, Excused ((next ()).run t link).trace) :
    Excused ((requireOpen >>= next).run s link).trace := by
  refine bind ?_ fun _ => inside
  unfold requireOpen
  dsimp only
  split <;> exact .of_kept (by simp)

end Actions

end Excused

namespace Session

open Multiplex.Action

variable {σ α β : Type} {s t : Session} {link : σ} {c d : ChannelId} {x : Scope} {f : Frame}
  {m : Method} {context : String} {frames : List Frame} {trace : List Event} {answer : MethodId}

section Waiting

theorem Heard.loss?_eq_none (h : Heard c s frames trace t) : ∀ e ∈ trace, e.loss? = none := by
  intro e he
  rcases h.incoming e he with ⟨wait, f, rfl⟩ | ⟨f, rfl⟩ <;> rfl

theorem Heard.met_of_closing (h : Heard c s (frames ++ [f]) trace t)
    (harmless : ∀ g ∈ frames, g.closing? c = none) (closing : f.closing? c = some (x, m)) :
    Met x trace := by
  have first : trace.findSome? (·.close?) = some (x, m) := by
    rw [h.met, List.findSome?_append, List.findSome?_eq_none_iff.mpr harmless]
    simp [closing]
  obtain ⟨e, mem, met⟩ := List.exists_of_findSome?_eq_some first
  exact ⟨e, mem, m, met⟩

theorem Obstruction.excused {wait : Timeout} {r : Except SessionError (Option Frame)}
    (h : Obstruction c wait t r trace s) : Excused trace := by
  cases h with
  | nothing | failed | full => exact .of_kept (by simp [Event.loss?])
  | alarm f m failure foreign control closing =>
    have met : (Event.pulled c wait (.frame f)).close? = some (.connection, m) := by
      simp [Event.close?, control, closing]
    have excused : Excused ([.pulled c wait (.frame f)] ++ Scope.connection.settled failure) :=
      .settled (by simp [Event.loss?]) ⟨_, .head _, m, met⟩ failure
    exact excused

theorem Catch.excused {wait : Timeout} {o : Outcome σ (Option Frame)} (h : Catch c wait s o) :
    Excused o.trace := by
  cases h with
  | frame f before t link heard => exact .of_kept heard.loss?_eq_none
  | closed f x m failure trace t link heard closing =>
    have heard' : Heard c s ([] ++ [f]) trace t := heard
    exact .settled heard.loss?_eq_none (heard'.met_of_closing (by simp) closing) failure
  | obstructed r trace last t u link heard empty because =>
    exact .append (.of_kept heard.loss?_eq_none) because.excused
  | late trace t link heard => exact .of_kept heard.loss?_eq_none

variable {step : β → Frame → Step β α} {b : β}

theorem Hearing.excused {o : Outcome σ α} (h : Hearing c context step b s o) :
    Excused o.trace := by
  cases h with
  | done f a b frames before t link heard | gaveUp f e b frames before t link heard =>
    exact .of_kept heard.loss?_eq_none
  | closed f x m failure b frames trace t link heard takes closing =>
    exact .settled heard.loss?_eq_none (heard.met_of_closing takes.harmless closing) failure
  | obstructed r b frames trace last t u link heard takes empty because =>
    exact .append (.of_kept heard.loss?_eq_none) because.excused

theorem Hearing.answered_iff {o : Outcome σ Unit} (h : Hearing c context (dropUntil answer) () s o)
    (plain : answer ≠ .channelClose ∧ answer ≠ .connectionClose) :
    o.result = .ok () ↔ ∃ f, .delivered c f ∈ o.trace ∧ f.isMethod answer := by
  have unheard {frames : List Frame} {trace : List Event} {t : Session}
      (heard : Heard c s frames trace t) (unanswered : ∀ g ∈ frames, g.isMethod answer = false) :
      ∀ g, .delivered c g ∈ trace → ¬ g.isMethod answer := by
    intro g mem
    have handed : (Event.delivered c g).deliveredOn c = some g := by simp [Event.deliveredOn]
    simp [unanswered g (heard.mem_of_deliveredOn mem handed)]
  cases h with
  | done f a b frames before t link heard takes harmless took =>
    exact iff_of_true rfl ⟨f, by simp, isMethod_of_dropUntil took⟩
  | gaveUp f e b frames before t link heard takes harmless took =>
    exact absurd took dropUntil_ne_failed
  | closed f x m failure b frames trace t link heard takes closing =>
    refine iff_of_false (by simp) ?_
    rintro ⟨g, mem, answers⟩
    have here : .delivered c g ∈ trace := by
      rcases List.mem_append.mp mem with before | now
      · exact before
      · cases x <;> simp [Scope.settled] at now
    refine unheard heard ?_ g here answers
    exact List.forall_mem_append.mpr ⟨takes.unanswered,
      by simpa using Frame.isMethod_eq_false_of_closing? closing plain⟩
  | obstructed r b frames trace last t u link heard takes empty because =>
    refine iff_of_false (by simp) ?_
    rintro ⟨g, mem, answers⟩
    have here : .delivered c g ∈ trace := by
      rcases List.mem_append.mp mem with before | now
      · exact before
      · cases because <;> simp [Scope.settled] at now
    exact unheard heard takes.unanswered g here answers

end Waiting

variable [Link σ]

section Readers

theorem excused_send : Excused ((send c m context).run s link).trace := by
  rcases run_send c m context s link with ⟨link', sent⟩ | ⟨e, link', sent⟩ <;> rw [sent] <;>
    exact .of_kept (by simp [Event.loss?])

theorem excused_nextFrame {wait : Timeout} :
    Excused ((nextFrame c wait).run s link).trace := by
  cases opened : s.isOpen c with
  | true => exact (catch_nextFrame opened).excused
  | false =>
    rw [run_nextFrame_of_closed opened]
    exact .of_kept (by simp)

theorem excused_collect {step : β → Frame → Step β α} {b : β} :
    Excused (collect c context step b s link).trace := by
  cases opened : s.isOpen c with
  | true => exact (hearing_collect opened).excused
  | false =>
    rw [collect_eq, run_nextFrame_of_closed opened]
    exact .of_kept (by simp)

theorem excused_call {expected : List MethodId} :
    Excused ((call c m expected).run s link).trace := by
  unfold call
  refine .gated fun t link => ?_
  rw [run_session_bind]
  split
  · refine .bind excused_send fun _ t link => ?_
    refine .settle excused_collect fun r t link => ?_
    rw [run_orRejected]
    exact .of_kept (by simp)
  · exact .of_kept (by simp)

theorem excused_readContent : Excused ((readContent c).run s link).trace :=
  .gated fun _ _ => excused_collect

theorem excused_readReturned : Excused ((readReturned c m).run s link).trace := by
  unfold readReturned
  split
  · split
    · exact .bind excused_readContent fun _ _ _ => .of_kept (by simp)
    · exact .of_kept (by simp)
  · exact .of_kept (by simp)

theorem excused_openReserved : Excused ((openReserved c).run s link).trace := by
  unfold openReserved
  refine .bind excused_call fun _ t link => ?_
  rw [run_session_bind]
  split
  · exact .bind excused_call fun _ _ _ => .of_kept (by simp)
  · exact .of_kept (by simp)

omit [Link σ] in
theorem Reading.lost_of_met {asks : ChannelId → Method → Prop}
    {reports : SessionError → Except SessionError α → Prop} {o : Outcome σ α}
    (h : Reading c asks reports s o) (met : Met x o.trace) : Lost x o.trace := by
  obtain ⟨e, mem, m, met⟩ := met
  obtain ⟨before, failure, t, led, stays, trace, -⟩ := h.of_met mem met
  rw [trace, lost_append]
  exact .inr ((lost_settled x failure).mpr rfl)

omit [Link σ] in
theorem Reading.met_unique {asks : ChannelId → Method → Prop}
    {reports : SessionError → Except SessionError α → Prop} {o : Outcome σ α} {y : Scope}
    (h : Reading c asks reports s o) (first : Met x o.trace) (second : Met y o.trace) : x = y := by
  obtain ⟨e, mem, m, met⟩ := first
  obtain ⟨e', mem', m', met'⟩ := second
  obtain ⟨before, failure, t, led, -, trace, -⟩ := h.of_met mem met
  rcases List.mem_append.mp (trace ▸ mem') with early | late
  · exact (Prod.mk.inj (led.only e' early _ met')).1.symm
  · rw [x.close?_settled failure e' late] at met'
    cases met'

omit [Link σ] in
theorem Reading.closed_of_met {asks : ChannelId → Method → Prop}
    {reports : SessionError → Except SessionError α → Prop} {o : Outcome σ α}
    (h : Reading c asks reports s o) (nonzero : c ≠ .connection) (met : Met x o.trace) :
    o.session.isOpen c = false := by
  cases h with
  | undisturbed calm =>
    obtain ⟨e, mem, m, met⟩ := met
    rw [(calm e mem).1] at met
    cases met
  | ended y close failure before t reach led stays trace session =>
    exact session ▸ Scope.isOpen_erase reach nonzero t

theorem lost_iff_of_listensOn? {op : Operation} (listens : op.listensOn? = some c) :
    Lost x ((perform op).run s link).trace ↔ Met x ((perform op).run s link).trace := by
  have excused : Excused ((perform op).run s link).trace := by
    cases op with
    | next d wait =>
      rw [perform, run_map, Outcome.trace_map]
      exact .gated fun _ _ => excused_nextFrame
    | call d m expected =>
      rw [perform, run_map, Outcome.trace_map]
      exact excused_call
    | readContent d =>
      rw [perform, run_map, Outcome.trace_map]
      exact excused_readContent
    | readReturned d m =>
      rw [perform, run_map, Outcome.trace_map]
      exact excused_readReturned
    | _ => cases listens
  exact ⟨excused x, (reading_perform listens).lost_of_met⟩

end Readers

section Closes

/-- Closing a channel is refused, or fails to begin, or comes to what the wait for the answer comes
to. -/
inductive Dismissal (c : ChannelId) (s : Session) (o : Outcome σ Unit) : Prop
  | refused (trace : o.trace = [])
  | unsent (cause : LinkError) (trace : o.trace = [.sent c (.channelClose .normal) (some cause)])
  | begun (wait : Outcome σ Unit) (tail : List Event)
    (hearing : Hearing c "channel.close" (dropUntil .channelCloseOk) () s wait)
    (reading : Reading c (fun _ _ => False) PassedOn s wait)
    (ends : wait.result = .ok () ∧ tail = [.forgotten c] ∨ wait.result ≠ .ok () ∧ tail = [])
    (trace : o.trace = .sent c (.channelClose .normal) none :: (wait.trace ++ tail))

theorem dismissal_closeChannel (c : ChannelId) (s : Session) (link : σ) :
    Dismissal c s ((closeChannel c).run s link) := by
  by_cases usable : s.connection = .open
  case neg =>
    obtain ⟨e, barred, -⟩ := run_requireOpen_bind_of_not usable _ link
    rw [closeChannel, barred]
    exact .refused rfl
  by_cases nonzero : c = .connection
  · rw [closeChannel, run_requireOpen_bind usable, run_session_bind, if_pos nonzero]
    exact .refused rfl
  cases opened : s.isOpen c with
  | false =>
    rw [closeChannel, run_requireOpen_bind usable, run_session_bind, if_neg nonzero,
      if_neg (by simp [opened])]
    exact .refused rfl
  | true =>
    cases goes_out : (Link.send link c (.channelClose .normal)).1 with
    | error cause =>
      rw [run_closeChannel_of_error usable nonzero opened goes_out]
      exact .unsent cause rfl
    | ok _ =>
      have ran := run_closeChannel_of_ok usable nonzero opened goes_out
      have hearing : Hearing c "channel.close" (dropUntil .channelCloseOk) () s
          ((awaitChannelCloseOk c).run s (Link.send link c (.channelClose .normal)).2) :=
        hearing_collect opened
      refine .begun _ _ hearing reading_collect ?_ (by rw [ran]; rfl)
      cases result :
          ((awaitChannelCloseOk c).run s (Link.send link c (.channelClose .normal)).2).result with
      | ok _ => exact .inl ⟨rfl, rfl⟩
      | error e => exact .inr ⟨by simp, rfl⟩

namespace Dismissal

omit [Link σ]

variable {o wait : Outcome σ Unit} {tail : List Event}

theorem parted_iff (hearing : Hearing c context (dropUntil .channelCloseOk) () s wait)
    (reading : Reading c (fun _ _ => False) PassedOn s wait)
    (ends : wait.result = .ok () ∧ tail = [.forgotten c] ∨ wait.result ≠ .ok () ∧ tail = []) :
    Parted d (.sent c (.channelClose .normal) none :: (wait.trace ++ tail)) ↔
      d = c ∧ wait.result = .ok () := by
  have in_wait {e : Event} (mem : e ∈ wait.trace ++ tail) (other : e ≠ .forgotten c) :
      e ∈ wait.trace := by
    rcases ends with ⟨-, rfl⟩ | ⟨-, rfl⟩ <;> simpa [other] using mem
  rw [hearing.answered_iff (by decide)]
  constructor
  · rintro ⟨before, after, f, split, handed, answers⟩
    cases before with
    | nil =>
      obtain ⟨same, rfl⟩ := List.cons.inj split
      obtain rfl : c = d := (Event.sent.inj same).1
      exact ⟨rfl, f, in_wait handed (by simp), answers⟩
    | cons e before =>
      obtain ⟨-, rest⟩ := List.cons.inj split
      have sent : .sent d (.channelClose .normal) none ∈ wait.trace :=
        in_wait (by simp [rest]) (by simp)
      exact absurd rfl (reading.unclosing (fun _ => False.elim) _ none sent)
  · rintro ⟨rfl, f, handed, answers⟩
    exact ⟨[], _, f, rfl, List.mem_append_left _ handed, answers⟩

theorem eq_of_parted (h : Dismissal c s o) (parted : Parted d o.trace) : d = c := by
  cases h with
  | refused trace => simp [trace] at parted
  | unsent cause trace =>
    obtain ⟨before, after, f, split, -⟩ := parted
    cases before <;> simp [trace] at split
  | begun wait tail hearing reading ends trace =>
    rw [trace, parted_iff hearing reading ends] at parted
    exact parted.1

theorem met_iff
    (ends : wait.result = .ok () ∧ tail = [.forgotten c] ∨ wait.result ≠ .ok () ∧ tail = []) :
    Met x (.sent c (.channelClose .normal) none :: (wait.trace ++ tail)) ↔ Met x wait.trace := by
  rcases ends with ⟨-, rfl⟩ | ⟨-, rfl⟩ <;> simp [Met, Event.close?]

theorem lost_iff (h : Dismissal c s o) :
    Lost x o.trace ↔ Met x o.trace ∨ ∃ d, x = .channel d ∧ Parted d o.trace := by
  cases h with
  | refused trace => simp [trace]
  | unsent cause trace =>
    have unparted (d : ChannelId) : ¬ Parted d [.sent c (.channelClose .normal) (some cause)] := by
      rintro ⟨before, after, f, split, -⟩
      cases before <;> simp at split
    simp [trace, unparted, Lost, Met, Event.loss?, Event.close?]
  | begun wait tail hearing reading ends trace =>
    have lost : Lost x o.trace ↔ Lost x wait.trace ∨ Lost x tail := by
      rw [trace, ← lost_append]
      simp [Lost, Event.loss?]
    have attended : Lost x wait.trace ↔ Met x wait.trace :=
      ⟨hearing.excused x, reading.lost_of_met⟩
    rw [lost, attended, trace, met_iff ends]
    simp only [parted_iff hearing reading ends]
    rcases ends with ⟨ok, rfl⟩ | ⟨failed, rfl⟩
    · simp [ok, Lost, Event.loss?, eq_comm]
    · simp [failed]

theorem once (h : Dismissal c s o) : Once o.trace := by
  intro x y first second
  rw [h.lost_iff] at first second
  cases h with
  | refused trace => simp [trace] at first
  | unsent cause trace =>
    rcases first with ⟨e, mem, m, met⟩ | ⟨d, -, before, after, f, split, -⟩
    · obtain rfl := List.mem_singleton.mp (trace ▸ mem)
      cases met
    · cases before <;> simp [trace] at split
  | begun wait tail hearing reading ends trace =>
    rw [trace, met_iff ends] at first second
    simp only [parted_iff hearing reading ends] at first second
    have ended {z : Scope} (met : Met z wait.trace) : wait.result ≠ .ok () := by
      obtain ⟨e, mem, m, met⟩ := met
      obtain ⟨before, failure, t, -, -, -, -, passed⟩ := reading.of_met mem met
      rw [passed]
      simp
    rcases first with first | ⟨d, rfl, rfl, well⟩ <;>
      rcases second with second | ⟨d', rfl, rfl, well'⟩
    · exact reading.met_unique first second
    · exact absurd well' (ended first)
    · exact absurd well (ended second)
    · rfl

end Dismissal

def Justified (trace : List Event) : Prop :=
  ∀ x, Lost x trace ↔ Met x trace ∨ ∃ d, x = .channel d ∧ Parted d trace

omit [Link σ] in
theorem justified_of_kept (kept : ∀ e ∈ trace, e.loss? = none)
    (calm : ∀ e ∈ trace, e.close? = none ∧ ∀ d m failure, e ≠ .sent d m failure) :
    Justified trace := by
  intro x
  refine iff_of_false (not_lost kept x) ?_
  rintro (⟨e, mem, m, met⟩ | ⟨d, -, before, after, f, rfl, -⟩)
  · rw [(calm e mem).1] at met
    cases met
  · exact (calm (.sent d (.channelClose .normal) none) (by simp)).2 _ _ _ rfl

theorem justified_abandon {cause : SessionError} :
    Justified ((abandon c cause).run s link).trace := by
  unfold abandon
  rw [run_session_bind]
  split
  · split
    · exact justified_of_kept (by simp [Event.loss?]) (by simp [Event.close?])
    · rw [run_settle, Outcome.trace_after, run_pure, List.append_nil]
      exact fun x => (dismissal_closeChannel c s link).lost_iff
  · exact justified_of_kept (by simp) (by simp)

theorem undone_openOrAbandon (c : ChannelId) (s : Session) (link : σ) :
    let opening := (openReserved c).run s link
    ∃ undoing, ((openOrAbandon c).run s link).trace = opening.trace ++ undoing ∧
      (undoing = [] ∨ opening.session.isOpen c ∧
        ∃ e, undoing = ((abandon c e).run opening.session opening.link).trace) := by
  dsimp only
  rw [openOrAbandon, run_settle, Outcome.trace_after]
  generalize (openReserved c).run s link = o
  cases o.result with
  | ok _ => exact ⟨[], rfl, .inl rfl⟩
  | error e =>
    have given_up : ((abandon c e).run o.session o.link).result = .ok () := result_abandon
    refine ⟨((abandon c e).run o.session o.link).trace, ?_, ?_⟩
    · dsimp only
      rw [run_bind_of_ok given_up, Outcome.trace_after, run_fail, List.append_nil]
    · cases opened : o.session.isOpen c with
      | true => exact .inr ⟨rfl, e, rfl⟩
      | false => exact .inl (congrArg Outcome.trace (run_abandon_of_closed opened e o.link))

theorem justified_openOrAbandon :
    Justified ([.reserved c] ++ ((openOrAbandon c).run s link).trace) := by
  have reading : Reading c toOpen Rated s ((openReserved c).run s link) := reading_openReserved
  have excused : Excused ((openReserved c).run s link).trace := excused_openReserved
  obtain ⟨undoing, trace, undone⟩ := undone_openOrAbandon c s link
  have justified : Justified undoing := by
    rcases undone with rfl | ⟨-, e, rfl⟩
    · exact justified_of_kept (by simp) (by simp)
    · exact justified_abandon
  intro x
  have attended : Lost x ((openReserved c).run s link).trace ↔
      Met x ((openReserved c).run s link).trace := ⟨excused x, reading.lost_of_met⟩
  have lost : ¬ Lost x [.reserved c] := not_lost (by simp [Event.loss?]) x
  have met : ¬ Met x [.reserved c] := by simp [Met, Event.close?]
  have parted (d : ChannelId) :
      Parted d ([.reserved c] ++ (((openReserved c).run s link).trace ++ undoing)) ↔
        Parted d undoing := by
    rw [parted_append (by simp), parted_append]
    intro sent
    exact reading.unclosing (fun _ => id_ne_of_toOpen) _ none sent rfl
  rw [trace]
  simp only [lost_append, met_append, parted, lost, met, attended, justified x, false_or, or_assoc]

theorem justified_acquire : Justified ((perform .acquire).run s link).trace := by
  have acquisition := acquisition_perform s link
  generalize (perform .acquire).run s link = o at *
  cases acquisition with
  | refused | reused => exact justified_of_kept (by simp) (by simp)
  | reserved c usable unused free => exact justified_openOrAbandon

theorem once_abandon {cause : SessionError} : Once ((abandon c cause).run s link).trace := by
  unfold abandon
  rw [run_session_bind]
  split
  · split
    · exact once_of_kept (by simp [Event.loss?])
    · rw [run_settle, Outcome.trace_after, run_pure, List.append_nil]
      exact (dismissal_closeChannel c s link).once
  · exact once_of_kept (by simp)

/-- When a close has been met there is nothing left to undo. -/
theorem once_openOrAbandon (nonzero : c ≠ .connection) :
    Once ([.reserved c] ++ ((openOrAbandon c).run s link).trace) := by
  have reading : Reading c toOpen Rated s ((openReserved c).run s link) := reading_openReserved
  have excused : Excused ((openReserved c).run s link).trace := excused_openReserved
  have reserved (x : Scope) : ¬ Lost x [.reserved c] := not_lost (by simp [Event.loss?]) x
  obtain ⟨undoing, trace, undone⟩ := undone_openOrAbandon c s link
  intro x y first second
  rw [trace, lost_append, or_iff_right (reserved _), lost_append] at first second
  rcases undone with rfl | ⟨opened, e, rfl⟩
  · rw [or_iff_left (not_lost_nil _)] at first second
    exact reading.met_unique (excused x first) (excused y second)
  · have unmet (z : Scope) : ¬ Lost z ((openReserved c).run s link).trace := by
      intro lost
      simp [reading.closed_of_met nonzero (excused z lost)] at opened
    exact once_abandon x y (first.resolve_left (unmet x)) (second.resolve_left (unmet y))

theorem once_acquire : Once ((perform .acquire).run s link).trace := by
  have acquisition := acquisition_perform s link
  generalize (perform .acquire).run s link = o at *
  cases acquisition with
  | refused | reused => exact once_of_kept (by simp)
  | reserved c usable unused free =>
    exact once_openOrAbandon (reservable_eq_some (ChannelId.bound_ne_zero _) free).2.2.1

end Closes

section Acknowledgements

theorem run_closedChannel_of_closed (nonzero : c ≠ .connection) (closed : s.isOpen c = false) :
    (closedChannel c m context : Action σ α).run s link =
      ⟨.error (.channelNotFound c), [], s, link⟩ := by
  have unknown : (finishChannel c).run s link = ⟨.error (.channelNotFound c), [], s, link⟩ := by
    simp [finishChannel, nonzero, closed]
  unfold closedChannel
  rw [run_bind_of_error (congrArg Outcome.result unknown), unknown]

theorem lost_check_iff (s : Session) (link : σ) :
    let o := (perform (.check c f context)).run s link
    (Lost x o.trace ↔ (∃ m, f.closing? c = some (x, m)) ∧
      o.result ≠ .error (.channelNotFound c)) ∧ ¬ Met x o.trace := by
  dsimp only
  rw [perform, run_map]
  cases closing : f.closing? c with
  | none =>
    rw [run_checkFrame_of_none closing]
    simp [Outcome.map]
  | some p =>
    obtain ⟨y, m⟩ := p
    have told (failure : Option LinkError) : y.error context m failure ≠ .channelNotFound c := by
      unfold Scope.error Scope.closedByPeer
      grind
    by_cases there : y = .connection ∨ s.isOpen c
    · have settles : ∃ failure link', (checkFrame c f context).run s link =
          ⟨.error (y.error context m failure), y.settled failure, y.erase s, link'⟩ := by
        rcases there with rfl | opened
        · rw [checkFrame_of_connection closing]
          exact closedConnection_settles m context s link
        · exact checkFrame_settles (fun _ => opened) closing context link
      obtain ⟨failure, link', settles⟩ := settles
      rw [settles]
      refine ⟨?_, not_met_settled y failure⟩
      simp [Outcome.map, Except.map, lost_settled, told, eq_comm]
    · obtain ⟨other, closed⟩ := not_or.mp there
      obtain ⟨rfl, nonzero⟩ := (Frame.reach_of_closing? closing).resolve_left other
      rw [(checkFrame_of_channel closing).2.2,
        run_closedChannel_of_closed nonzero (by simpa using closed)]
      simp [Outcome.map, Except.map]

theorem lost_finishChannel_iff (s : Session) (link : σ) :
    let o := (perform (.finishChannel c)).run s link
    (Lost x o.trace ↔ x = .channel c ∧ o.result ≠ .error (.invalidChannel c) ∧
      o.result ≠ .error (.channelNotFound c)) ∧ ¬ Met x o.trace := by
  dsimp only
  rw [perform, run_map]
  by_cases nonzero : c = .connection
  · simp [finishChannel, nonzero, Outcome.map, Except.map]
  cases opened : s.isOpen c with
  | false => simp [finishChannel, nonzero, opened, Outcome.map, Except.map]
  | true =>
    rw [run_finishChannel nonzero opened]
    rcases run_send c .channelCloseOk "channel.close-ok" (s.forget c) link with
      ⟨link', sent⟩ | ⟨failure, link', sent⟩ <;> rw [sent] <;>
      simp [Outcome.map, Outcome.after, Except.map, Lost, Met, Event.loss?, Event.close?, eq_comm]

theorem lost_finishConnection_iff (s : Session) (link : σ) :
    let o := (perform .finishConnection).run s link
    (Lost x o.trace ↔ x = .connection ∧ o.result ≠ .error .connectionClosed) ∧
      ¬ Met x o.trace := by
  dsimp only
  rw [perform, run_map]
  by_cases closed : s.connection = .closed
  · simp [finishConnection, closed, Outcome.map, Except.map]
  rw [run_finishConnection closed]
  rcases run_send .connection .connectionCloseOk "connection.close-ok" s.shut link with
    ⟨link', sent⟩ | ⟨failure, link', sent⟩ <;> rw [sent] <;>
    simp [Outcome.map, Outcome.after, Except.map, Lost, Met, Event.loss?, Event.close?, eq_comm]

end Acknowledgements

omit [Link σ] in
theorem Moves.only_connection {k : Task} {past : List Event} (h : Moves k past s trace t)
    (control : k.channel = .connection) :
    (Lost x trace → x = .connection) ∧ (Met x trace → x = .connection) := by
  have delivered (f : Frame) (m : Method)
      (met : (Event.delivered .connection f).close? = some (x, m)) : x = .connection :=
    (Frame.reach_of_closing? met).resolve_right fun other => other.2 rfl
  have pulled (wait : Timeout) (answer : Pulled) (m : Method)
      (met : (Event.pulled .connection wait answer).close? = some (x, m)) : x = .connection := by
    cases answer with
    | frame f =>
      rw [Event.close?] at met
      split at met
      · rename_i own
        rw [or_self_iff.mp own] at met
        exact delivered f m met
      · cases met
    | nothing | failed => cases met
  induction h with
  | none => simp
  | @snoc trace events t u before move ih =>
    have lost : ∀ e ∈ events, e.loss? = some x → x = .connection := by
      cases move with
      | acknowledge | conclude => contradiction
      | shut | surrender => simp [Event.loss?, eq_comm]
      | _ => simp [Event.loss?]
    have met : ∀ e ∈ events, ∀ m, e.close? = some (x, m) → x = .connection := by
      cases move with
      | idle | park | alarm => simpa [control] using pulled _ _
      | hand wait f => simpa [control] using ⟨pulled _ _, delivered f⟩
      | refuse wait f => simpa [control, Event.close?] using pulled wait (.frame f)
      | unpark f => simpa [control] using delivered f
      | _ => simp [Event.close?]
    rw [lost_append, met_append]
    refine ⟨fun either => either.elim ih.1 ?_, fun either => either.elim ih.2 ?_⟩
    · rintro ⟨e, mem, erased⟩
      exact lost e mem erased
    · rintro ⟨e, mem, m, closes⟩
      exact met e mem m closes

theorem lost_closeConnection_iff (s : Session) (link : σ) :
    let o := (perform .closeConnection).run s link
    (Lost x o.trace ↔ x = .connection ∧ o.trace ≠ []) ∧ (Met x o.trace → x = .connection) := by
  intro o
  have course : Course (ChannelId.bound (Link.channelMax link)) s .closeConnection o :=
    course_closeConnection
  generalize o = o at course
  cases course with
  | refused => simp
  | worked op k o task => cases task
  | closed o usable work shut =>
    obtain ⟨lost, met⟩ := work.only_connection (x := x) rfl
    have gone : .shut ∈ o.trace := by
      refine Decidable.byContradiction fun unshut => ?_
      have same := work.connection_of_unshut unshut
      rw [shut] at same
      cases same
    refine ⟨⟨fun now => ⟨lost now, List.ne_nil_of_mem gone⟩, ?_⟩, met⟩
    rintro ⟨rfl, -⟩
    exact ⟨.shut, gone, rfl⟩

/-- A channel or the connection is lost in an operation just on one of the occasions for that. -/
theorem lost_iff_loses (op : Operation) (s : Session) (link : σ) (x : Scope) :
    let o := (perform op).run s link
    Lost x o.trace ↔ Turn.Loses ⟨op, o.result, o.trace⟩ x := by
  have silent : op.task? = none → op ≠ .acquire → op ≠ .closeConnection →
      ((perform op).run s link).trace = [] := silent_bookkeeping
  intro o
  rw [Turn.loses_iff]
  cases op with
  | next | call | readContent | readReturned =>
    rw [or_false]
    exact lost_iff_of_listensOn? rfl
  | acquire => exact justified_acquire x
  | closeChannel c =>
    have dismissal : Dismissal c s ((closeChannel c).run s link) := dismissal_closeChannel c s link
    have same : o.trace = ((closeChannel c).run s link).trace := by
      rw [show o = _ from run_map _ _ s link, Outcome.trace_map]
    dsimp only
    rw [same, dismissal.lost_iff]
    refine or_congr_right ⟨?_, fun ⟨here, answered⟩ => ⟨c, here, answered⟩⟩
    rintro ⟨d, rfl, answered⟩
    obtain rfl := dismissal.eq_of_parted answered
    exact ⟨rfl, answered⟩
  | check c f context =>
    obtain ⟨lost, unmet⟩ : (Lost x o.trace ↔ _) ∧ ¬ Met x o.trace := lost_check_iff s link
    exact lost.trans (or_iff_right unmet).symm
  | finishChannel c =>
    obtain ⟨lost, unmet⟩ : (Lost x o.trace ↔ _) ∧ ¬ Met x o.trace := lost_finishChannel_iff s link
    exact lost.trans (or_iff_right unmet).symm
  | finishConnection =>
    obtain ⟨lost, unmet⟩ : (Lost x o.trace ↔ _) ∧ ¬ Met x o.trace :=
      lost_finishConnection_iff s link
    exact lost.trans (or_iff_right unmet).symm
  | closeConnection =>
    obtain ⟨lost, met⟩ : (Lost x o.trace ↔ _) ∧ (Met x o.trace → _) :=
      lost_closeConnection_iff s link
    refine lost.trans (or_iff_right_of_imp fun came => ⟨met came, ?_⟩).symm
    obtain ⟨e, mem, -⟩ := came
    exact List.ne_nil_of_mem mem
  | release | register | unregister | lookup =>
    have nothing : o.trace = [] := silent rfl (by simp) (by simp)
    simp [nothing]

theorem once_perform (op : Operation) (s : Session) (link : σ) :
    Once ((perform op).run s link).trace := by
  have silent : op.task? = none → op ≠ .acquire → op ≠ .closeConnection →
      ((perform op).run s link).trace = [] := silent_bookkeeping
  cases op with
  | next | call | readContent | readReturned =>
    intro x y first second
    rw [lost_iff_of_listensOn? rfl] at first second
    exact (reading_perform rfl).met_unique first second
  | acquire => exact once_acquire
  | closeChannel c =>
    rw [perform, run_map, Outcome.trace_map]
    exact (dismissal_closeChannel c s link).once
  | check c f context =>
    intro x y first second
    obtain ⟨m, closing⟩ := ((lost_check_iff s link).1.mp first).1
    obtain ⟨m', closing'⟩ := ((lost_check_iff s link).1.mp second).1
    exact (Prod.mk.inj (Option.some.inj (closing.symm.trans closing'))).1
  | finishChannel c =>
    exact once_of_only fun x lost => ((lost_finishChannel_iff s link).1.mp lost).1
  | finishConnection =>
    exact once_of_only fun x lost => ((lost_finishConnection_iff s link).1.mp lost).1
  | closeConnection =>
    exact once_of_only fun x lost => ((lost_closeConnection_iff s link).1.mp lost).1
  | release | register | unregister | lookup =>
    refine once_of_kept ?_
    rw [silent rfl (by simp) (by simp)]
    simp

end Session
end Multiplex
