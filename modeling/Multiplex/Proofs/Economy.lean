import Multiplex.Proofs.Decision
import Multiplex.Proofs.Polling
import Multiplex.Proofs.Session.Fate

/-! How long an operation can go on. On a link in memory each pull takes an answer that was in
store, or one that a method sent on the way has brought, except for the one that finds nothing more;
nobody goes on pulling after that. Nor does an operation send for ever: it makes three requests at
most, and acknowledges one close. -/

namespace Multiplex

def Event.goesOut : Event → Bool
  | .sent _ _ failure => failure.isNone
  | .pulled .. | .delivered .. | .refused _ | .reserved _ | .forgotten _ | .abandoned _ | .shut =>
    false

def Event.onLink : Event → Bool
  | .sent .. | .pulled .. => true
  | .delivered .. | .refused _ | .reserved _ | .forgotten _ | .abandoned _ | .shut => false

theorem Event.of_onLink_eq_false {e : Event} (aside : e.onLink = false) :
    e.isPull = false ∧ e.goesOut = false ∧ e.sent? = none := by
  cases e with
  | sent | pulled => cases aside
  | _ => exact ⟨rfl, rfl, rfl⟩

namespace Session

open Multiplex.Action

variable {α β : Type} {c : ChannelId} {wait : Timeout} {s t : Session} {l l' : Loopback}
  {o : Outcome Loopback α} {f : Frame} {m : Method} {e : SessionError} {context : String}
  {events : List Event} {i j k n : Nat}

section Loopback

theorem length_incoming_of_sent (sent : Link.send l c m = (.ok (), l')) :
    l'.incoming.length ≤ l.incoming.length + 1 := by
  simp only [Link.send, Loopback.send] at sent
  split at sent
  · cases sent
  · split at sent <;> obtain ⟨-, rfl⟩ := Prod.mk.inj sent <;> simp [Loopback.push]

theorem eq_of_unsent {cause : LinkError} (unsent : Link.send l c m = (.error cause, l')) :
    l' = l := by
  simp only [Link.send, Loopback.send] at unsent
  split at unsent
  · exact (Prod.mk.inj unsent).2.symm
  · split at unsent <;> cases unsent

/-- A pull takes what comes first. Where nothing is left, it brings nothing, or fails if it was to
wait for ever. -/
theorem pull_cases {answer : Pulled} (pulled : Link.pull l wait = (answer, l')) :
    l'.incoming.length + 1 = l.incoming.length ∨
      l' = l ∧ (∀ f, answer ≠ .frame f) ∧ (wait = none → answer ≠ .nothing) := by
  cases coming : l.incoming with
  | cons first rest =>
    rw [pull_of_coming coming] at pulled
    obtain ⟨-, rfl⟩ := Prod.mk.inj pulled
    exact .inl rfl
  | nil =>
    simp only [Link.pull, Loopback.pull, coming] at pulled
    obtain ⟨rfl, rfl⟩ := Prod.mk.inj pulled
    right
    cases wait <;> simp

end Loopback

/-- All pulls but `spare` took something that was in store at first or that a method sent had
brought, and no more than `requests` methods were to go out. -/
structure Bounded (l : Loopback) (spare requests : Nat) (o : Outcome Loopback α) : Prop where
  paid : o.trace.countP (·.isPull) + o.link.incoming.length ≤
    l.incoming.length + o.trace.countP (·.goesOut) + spare
  few : (attempted o.trace).length ≤ requests

namespace Bounded

theorem mono (h : Bounded l j n o) {j' n' : Nat} (spare : j ≤ j') (requests : n ≤ n') :
    Bounded l j' n' o :=
  ⟨Nat.le_trans h.paid (Nat.add_le_add_left spare _), Nat.le_trans h.few requests⟩

theorem map (h : Bounded l j n o) (g : α → β) : Bounded l j n (o.map g) := ⟨h.paid, h.few⟩

theorem after {p : Outcome Loopback β} (first : Bounded l i n p) (second : Bounded p.link j k o) :
    Bounded l (i + j) (n + k) (o.after p.trace) where
  paid := by
    have := first.paid
    have := second.paid
    simp only [Outcome.trace_after, Outcome.link_after, List.countP_append]
    omega
  few := by
    rw [Outcome.trace_after, attempted_append, List.length_append]
    exact Nat.add_le_add first.few second.few

theorem of_aside {r : Except SessionError α} (aside : ∀ e ∈ events, e.onLink = false)
    (store : l'.incoming = l.incoming) : Bounded l j n ⟨r, events, s, l'⟩ where
  paid := by
    have unpulled : events.countP (·.isPull) = 0 :=
      List.countP_eq_zero.mpr fun e mem => by simp [Event.of_onLink_eq_false (aside e mem)]
    rw [unpulled, store]
    omega
  few := by
    have unsent : sent events = [] :=
      List.filterMap_eq_nil_iff.mpr fun e mem => (Event.of_onLink_eq_false (aside e mem)).2.2
    simp [attempted, unsent]

theorem quick {r : Except SessionError α} : Bounded l j n ⟨r, [], s, l⟩ :=
  of_aside (List.forall_mem_nil _) rfl

/-- What is done apart from the link adds nothing, neither before nor after. -/
theorem after_aside (aside : ∀ e ∈ events, e.onLink = false) (h : Bounded l j n o) :
    Bounded l j n (o.after events) := by
  have before : Bounded l 0 0 (⟨.ok (), events, o.session, l⟩ : Outcome _ Unit) :=
    of_aside aside rfl
  simpa using before.after h

theorem aside_after {r : Except SessionError β} (h : Bounded l j n o)
    (aside : ∀ e ∈ events, e.onLink = false) :
    Bounded l j n (Outcome.after o.trace ⟨r, events, t, o.link⟩) :=
  h.after (of_aside (j := 0) (n := 0) aside rfl)

theorem bind {x : Action Loopback α} {next : α → Action Loopback β}
    (first : Bounded l i n (x.run s l))
    (second : ∀ a, (x.run s l).result = .ok a →
      Bounded (x.run s l).link j k ((next a).run (x.run s l).session (x.run s l).link)) :
    Bounded l (i + j) (n + k) ((x >>= next).run s l) := by
  cases result : (x.run s l).result with
  | error e =>
    have failed : Bounded l (i + j) (n + k) (x.run s l) :=
      first.mono (Nat.le_add_right i j) (Nat.le_add_right n k)
    rw [run_bind_of_error result]
    exact ⟨failed.paid, failed.few⟩
  | ok a =>
    rw [run_bind_of_ok result]
    exact first.after (second a result)

end Bounded

theorem gate_cases {motive : Outcome Loopback β → Prop} {next : Unit → Action Loopback β}
    (barred : ∀ e, motive ⟨.error e, [], s, l⟩)
    (inside : s.connection = .open → motive ((next ()).run s l)) :
    motive ((requireOpen >>= next).run s l) := by
  by_cases usable : s.connection = .open
  · rw [run_requireOpen_bind usable]
    exact inside usable
  · obtain ⟨e, refused, -⟩ := run_requireOpen_bind_of_not usable next l
    rw [refused]
    exact barred e

section Peer

theorem bounded_send (c : ChannelId) (m : Method) (context : String) (s : Session) (l : Loopback) :
    Bounded l 0 1 ((send c m context).run s l) := by
  unfold send
  dsimp only
  split
  · rename_i l' sent
    refine ⟨?_, Nat.le_refl 1⟩
    simpa [Event.isPull, Event.goesOut] using length_incoming_of_sent sent
  · rename_i e l' unsent
    refine ⟨?_, Nat.le_refl 1⟩
    simp [Event.isPull, Event.goesOut, eq_of_unsent unsent]

theorem bounded_finishChannel : Bounded l 0 1 ((finishChannel c).run s l) := by
  unfold finishChannel
  rw [run_session_bind]
  split
  · exact .quick
  · split
    · rw [run_change_bind]
      exact (bounded_send ..).after_aside (by simp [Event.onLink])
    · exact .quick

theorem bounded_finishConnection : Bounded l 0 1 (finishConnection.run s l) := by
  unfold finishConnection
  rw [run_session_bind]
  split
  · exact .quick
  · rw [run_change_bind]
    exact (bounded_send ..).after_aside (by simp [Event.onLink])

theorem bounded_closedChannel :
    Bounded l 0 1 ((closedChannel c m context : Action Loopback α).run s l) := by
  refine bounded_finishChannel.bind (j := 0) (k := 0) fun _ _ => ?_
  cases CloseReason.decode m.args <;> exact .quick

theorem bounded_closedConnection :
    Bounded l 0 1 ((closedConnection m context : Action Loopback α).run s l) := by
  unfold closedConnection
  rw [run_change_bind, Outcome.after_nil]
  refine bounded_finishConnection.bind (j := 0) (k := 0) fun _ _ => ?_
  cases CloseReason.decode m.args <;> exact .quick

theorem bounded_checkFrame : Bounded l 0 1 ((checkFrame c f context).run s l) := by
  unfold checkFrame
  split
  · split
    · exact bounded_closedChannel
    · split
      · exact bounded_closedConnection
      · exact .quick
  · exact .quick

theorem bounded_deliver : Bounded l 0 1 ((deliver c f).run s l) := by
  unfold deliver
  rw [run_record_bind]
  have checked : Bounded l 0 1 ((checkFrame c f "next_frame" >>= fun f => pure (some f)).run s l) :=
    bounded_checkFrame.bind (j := 0) (k := 0) fun _ _ => .quick
  exact checked.after_aside (by simp [Event.onLink])

end Peer

/-- What an action on a channel comes to that makes so many requests. -/
inductive Spending (c : ChannelId) (wait : Timeout) (l : Loopback) (n : Nat)
    (o : Outcome Loopback α) : Prop
  | even (bounded : Bounded l 0 n o)
  | dry (bounded : Bounded l 1 n o)
    (told : wait = none → ∃ context cause, o.result = .error (.link context cause))
  | closed (bounded : Bounded l 0 (n + 1) o) (told : ∃ e, o.result = .error e)
    (gone : o.session.connection ≠ .open ∨ o.session.isOpen c = false)

namespace Spending

theorem bounded (h : Spending c wait l n o) : Bounded l 1 (n + 1) o := by
  cases h with
  | even bounded | dry bounded | closed bounded => exact bounded.mono (by decide) (by omega)

theorem of_ok {a : α} (h : Spending c none l n o) (done : o.result = .ok a) : Bounded l 0 n o := by
  cases h with
  | even bounded => exact bounded
  | dry bounded told =>
    obtain ⟨context, cause, failed⟩ := told rfl
    rw [failed] at done
    cases done
  | closed bounded told =>
    obtain ⟨e, failed⟩ := told
    rw [failed] at done
    cases done

theorem quick {r : Except SessionError α} : Spending c wait l n ⟨r, [], s, l⟩ := .even .quick

theorem after {p : Outcome Loopback β} (first : Bounded l 0 n p)
    (second : Spending c wait p.link k o) : Spending c wait l (n + k) (o.after p.trace) := by
  cases second with
  | even bounded => exact .even (first.after bounded)
  | dry bounded told => exact .dry (first.after bounded) told
  | closed bounded told gone => exact .closed (first.after bounded) told gone

theorem failed {r : Except SessionError β} (h : Spending c none l n o)
    (failed : o.result = .error e) (retold : ∃ e', r = .error e')
    (plain : ∀ context cause, e = .link context cause → r = .error e) :
    Spending c none l n ⟨r, o.trace, o.session, o.link⟩ := by
  cases h with
  | even bounded => exact .even ⟨bounded.paid, bounded.few⟩
  | dry bounded told =>
    obtain ⟨context, cause, same⟩ := told rfl
    obtain rfl : e = .link context cause := Except.error.inj (failed.symm.trans same)
    exact .dry ⟨bounded.paid, bounded.few⟩ fun _ => ⟨context, cause, plain _ _ rfl⟩
  | closed bounded told gone => exact .closed ⟨bounded.paid, bounded.few⟩ retold gone

theorem mono (h : Spending c wait l n o) (le : n ≤ k) : Spending c wait l k o := by
  cases h with
  | even bounded => exact .even (bounded.mono (Nat.le_refl 0) le)
  | dry bounded told => exact .dry (bounded.mono (Nat.le_refl 1) le) told
  | closed bounded told gone =>
    exact .closed (bounded.mono (Nat.le_refl 0) (Nat.succ_le_succ le)) told gone

theorem bind {x : Action Loopback α} {next : α → Action Loopback β}
    (first : Spending c none l n (x.run s l))
    (second : ∀ a, (x.run s l).result = .ok a → Spending c none (x.run s l).link k
      ((next a).run (x.run s l).session (x.run s l).link)) :
    Spending c none l (n + k) ((x >>= next).run s l) := by
  cases result : (x.run s l).result with
  | ok a =>
    rw [run_bind_of_ok result]
    exact after (first.of_ok result) (second a result)
  | error e =>
    rw [run_bind_of_error result]
    exact (first.failed result ⟨e, rfl⟩ fun _ _ _ => rfl).mono (Nat.le_add_right n k)

end Spending

section Receive

theorem spending_deliver (there : c ≠ .connection → s.isOpen c) :
    Spending c wait l 0 ((deliver c f).run s l) := by
  have bounded : Bounded l 0 1 ((deliver c f).run s l) := bounded_deliver
  cases closing : f.closing? c with
  | none =>
    have ran : (deliver c f).run s l = _ := run_deliver_of_none closing
    rw [ran]
    exact .even (.of_aside (by simp [Event.onLink]) rfl)
  | some p =>
    obtain ⟨x, close⟩ := p
    obtain ⟨failure, l', ran⟩ := deliver_settles there closing l
    rw [ran] at bounded ⊢
    refine .closed bounded ⟨_, rfl⟩ ?_
    rcases Frame.reach_of_closing? closing with rfl | ⟨rfl, -⟩
    · exact .inl (by simp [Scope.erase, shut])
    · exact .inr (by simp [Scope.erase])

theorem spending_closedConnection :
    Spending c wait l 0 ((closedConnection m context : Action Loopback α).run s l) := by
  have bounded : Bounded l 0 1 ((closedConnection m context : Action Loopback α).run s l) :=
    bounded_closedConnection
  obtain ⟨failure, l', ran⟩ := closedConnection_settles (α := α) m context s l
  rw [ran] at bounded ⊢
  exact .closed bounded ⟨_, rfl⟩ (.inl (by simp [shut]))

theorem bounded_pull {answer : Pulled} {r : Except SessionError α}
    (store : l'.incoming.length + 1 ≤ l.incoming.length + j) :
    Bounded l j n ⟨r, [.pulled c wait answer], s, l'⟩ := by
  refine ⟨?_, Nat.zero_le n⟩
  change 1 + l'.incoming.length ≤ l.incoming.length + 0 + j
  omega

theorem bounded_frame (c : ChannelId) (s : Session) (pulled : Link.pull l wait = (.frame f, l')) :
    Bounded l 0 0 (⟨.ok (), [.pulled c wait (.frame f)], s, l'⟩ : Outcome Loopback Unit) :=
  bounded_pull (Nat.le_of_eq ((pull_cases pulled).resolve_right fun dry => dry.2.1 f rfl))

theorem spending_pull {answer : Pulled} {r : Except SessionError α}
    (pulled : Link.pull l wait = (answer, l'))
    (told : wait = none → answer = .nothing ∨ ∃ context cause, r = .error (.link context cause)) :
    Spending c wait l 0 ⟨r, [.pulled c wait answer], s, l'⟩ := by
  rcases pull_cases pulled with less | ⟨rfl, -, limited⟩
  · exact .even (bounded_pull (Nat.le_of_eq less))
  · exact .dry (bounded_pull (Nat.le_refl _)) fun patient =>
      (told patient).resolve_left (limited patient)

theorem spending_pullFor (opened : s.isOpen c) :
    Spending c wait l 0 (pullFor c wait s l) := by
  induction s, l using pullFor_induction (σ := Loopback) c wait with
  | failed s l e l' pulled ran =>
    rw [ran]
    exact spending_pull pulled fun _ => .inr ⟨_, e, rfl⟩
  | nothing s l l' pulled ran =>
    rw [ran]
    exact spending_pull pulled fun _ => .inl rfl
  | own s l f l' pulled own ran =>
    rw [ran]
    exact .after (bounded_frame c s pulled) (spending_deliver fun _ => opened)
  | closes s l f l' m pulled foreign routed ran =>
    rw [ran]
    exact .after (bounded_frame c s pulled) spending_closedConnection
  | full s l f l' pulled foreign routed ran =>
    rw [ran]
    exact .even ((bounded_frame c s pulled).aside_after (by simp [Event.onLink]))
  | late s l f l' t pulled foreign routed expired ran =>
    rw [ran]
    exact .even ((bounded_frame c s pulled).aside_after (List.forall_mem_nil _))
  | passed s l f l' t pulled foreign routed patient ran ih =>
    rw [ran]
    refine .after (bounded_frame c s pulled) (ih ?_)
    rwa [isOpen_of_route routed]

theorem spending_nextFrame : Spending c wait l 0 ((nextFrame c wait).run s l) := by
  refine nextFrame_cases (fun _ => .quick) (fun f rest opened _ => ?_) fun opened _ =>
    spending_pullFor opened
  exact spending_deliver fun _ => by simp

theorem spending_next : Spending c wait l 0 ((next c wait).run s l) :=
  gate_cases (motive := Spending c wait l 0) (fun _ => .quick) fun _ => spending_nextFrame

theorem spending_collect {step : β → Frame → Step β α} {b : β} :
    Spending c none l 0 (collect c context step b s l) := by
  fun_induction collect c context step b s l with
  | case1 b s l e trace t l' read =>
    have heard : Spending c none l 0 ((nextFrame c none).run s l) := spending_nextFrame
    rw [read] at heard
    exact heard.failed rfl ⟨e, rfl⟩ fun _ _ _ => rfl
  | case2 b s l trace t l' read =>
    have heard : Spending c none l 0 ((nextFrame c none).run s l) := spending_nextFrame
    rw [read] at heard
    have bounded := heard.of_ok rfl
    exact .even ⟨bounded.paid, bounded.few⟩
  | case3 b s l f trace t l' read ih =>
    have heard : Spending c none l 0 ((nextFrame c none).run s l) := spending_nextFrame
    rw [read] at heard
    refine .after (k := 0) (heard.of_ok rfl) ?_
    cases step b f with
    | more b => exact ih b
    | done a => exact .quick
    | failed e => exact .quick

theorem spending_call {expected : List MethodId} :
    Spending c none l 1 ((call c m expected).run s l) := by
  unfold call
  refine gate_cases (motive := Spending c none l 1) (fun _ => .quick) fun _ => ?_
  rw [run_session_bind]
  split
  · refine .bind (k := 0) (.even (bounded_send ..)) fun _ _ => ?_
    generalize (send c m m.id.name).run s l = o
    have waited : Spending c none o.link 0 ((awaitReply c m.id.name expected).run o.session o.link) :=
      spending_collect
    rw [run_settle, run_orRejected]
    generalize (awaitReply c m.id.name expected).run o.session o.link = w at *
    cases result : w.result with
    | ok reply => exact .after (k := 0) (waited.of_ok result) .quick
    | error e =>
      have refused : Spending c none o.link 0
          (⟨.error (e.asRejection m.id.name), w.trace, w.session, w.link⟩ : Outcome _ Method) :=
        waited.failed result ⟨_, rfl⟩ (by rintro context cause rfl; rfl)
      have recast : (Except.error e : Except SessionError Method).mapError
          (·.asRejection m.id.name) = .error (e.asRejection m.id.name) := rfl
      simpa [Outcome.after, recast] using refused
  · exact .quick

theorem spending_readContent : Spending c none l 0 ((readContent c).run s l) :=
  gate_cases (motive := Spending c none l 0) (fun _ => .quick) fun _ => spending_collect

theorem spending_readReturned : Spending c none l 0 ((readReturned c m).run s l) := by
  unfold readReturned
  split
  · split
    · exact .bind (k := 0) spending_readContent fun _ _ => .quick
    · exact .quick
  · exact .quick

theorem spending_openReserved : Spending c none l 2 ((openReserved c).run s l) := by
  unfold openReserved
  refine .bind (n := 1) (k := 1) spending_call fun _ _ => ?_
  rw [run_session_bind]
  split
  · exact .bind (n := 1) (k := 0) spending_call fun _ _ => .quick
  · exact .quick

end Receive

section Close

theorem bounded_settle {x : Action Loopback α} {next : Except SessionError α → Action Loopback β}
    (waited : Spending c none l n (x.run s l))
    (aside : ∀ r t l', ∃ r' events u, (next r).run t l' = ⟨r', events, u, l'⟩ ∧
      ∀ e ∈ events, e.onLink = false) : Bounded l 1 (n + 1) ((x.settle next).run s l) := by
  rw [run_settle]
  obtain ⟨r', events, u, ran, quiet⟩ :=
    aside (x.run s l).result (x.run s l).session (x.run s l).link
  rw [ran]
  exact waited.bounded.aside_after quiet

theorem bounded_closeChannel : Bounded l 1 2 ((closeChannel c).run s l) := by
  unfold closeChannel
  refine gate_cases (motive := Bounded l 1 2) (fun _ => .quick) fun _ => ?_
  rw [run_session_bind]
  split
  · exact .quick
  split
  · refine .bind (i := 0) (j := 1) (n := 1) (k := 1) (bounded_send ..) fun _ _ => ?_
    refine bounded_settle (n := 0) spending_collect fun r t l' => ?_
    cases r with
    | ok _ => exact ⟨_, _, _, rfl, by simp [Event.onLink]⟩
    | error e =>
      cases e with
      | channelClosedByPeer closed reason context =>
        dsimp only
        split <;> exact ⟨_, [], _, rfl, List.forall_mem_nil _⟩
      | _ => exact ⟨_, [], _, rfl, List.forall_mem_nil _⟩
  · exact .quick

theorem spending_exchangeCloses : Spending .connection none l 1 (exchangeCloses.run s l) := by
  unfold exchangeCloses
  refine .bind (n := 1) (k := 0) (.even (bounded_send ..)) fun _ _ => ?_
  refine .bind (n := 0) (k := 0) spending_collect fun _ _ => ?_
  exact .even (.of_aside (by simp [Event.onLink]) rfl)

theorem bounded_closeConnection : Bounded l 1 2 (closeConnection.run s l) := by
  unfold closeConnection
  refine gate_cases (motive := Bounded l 1 2) (fun _ => .quick) fun _ => ?_
  rw [run_change_bind, Outcome.after_nil]
  refine bounded_settle (n := 1) spending_exchangeCloses fun r t l' => ?_
  unfold closeRegardless
  split
  · exact ⟨_, [], _, rfl, List.forall_mem_nil _⟩
  · exact ⟨_, [], _, rfl, List.forall_mem_nil _⟩
  · exact ⟨_, _, _, rfl, by simp [Event.onLink]⟩

end Close

section Acquire

theorem bounded_abandon : Bounded l 1 2 ((abandon c e).run s l) := by
  unfold abandon
  rw [run_session_bind]
  split
  · split
    · exact .of_aside (by simp [Event.onLink]) rfl
    · exact bounded_closeChannel.aside_after (List.forall_mem_nil _)
  · exact .quick

/-- A channel that is gone is not closed, nor is any when the link has failed. -/
theorem abandon_aside (gone : e.isFatal ∨ s.connection ≠ .open ∨ s.isOpen c = false)
    (l : Loopback) : ∃ events u, (abandon c e).run s l = ⟨.ok (), events, u, l⟩ ∧
      ∀ e ∈ events, e.onLink = false := by
  cases opened : s.isOpen c with
  | false => exact ⟨_, _, run_abandon_of_closed opened e l, List.forall_mem_nil _⟩
  | true =>
    have lost : e.isFatal ∨ s.connection ≠ .open := by simpa [opened] using gone
    refine ⟨[.abandoned c], s.dropQueue c, ?_, by simp [Event.onLink]⟩
    simp [abandon, opened, lost]

/-- If the opening found nothing more, or had a close acknowledged, undoing it costs nothing. -/
theorem bounded_undo (opening : Spending c none l 2 o) (failed : o.result = .error e) :
    Bounded l 1 4 (((abandon c e).run o.session o.link).after o.trace) := by
  have undone (gone : e.isFatal ∨ o.session.connection ≠ .open ∨ o.session.isOpen c = false) :
      Bounded l 1 4 (((abandon c e).run o.session o.link).after o.trace) := by
    obtain ⟨events, u, ran, quiet⟩ := abandon_aside gone o.link
    rw [ran]
    exact (opening.bounded.mono (Nat.le_refl 1) (by decide)).aside_after quiet
  cases opening with
  | even bounded => exact bounded.after bounded_abandon
  | dry bounded told =>
    obtain ⟨context, cause, same⟩ := told rfl
    obtain rfl : e = .link context cause := Except.error.inj (failed.symm.trans same)
    exact undone (.inl rfl)
  | closed bounded told gone => exact undone (.inr gone)

theorem bounded_openOrAbandon : Bounded l 1 4 ((openOrAbandon c).run s l) := by
  have opening : Spending c none l 2 ((openReserved c).run s l) := spending_openReserved
  rw [openOrAbandon, run_settle]
  generalize (openReserved c).run s l = o at *
  cases result : o.result with
  | ok _ =>
    have opened : Bounded l 1 4 o := opening.bounded.mono (Nat.le_refl 1) (by decide)
    exact opened.aside_after (List.forall_mem_nil _)
  | error e =>
    have undone : ((abandon c e).run o.session o.link).result = .ok () := result_abandon
    have undoing := bounded_undo opening result
    dsimp only
    rw [run_bind_of_ok undone]
    exact ⟨by simpa using undoing.paid, by simpa using undoing.few⟩

theorem bounded_acquire : Bounded l 1 4 ((perform .acquire).run s l) := by
  have acquisition := acquisition_perform s l
  generalize (perform .acquire).run s l = o at *
  cases acquisition with
  | refused e => exact .quick
  | reused c idle => exact .of_aside (List.forall_mem_nil _) rfl
  | reserved c => exact (bounded_openOrAbandon.map _).after_aside (by simp [Event.onLink])

end Acquire

theorem bounded_perform (op : Operation) (s : Session) (l : Loopback) :
    Bounded l 1 4 ((perform op).run s l) := by
  cases op with
  | acquire => exact bounded_acquire
  | release c =>
    rw [perform, run_map]
    simp only [release]
    split
    · exact .quick
    · split
      · exact .quick
      · split
        · exact .quick
        · exact .of_aside (List.forall_mem_nil _) rfl
  | register tag c =>
    rw [perform, run_map]
    unfold register
    dsimp only
    split <;> exact .of_aside (List.forall_mem_nil _) rfl
  | unregister tag =>
    rw [perform, run_map]
    unfold unregister
    dsimp only
    split <;> exact .of_aside (List.forall_mem_nil _) rfl
  | lookup tag =>
    rw [perform, run_session_bind, run_map]
    exact .of_aside (List.forall_mem_nil _) rfl
  | next c wait =>
    rw [perform, run_map]
    exact (spending_next.bounded.map _).mono (by decide) (by decide)
  | call c m expected =>
    rw [perform, run_map]
    exact (spending_call.bounded.map _).mono (by decide) (by decide)
  | readContent c =>
    rw [perform, run_map]
    exact (spending_readContent.bounded.map _).mono (by decide) (by decide)
  | readReturned c m =>
    rw [perform, run_map]
    exact (spending_readReturned.bounded.map _).mono (by decide) (by decide)
  | check c f context =>
    rw [perform, run_map]
    exact (bounded_checkFrame.map _).mono (by decide) (by decide)
  | closeChannel c =>
    rw [perform, run_map]
    exact (bounded_closeChannel.map _).mono (by decide) (by decide)
  | closeConnection =>
    rw [perform, run_map]
    exact (bounded_closeConnection.map _).mono (by decide) (by decide)
  | finishChannel c =>
    rw [perform, run_map]
    exact (bounded_finishChannel.map _).mono (by decide) (by decide)
  | finishConnection =>
    rw [perform, run_map]
    exact (bounded_finishConnection.map _).mono (by decide) (by decide)

section Delivery

variable {k : Task} {past : List Event}

theorem length_queue_of_route (routed : s.route f = .on t) (c : ChannelId) :
    (t.queue c).length ≤ (s.queue c).length + 1 := by
  rcases route_eq_on routed with ⟨rfl, -⟩ | ⟨-, -, -, rfl⟩
  · exact Nat.le_succ _
  · rw [queue_setQueue]
    split
    · rename_i here
      simp [← here, ← Queue.length_toList]
    · exact Nat.le_succ _

theorem Move.delivered_le (h : Move k past s events t) (c : ChannelId) :
    (delivered c events).length + (t.queue c).length ≤
      (s.queue c).length + events.countP (·.isPull) := by
  have dropped (t : Session) (le : t.queue c = .empty ∨ t.queue c = s.queue c) :
      (t.queue c).length ≤ (s.queue c).length := by
    rcases le with empty | same
    · rw [empty]
      exact Nat.zero_le _
    · exact Nat.le_of_eq (congrArg Queue.length same)
  cases h with
  | hand wait f own opened empty =>
    by_cases here : k.channel = c <;>
      simp [delivered, Event.deliveredOn, here, Event.isPull, Nat.add_comm]
  | park wait f t foreign routed =>
    have parked := length_queue_of_route routed c
    simpa [delivered, Event.deliveredOn, Event.isPull] using parked
  | unpark f rest opened queued =>
    by_cases here : k.channel = c
    · subst here
      have shorter : (s.queue k.channel).length = rest.length + 1 := by
        rw [← Queue.length_toList, queued, List.length_cons, Queue.length_toList]
      simp [delivered, Event.deliveredOn, shorter, Nat.add_comm]
    · simp [delivered, Event.deliveredOn, here]
  | acknowledge | conclude =>
    have := dropped (s.forget k.channel) (by rw [queue_forget]; split <;> simp)
    simpa [delivered, Event.deliveredOn, Event.isPull] using this
  | abandon =>
    have := dropped (s.dropQueue k.channel) (by rw [queue_dropQueue]; split <;> simp)
    simpa [delivered, Event.deliveredOn, Event.isPull] using this
  | shut | surrender =>
    have := dropped s.shut (by simp)
    simpa [delivered, Event.deliveredOn, Event.isPull] using this
  | _ => simp [delivered, Event.deliveredOn, Event.isPull]

theorem Moves.delivered_le (h : Moves k past s events t) (c : ChannelId) :
    (delivered c events).length + (t.queue c).length ≤
      (s.queue c).length + events.countP (·.isPull) := by
  refine h.keeps (P := fun events t => (delivered c events).length + (t.queue c).length ≤
    (s.queue c).length + events.countP (·.isPull)) (by simp) fun held move => ?_
  have := move.delivered_le c
  rw [delivered_append, List.length_append, List.countP_append]
  omega

/-- Every frame that is handed over was parked at first or pulled on the way. -/
theorem Course.delivered_le {max : ChannelId} {op : Operation} {o : Outcome Loopback Reply}
    (h : Course max s op o) (c : ChannelId) :
    (delivered c o.trace).length ≤ (s.queue c).length + o.trace.countP (·.isPull) := by
  cases h with
  | reserved d o usable idle free work =>
    have := work.moves.delivered_le c
    have held : ((s.hold d).queue c).length ≤ (s.queue c).length := by
      rw [queue_hold]
      split
      · exact Nat.zero_le _
      · exact Nat.le_refl _
    have silent : (delivered c [Event.reserved d]).length = 0 := rfl
    rw [Outcome.trace_after, delivered_append, List.length_append, List.countP_append]
    omega
  | worked op k o task work => exact Nat.le_of_add_right_le (work.moves.delivered_le c)
  | closed o usable work => exact Nat.le_of_add_right_le (work.delivered_le c)
  | _ => exact Nat.zero_le _

end Delivery

/-- Whatever is still to come on a link in memory and whatever it answers to what is sent, an
operation comes to an end: it tries to send four methods at most, and of its pulls one at most finds
nothing that was to come at first or was brought by a method sent. A reader's loop turns once for
each pull, and the loop of whoever waits for more than one frame once for each frame that is handed
over; these were parked for him or have been pulled. -/
theorem pulls_perform_le (op : Operation) (s : Session) (l : Loopback) :
    let o := (perform op).run s l
    o.trace.countP (·.isPull) ≤ l.incoming.length + o.trace.countP (·.goesOut) + 1 ∧
    (attempted o.trace).length ≤ 4 ∧
    ∀ c, (delivered c o.trace).length ≤ (s.queue c).length + o.trace.countP (·.isPull) := by
  intro o
  have bounded : Bounded l 1 4 o := bounded_perform op s l
  have course : Course _ s op o := course_perform op s l
  exact ⟨Nat.le_of_add_right_le bounded.paid, bounded.few, course.delivered_le⟩

end Session
end Multiplex
