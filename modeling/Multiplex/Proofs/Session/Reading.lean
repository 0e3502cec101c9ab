import Multiplex.Session.Operation

/-! What becomes of a reader when the peer closes. Whoever meets a close, of the channel that he
reads or of the connection, has it acknowledged on the spot and goes no further. -/

namespace Multiplex

/-- What the peer can close. -/
inductive Scope
  | channel (c : ChannelId)
  | connection

namespace Scope

def erase : Scope → Session → Session
  | channel c, s => s.forget c
  | connection, s => s.shut

/-- What happens upon a close: the bookkeeping goes, then the acknowledgement. -/
def settled (failure : Option LinkError) : Scope → List Event
  | channel c => [.forgotten c, .sent c .channelCloseOk failure]
  | connection => [.shut, .sent .connection .connectionCloseOk failure]

def acknowledging : Scope → String
  | channel _ => "channel.close-ok"
  | connection => "connection.close-ok"

def closedByPeer (context : String) (reason : CloseReason) : Scope → SessionError
  | channel c => .channelClosedByPeer c reason context
  | connection => .connectionClosedByPeer reason context

/-- What a close is reported as, the acknowledgement having failed or not. -/
def error (x : Scope) (context : String) (close : Method) : Option LinkError → SessionError
  | some cause => .link x.acknowledging cause
  | none =>
    match CloseReason.decode close.args with
    | .ok reason => x.closedByPeer context reason
    | .error cause => .malformedMethod close.id cause

end Scope

/-- What a frame closes when the reader of a channel gets it, and the method that does. -/
def Frame.closing? (reader : ChannelId) (f : Frame) : Option (Scope × Method) :=
  match f.method? with
  | some m =>
    if m.id = .channelClose ∧ reader ≠ .connection then some (.channel reader, m)
    else if m.id = .connectionClose then some (.connection, m)
    else none
  | none => none

theorem Frame.reach_of_closing? {c : ChannelId} {f : Frame} {x : Scope} {m : Method}
    (closing : f.closing? c = some (x, m)) :
    x = .connection ∨ x = .channel c ∧ c ≠ .connection := by
  unfold closing? at closing
  grind

theorem Scope.isOpen_erase {c : ChannelId} {x : Scope}
    (reach : x = .connection ∨ x = .channel c ∧ c ≠ .connection) (nonzero : c ≠ .connection)
    (s : Session) : (x.erase s).isOpen c = false := by
  rcases reach with rfl | ⟨rfl, -⟩ <;> simp [erase, nonzero]

theorem Frame.closing?_connection (f : Frame) : f.closing? .connection =
    (f.method?.filter (·.id = .connectionClose)).map (.connection, ·) := by
  unfold closing?
  cases f.method? with
  | none => rfl
  | some m => by_cases id : m.id = .connectionClose <;> simp [Option.filter, id]

/-- The close that comes in with an event: for the channel that is read, or on the connection's. -/
def Event.close? : Event → Option (Scope × Method)
  | .delivered c f => f.closing? c
  | .pulled reader _ (.frame f) =>
    if f.channel = reader ∨ f.channel = .connection then f.closing? f.channel else none
  | .pulled _ _ .nothing | .pulled _ _ (.failed _) => none
  | .sent .. | .refused _ | .reserved _ | .forgotten _ | .abandoned _ | .shut => none

theorem Scope.close?_settled (x : Scope) (failure : Option LinkError) :
    ∀ e ∈ x.settled failure, e.close? = none := by
  cases x <;> simp [settled, Event.close?]

/-- A frame reached the reader of a channel: one that was parked for him, or one that he pulled. -/
def Consumed (c : ChannelId) (f : Frame) (trace : List Event) : Prop :=
  .delivered c f ∈ trace ∨ f.channel = c ∧ ∃ wait, .pulled c wait (.frame f) ∈ trace

theorem exists_close?_of_consumed {c : ChannelId} {f : Frame} {m : Method} {trace : List Event}
    (consumed : Consumed c f trace) (method : f.method? = some m) (id : m.id = .channelClose)
    (nonzero : c ≠ .connection) : ∃ e ∈ trace, e.close? = some (.channel c, m) := by
  have closing : f.closing? c = some (.channel c, m) := by
    simp [Frame.closing?, method, id, nonzero]
  rcases consumed with delivered | ⟨own, wait, pulled⟩
  · exact ⟨_, delivered, closing⟩
  · exact ⟨_, pulled, by simpa [Event.close?, own] using closing⟩

/-- What an operation sends of its own accord. -/
def Operation.requests : Operation → ChannelId → Method → Prop
  | .call c m _, d, n => d = c ∧ n = m
  | .closeChannel c, d, n => d = c ∧ n = .channelClose .normal
  | .closeConnection, d, n => d = .connection ∧ n = .connectionClose .normal
  | .acquire, _, n => n = .channelOpen ∨ n = .confirmSelect false ∨ n = .channelClose .normal
  | .release _, _, _ | .next .., _, _ | .readContent _, _, _ | .readReturned .., _, _
  | .check .., _, _ | .register .., _, _ | .unregister _, _, _ | .lookup _, _, _
  | .finishChannel _, _, _ | .finishConnection, _, _ => False

/-- The channel whose frames an operation hands on. -/
def Operation.listensOn? : Operation → Option ChannelId
  | .next c _ | .call c _ _ | .readContent c | .readReturned c _ => some c
  | .acquire | .release _ | .check .. | .register .. | .unregister _ | .lookup _
  | .closeChannel _ | .closeConnection | .finishChannel _ | .finishConnection => none

/-- A request takes the close for its refusal. -/
def Operation.retell : Operation → SessionError → SessionError
  | .call _ m _, e => e.asRejection m.id.name
  | _, e => e

/-- No close comes in with an event, and nothing goes out but what is asked for. -/
def Event.Calm (asks : ChannelId → Method → Prop) (e : Event) : Prop :=
  e.close? = none ∧ ∀ c m failure, e = .sent c m failure → asks c m

namespace Session

open Multiplex.Action

variable {σ α β : Type} {s t : Session} {link : σ} {c : ChannelId} {f : Frame} {m : Method}
  {context : String} {x : Scope} {asks : ChannelId → Method → Prop}

section Peer

variable [Link σ]

theorem closedChannel_settles (nonzero : c ≠ .connection) (opened : s.isOpen c) :
    ∃ failure link', (closedChannel c m context : Action σ α).run s link =
      ⟨.error ((Scope.channel c).error context m failure), (Scope.channel c).settled failure,
        s.forget c, link'⟩ := by
  have finish : (finishChannel c).run s link = _ := run_finishChannel nonzero opened
  unfold closedChannel
  rcases run_send c .channelCloseOk "channel.close-ok" (s.forget c) link with
    ⟨link', sent⟩ | ⟨cause, link', sent⟩ <;> rw [sent] at finish
  · refine ⟨none, link', ?_⟩
    rw [run_bind_of_ok (congrArg Outcome.result finish), finish]
    unfold Scope.error
    cases CloseReason.decode m.args <;> rfl
  · refine ⟨some cause, link', ?_⟩
    rw [run_bind_of_error (congrArg Outcome.result finish), finish]
    rfl

theorem closedConnection_settles (m : Method) (context : String) (s : Session) (link : σ) :
    ∃ failure link', (closedConnection m context : Action σ α).run s link =
      ⟨.error (Scope.connection.error context m failure), Scope.connection.settled failure,
        s.shut, link'⟩ := by
  rw [run_closedConnection]
  rcases run_send .connection .connectionCloseOk "connection.close-ok" s.shut link with
    ⟨link', sent⟩ | ⟨cause, link', sent⟩
  · refine ⟨none, link', ?_⟩
    rw [run_bind_of_ok (congrArg Outcome.result sent), sent]
    unfold Scope.error
    cases CloseReason.decode m.args <;> rfl
  · refine ⟨some cause, link', ?_⟩
    rw [run_bind_of_error (congrArg Outcome.result sent), sent]
    rfl

theorem run_checkFrame_of_none (harmless : f.closing? c = none) :
    (checkFrame c f context).run s link = ⟨.ok f, [], s, link⟩ := by
  unfold Frame.closing? at harmless
  unfold checkFrame
  split
  · rename_i method
    rw [method] at harmless
    dsimp only at harmless
    split at harmless
    · cases harmless
    · split at harmless
      · cases harmless
      · rename_i other connection
        rw [if_neg other, if_neg connection]
        rfl
  · rfl

theorem checkFrame_of_channel {d : ChannelId} (closing : f.closing? c = some (.channel d, m)) :
    d = c ∧ c ≠ .connection ∧
      (checkFrame c f context : Action σ Frame) = closedChannel c m context := by
  unfold Frame.closing? at closing
  unfold checkFrame
  grind

theorem checkFrame_of_connection (closing : f.closing? c = some (.connection, m)) :
    (checkFrame c f context : Action σ Frame) = closedConnection m context := by
  unfold Frame.closing? at closing
  unfold checkFrame
  grind

theorem checkFrame_settles (there : c ≠ .connection → s.isOpen c)
    (closing : f.closing? c = some (x, m)) (context : String) (link : σ) :
    ∃ failure link', (checkFrame c f context).run s link =
      ⟨.error (x.error context m failure), x.settled failure, x.erase s, link'⟩ := by
  cases x with
  | channel d =>
    obtain ⟨rfl, nonzero, checked⟩ :
        d = c ∧ c ≠ .connection ∧ (checkFrame c f context : Action σ Frame) = _ :=
      checkFrame_of_channel closing
    rw [checked]
    exact closedChannel_settles nonzero (there nonzero)
  | connection =>
    rw [checkFrame_of_connection closing]
    exact closedConnection_settles m context s link

/-- A frame that is handed over is no close, since the reader of a close is told that instead. -/
theorem harmless_of_deliver {g : Option Frame}
    (h : ((deliver c f).run s link).result = .ok g) : f.closing? c = none := by
  have checked : ((checkFrame c f "next_frame").run s link).result = .ok f := by
    unfold deliver at h
    rw [run_record_bind, Outcome.result_after] at h
    cases result : ((checkFrame c f "next_frame").run s link).result with
    | error e => simp [run_bind_of_error result] at h
    | ok g => rw [← result, checkFrame_of_ok result]
  cases closing : f.closing? c with
  | none => rfl
  | some p =>
    obtain ⟨x, m⟩ := p
    cases x with
    | channel d =>
      rw [(checkFrame_of_channel closing).2.2] at checked
      exact absurd checked closedChannel_ne_ok
    | connection =>
      rw [checkFrame_of_connection closing] at checked
      exact absurd checked closedConnection_ne_ok

theorem run_deliver_of_none (harmless : f.closing? c = none) :
    (deliver c f).run s link = ⟨.ok (some f), [.delivered c f], s, link⟩ := by
  have checked : (checkFrame c f "next_frame").run s link = _ := run_checkFrame_of_none harmless
  unfold deliver
  rw [run_record_bind, run_bind_of_ok (congrArg Outcome.result checked), checked]
  rfl

theorem deliver_settles (there : c ≠ .connection → s.isOpen c)
    (closing : f.closing? c = some (x, m)) (link : σ) :
    ∃ failure link', (deliver c f).run s link =
      ⟨.error (x.error "next_frame" m failure), .delivered c f :: x.settled failure, x.erase s,
        link'⟩ := by
  obtain ⟨failure, link', settles⟩ := checkFrame_settles there closing "next_frame" link
  unfold deliver
  rw [run_record_bind, run_bind_of_error (congrArg Outcome.result settles), settles]
  exact ⟨failure, link', rfl⟩

end Peer

/-- What led up to a close: it came in and no other did, and only what is asked for went out. -/
structure LeadsTo (asks : ChannelId → Method → Prop) (x : Scope) (close : Method)
    (before : List Event) : Prop where
  met : ∃ e ∈ before, e.close? = some (x, close)
  only : ∀ e ∈ before, ∀ p, e.close? = some p → p = (x, close)
  asked : ∀ c m outcome, .sent c m outcome ∈ before → asks c m

theorem LeadsTo.after {events before : List Event} (calm : ∀ e ∈ events, e.Calm asks)
    (h : LeadsTo asks x m before) : LeadsTo asks x m (events ++ before) where
  met := by
    obtain ⟨e, mem, met⟩ := h.met
    exact ⟨e, List.mem_append_right _ mem, met⟩
  only := by
    refine List.forall_mem_append.mpr ⟨fun e he p met => ?_, h.only⟩
    rw [(calm e he).1] at met
    cases met
  asked d n outcome sent := by
    rcases List.mem_append.mp sent with early | late
    · exact (calm _ early).2 d n outcome rfl
    · exact h.asked d n outcome late

/-- Reading channel `c` came to an end of its own, or it met a close and went no further. What is
reported then is up to whoever reads. -/
inductive Reading (c : ChannelId) (asks : ChannelId → Method → Prop)
    (reports : SessionError → Except SessionError α → Prop) (s : Session) (o : Outcome σ α) : Prop
  | undisturbed (calm : ∀ e ∈ o.trace, e.Calm asks) (stays : o.session.connection = s.connection)
  | ended (x : Scope) (close : Method) (failure : Option LinkError) (before : List Event)
    (t : Session) (reach : x = .connection ∨ x = .channel c ∧ c ≠ .connection)
    (led : LeadsTo asks x close before) (stays : t.connection = s.connection)
    (trace : o.trace = before ++ x.settled failure) (session : o.session = x.erase t)
    (reported : reports (x.error "next_frame" close failure) o.result)

def PassedOn (e : SessionError) (r : Except SessionError α) : Prop := r = .error e

section Reading

variable {reports : SessionError → Except SessionError α → Prop}
  {reports' : SessionError → Except SessionError β → Prop} {events : List Event}

namespace Reading

theorem after {o : Outcome σ α} (calm : ∀ e ∈ events, e.Calm asks)
    (stays : t.connection = s.connection) (h : Reading c asks reports t o) :
    Reading c asks reports s (o.after events) := by
  cases h with
  | undisturbed calm' stays' =>
    exact .undisturbed (List.forall_mem_append.mpr ⟨calm, calm'⟩) (stays'.trans stays)
  | ended x close failure before u reach led stays' trace session reported =>
    exact .ended x close failure (events ++ before) u reach (led.after calm) (stays'.trans stays)
      (by simp [trace]) session reported

theorem of_met {o : Outcome σ α} {e : Event} (h : Reading c asks reports s o) (mem : e ∈ o.trace)
    (met : e.close? = some (x, m)) :
    ∃ before failure t, LeadsTo asks x m before ∧ t.connection = s.connection ∧
      o.trace = before ++ x.settled failure ∧ o.session = x.erase t ∧
      reports (x.error "next_frame" m failure) o.result := by
  cases h with
  | undisturbed calm =>
    rw [(calm e mem).1] at met
    cases met
  | ended y close failure before t reach led stays trace session reported =>
    rcases List.mem_append.mp (trace ▸ mem) with early | late
    · obtain ⟨rfl, rfl⟩ := Prod.mk.inj (led.only e early _ met)
      exact ⟨before, failure, t, led, stays, trace, session, reported⟩
    · rw [y.close?_settled failure e late] at met
      cases met

/-- To go on after reading: a reader who met a close must let the matter rest. -/
theorem settle {x : Action σ α} {next : Except SessionError α → Action σ β}
    (first : Reading c asks reports s (x.run s link))
    (goes_on : ∀ r, (x.run s link).result = r → Reading c asks reports' (x.run s link).session
      ((next r).run (x.run s link).session (x.run s link).link))
    (rests : ∀ e r, reports e r → ∃ r', reports' e r' ∧
      ∀ t link, (next r).run t link = ⟨r', [], t, link⟩) :
    Reading c asks reports' s ((x.settle next).run s link) := by
  rw [run_settle]
  cases first with
  | undisturbed calm stays => exact .after calm stays (goes_on _ rfl)
  | ended y close failure before t reach led stays trace session reported =>
    obtain ⟨r', reported', rest⟩ := rests _ _ reported
    rw [rest]
    exact .ended y close failure before t reach led stays (by simp [trace]) session reported'

theorem bind {x : Action σ α} {next : α → Action σ β}
    (first : Reading c asks reports s (x.run s link))
    (goes_on : ∀ a, (x.run s link).result = .ok a → Reading c asks reports' (x.run s link).session
      ((next a).run (x.run s link).session (x.run s link).link))
    (fails : ∀ e r, reports e r → ∃ e', r = .error e' ∧ reports' e (.error e')) :
    Reading c asks reports' s ((x >>= next).run s link) := by
  change Reading c asks reports' s ((x.andThen next).run s link)
  unfold andThen
  refine settle first (fun r h => ?_) fun e r reported => ?_
  · cases r with
    | error e => exact .undisturbed (by simp) rfl
    | ok a => exact goes_on a h
  · obtain ⟨e', rfl, reported'⟩ := fails e r reported
    exact ⟨.error e', reported', fun _ _ => rfl⟩

theorem gated {next : Unit → Action σ α}
    (inside : s.connection = .open → Reading c asks reports s ((next ()).run s link)) :
    Reading c asks reports s ((requireOpen >>= next).run s link) := by
  by_cases usable : s.connection = .open
  · rw [run_requireOpen_bind usable]
    exact inside usable
  · obtain ⟨e, barred, -⟩ := run_requireOpen_bind_of_not usable next link
    rw [barred]
    exact .undisturbed (by simp) rfl

theorem map {o : Outcome σ α} {f : α → β} (h : Reading c asks reports s o)
    (same : ∀ e r, reports e r → reports' e (r.map f)) : Reading c asks reports' s (o.map f) := by
  cases h with
  | undisturbed calm stays => exact .undisturbed calm stays
  | ended x close failure before t reach led stays trace session reported =>
    exact .ended x close failure before t reach led stays trace session (same _ _ reported)

theorem recast {e : SessionError} {trace : List Event}
    (h : Reading c asks PassedOn s (⟨.error e, trace, t, link⟩ : Outcome σ α)) :
    Reading c asks PassedOn s (⟨.error e, trace, t, link⟩ : Outcome σ β) := by
  cases h with
  | undisturbed calm stays => exact .undisturbed calm stays
  | ended x close failure before u reach led stays trace session passed =>
    exact .ended x close failure before u reach led stays trace session
      (congrArg Except.error (Except.error.inj passed))

theorem of_ok {o : Outcome σ α} {a : α} (h : Reading c asks PassedOn s o) (got : o.result = .ok a) :
    (∀ e ∈ o.trace, e.Calm asks) ∧ o.session.connection = s.connection := by
  cases h with
  | undisturbed calm stays => exact ⟨calm, stays⟩
  | ended x close failure before u reach led stays trace session passed =>
    rw [passed] at got
    cases got

theorem unclosing {o : Outcome σ α} {d : ChannelId} (h : Reading c asks reports s o)
    (other : ∀ m, asks d m → m.id ≠ .channelClose) (m : Method) (failure : Option LinkError)
    (sent : .sent d m failure ∈ o.trace) : m.id ≠ .channelClose := by
  cases h with
  | undisturbed calm => exact other m ((calm _ sent).2 d m failure rfl)
  | ended x close outcome before t reach led stays trace =>
    rcases List.mem_append.mp (trace ▸ sent) with early | late
    · exact other m (led.asked d m failure early)
    · cases x with
      | channel b =>
        obtain ⟨-, rfl, -⟩ : d = b ∧ m = .channelCloseOk ∧ _ := by simpa [Scope.settled] using late
        decide
      | connection =>
        obtain ⟨-, rfl, -⟩ : d = .connection ∧ m = .connectionCloseOk ∧ _ := by
          simpa [Scope.settled] using late
        decide

end Reading

variable [Link σ]

theorem reading_deliver {events : List Event} (there : c ≠ .connection → t.isOpen c)
    (stays : t.connection = s.connection)
    (brought : ∀ e ∈ events, f.channel = c ∧ ∃ wait, e = .pulled c wait (.frame f)) :
    Reading c asks PassedOn s (((deliver c f).run t link).after events) := by
  -- a close that was pulled comes in twice, with the pull and when it is handed over
  have brought : ∀ e ∈ events ++ [.delivered c f], e.close? = f.closing? c ∧
      ∀ d m failure, e ≠ .sent d m failure := by
    refine List.forall_mem_append.mpr ⟨fun e he => ?_, by simp [Event.close?]⟩
    obtain ⟨own, wait, rfl⟩ := brought e he
    simp [Event.close?, own]
  cases closing : f.closing? c with
  | none =>
    rw [run_deliver_of_none closing]
    refine .undisturbed (fun e he => ?_) stays
    obtain ⟨harmless, unsent⟩ := brought e he
    exact ⟨harmless.trans closing, fun d m failure same => absurd same (unsent d m failure)⟩
  | some p =>
    obtain ⟨x, m⟩ := p
    have reach := Frame.reach_of_closing? closing
    obtain ⟨failure, link', settles⟩ := deliver_settles there closing link
    rw [settles]
    refine .ended x m failure _ t reach ⟨?_, fun e he p met => ?_, fun d n outcome sent => ?_⟩ stays
      (List.append_cons ..) rfl rfl
    · exact ⟨_, List.mem_append_right _ (.head _), closing⟩
    · exact (Option.some.inj (closing.symm.trans ((brought e he).1.symm.trans met))).symm
    · exact absurd rfl ((brought _ sent).2 d n outcome)

theorem calm_of_route {reader : ChannelId} {wait : Timeout} (foreign : f.channel ≠ reader)
    (passed : ∀ m, s.route f ≠ .close m) : (Event.pulled reader wait (.frame f)).Calm asks := by
  refine ⟨?_, by simp⟩
  rw [Event.close?]
  split
  · rename_i near
    have connection : f.channel = .connection := near.resolve_left foreign
    rw [connection, Frame.closing?_connection]
    cases method : f.method? with
    | none => rfl
    | some m =>
      have other : m.id ≠ .connectionClose := by
        intro id
        exact passed m (by simp [route, connection, method, id])
      simp [other]
  · rfl

theorem reading_pullFor {wait : Timeout} (there : c ≠ .connection → s.isOpen c) :
    Reading c asks PassedOn s (pullFor c wait s link) := by
  -- all that were parked before the last one were no closes
  induction s, link using pullFor_induction (σ := σ) c wait with
  | failed s link e link' pulled ran =>
    rw [ran]
    exact .undisturbed (by simp [Event.Calm, Event.close?]) rfl
  | nothing s link link' pulled ran =>
    rw [ran]
    exact .undisturbed (by simp [Event.Calm, Event.close?]) rfl
  | own s link f link' pulled own ran =>
    rw [ran]
    exact reading_deliver there rfl (by simp [own])
  | closes s link f link' m pulled foreign routed ran =>
    obtain ⟨connection, method, id⟩ := route_eq_close routed
    have closing : f.closing? .connection = some (.connection, m) := by
      simp [Frame.closing?_connection, method, id]
    have met : (Event.pulled c wait (.frame f)).close? = some (.connection, m) := by
      simp [Event.close?, connection, closing]
    obtain ⟨failure, link', settles⟩ :=
      closedConnection_settles (α := Option Frame) m "next_frame" s link'
    rw [ran, settles]
    exact .ended .connection m failure [_] s (.inl rfl)
      ⟨⟨_, .head _, met⟩, by simp [met, eq_comm], by simp⟩ rfl rfl rfl rfl
  | full s link f link' pulled foreign routed ran =>
    have calm : (Event.pulled c wait (.frame f)).Calm asks :=
      calm_of_route (s := s) foreign (by simp [routed])
    rw [ran]
    exact .undisturbed (by simpa using ⟨calm, by simp [Event.Calm, Event.close?]⟩) rfl
  | late s link f link' t pulled foreign routed expired ran =>
    have calm : (Event.pulled c wait (.frame f)).Calm asks :=
      calm_of_route (s := s) foreign (by simp [routed])
    rw [ran]
    exact .undisturbed (by simpa using calm) (by rw [eq_of_route routed])
  | passed s link f link' t pulled foreign routed patient ran ih =>
    have calm : (Event.pulled c wait (.frame f)).Calm asks :=
      calm_of_route (s := s) foreign (by simp [routed])
    rw [ran]
    refine .after (by simpa using calm) (by rw [eq_of_route routed]) (ih fun nonzero => ?_)
    rw [isOpen_of_route routed]
    exact there nonzero

theorem reading_nextFrame {wait : Timeout} :
    Reading c asks PassedOn s ((nextFrame c wait).run s link) := by
  refine nextFrame_cases (fun _ => ?_) (fun f rest _ _ => ?_) fun opened _ => ?_
  · exact .undisturbed (by simp) rfl
  · rw [← Outcome.after_nil ((deliver c f).run _ link)]
    exact reading_deliver (fun _ => by simp) rfl (by simp)
  · exact reading_pullFor fun _ => opened

theorem reading_collect {step : β → Frame → Step β α} {b : β} :
    Reading c asks PassedOn s (collect c context step b s link) := by
  fun_induction collect c context step b s link with
  | case1 b s link e trace t link' read =>
    have reading : Reading c asks PassedOn s ((nextFrame c none).run s link) := reading_nextFrame
    rw [read] at reading
    exact reading.recast
  | case2 b s link trace t link' read =>
    have reading : Reading c asks PassedOn s ((nextFrame c none).run s link) := reading_nextFrame
    rw [read] at reading
    obtain ⟨calm, stays⟩ := reading.of_ok rfl
    exact .undisturbed calm stays
  | case3 b s link f trace t link' read ih =>
    have reading : Reading c asks PassedOn s ((nextFrame c none).run s link) := reading_nextFrame
    rw [read] at reading
    obtain ⟨calm, stays⟩ := reading.of_ok rfl
    refine .after calm stays ?_
    cases step b f with
    | more b => exact ih b
    | done a => exact .undisturbed (by simp) rfl
    | failed e => exact .undisturbed (by simp) rfl

theorem reading_send_bind {next : Unit → Action σ β} (asked : asks c m)
    (goes_on : ∀ link, Reading c asks reports' s ((next ()).run s link)) :
    Reading c asks reports' s ((send c m context >>= next).run s link) := by
  rcases run_send c m context s link with ⟨link', sent⟩ | ⟨e, link', sent⟩
  · rw [run_bind_of_ok (congrArg Outcome.result sent), sent]
    refine .after ?_ rfl (goes_on link')
    simpa [Event.Calm, Event.close?] using asked
  · rw [run_bind_of_error (congrArg Outcome.result sent), sent]
    refine .undisturbed ?_ rfl
    simpa [Event.Calm, Event.close?] using asked

/-- A close is what was asked for being refused. -/
def Rejected (context : String) (e : SessionError) (r : Except SessionError α) : Prop :=
  r = .error (e.asRejection context)

theorem reading_call {expected : List MethodId} (asked : asks c m) :
    Reading c asks (Rejected m.id.name) s ((call c m expected).run s link) := by
  unfold call
  refine .gated fun _ => ?_
  rw [run_session_bind]
  split
  · refine reading_send_bind asked fun link => ?_
    refine Reading.settle reading_collect (fun r _ => ?_) fun e r passed => ?_
    · rw [run_orRejected]
      exact .undisturbed (by simp) rfl
    · rw [passed]
      exact ⟨_, rfl, fun _ _ => rfl⟩
  · exact .undisturbed (by simp) rfl

theorem reading_readContent : Reading c asks PassedOn s ((readContent c).run s link) :=
  .gated fun _ => reading_collect

theorem reading_readReturned : Reading c asks PassedOn s ((readReturned c m).run s link) := by
  unfold readReturned
  split
  · split
    · refine reading_readContent.bind (fun _ _ => .undisturbed (by simp) rfl) fun e r passed => ?_
      exact ⟨e, passed, rfl⟩
    · exact .undisturbed (by simp) rfl
  · exact .undisturbed (by simp) rfl

/-- A close of the channel is as good as the answer to ours. -/
def Crossed (e : SessionError) (r : Except SessionError α) : Prop :=
  (∃ d reason context, e = .channelClosedByPeer d reason context) ∨ PassedOn e r

theorem reading_closeChannel (asked : asks c (.channelClose .normal)) :
    Reading c asks Crossed s ((closeChannel c).run s link) := by
  unfold closeChannel
  refine .gated fun _ => ?_
  rw [run_session_bind]
  split
  · exact .undisturbed (by simp) rfl
  split
  · refine reading_send_bind asked fun link => ?_
    refine Reading.settle reading_collect (fun r _ => ?_) fun e r passed => ?_
    · split
      · exact .undisturbed (by simp [Event.Calm, Event.close?]) rfl
      · split <;> exact .undisturbed (by simp) rfl
      · exact .undisturbed (by simp) rfl
    · rw [passed]
      cases e with
      | channelClosedByPeer d reason context =>
        dsimp only
        split <;> exact ⟨_, .inl ⟨d, reason, context, rfl⟩, fun _ _ => rfl⟩
      | _ => exact ⟨_, .inr rfl, fun _ _ => rfl⟩
  · exact .undisturbed (by simp) rfl

/-- Whether the connection is lost shows. -/
def Rated (e : SessionError) (r : Except SessionError α) : Prop :=
  ∃ e', r = .error e' ∧ e'.isFatal = e.isFatal

def toOpen (_ : ChannelId) (m : Method) : Prop := m = .channelOpen ∨ m = .confirmSelect false

theorem id_ne_of_toOpen {m : Method} (h : toOpen c m) : m.id ≠ .channelClose := by
  rcases h with rfl | rfl <;> decide

theorem reading_openReserved : Reading c toOpen Rated s ((openReserved c).run s link) := by
  have rated {context : String} (e : SessionError) (r : Except SessionError Method)
      (rejected : Rejected context e r) :
      ∃ e', r = .error e' ∧ Rated e (.error e' : Except SessionError Unit) :=
    ⟨_, rejected, _, rfl, SessionError.isFatal_asRejection context e⟩
  unfold openReserved
  refine (reading_call (.inl rfl)).bind (fun _ _ => ?_) rated
  rw [run_session_bind]
  split
  · exact (reading_call (.inr rfl)).bind (fun _ _ => .undisturbed (by simp) rfl) rated
  · exact .undisturbed (by simp) rfl

theorem reading_perform {op : Operation} (listens : op.listensOn? = some c) :
    Reading c op.requests (fun e r => r = .error (op.retell e)) s ((perform op).run s link) := by
  cases op with
  | next d wait =>
    obtain ⟨⟩ := listens
    rw [perform, run_map]
    exact (Reading.gated fun _ => reading_nextFrame).map fun e r passed => by rw [passed]; rfl
  | call d m expected =>
    obtain ⟨⟩ := listens
    rw [perform, run_map]
    exact (reading_call ⟨rfl, rfl⟩).map fun e r rejected => by rw [rejected]; rfl
  | readContent d =>
    obtain ⟨⟩ := listens
    rw [perform, run_map]
    exact reading_readContent.map fun e r passed => by rw [passed]; rfl
  | readReturned d m =>
    obtain ⟨⟩ := listens
    rw [perform, run_map]
    exact reading_readReturned.map fun e r passed => by rw [passed]; rfl
  | _ => cases listens

end Reading
end Session
end Multiplex
