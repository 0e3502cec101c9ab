import Multiplex.Proofs.Session.Course
import Multiplex.Proofs.Session.Reading

/-! What becomes of the connection in an operation. A reader who meets the peer's close passes it
on, and whoever reads for a purpose of his own, opening a channel or closing one or closing the
connection, must let the matter rest as well. -/

namespace Multiplex

/-- A frame came in on the connection's own channel, or reached the reader of the channel read. -/
def Arrived (f : Frame) (trace : List Event) : Prop :=
  ∃ c, Consumed c f trace ∨ f.channel = .connection ∧ ∃ wait, .pulled c wait (.frame f) ∈ trace

/-- Whether a channel whose opening had failed was being closed again. -/
def Operation.Undoing (op : Operation) (past : List Event) : Prop :=
  op = .acquire ∧ ∃ c, .sent c (.channelClose .normal) none ∈ past

section Arrival

variable {f : Frame} {m : Method} {trace : List Event} {e : Event}

theorem exists_close?_of_arrived (arrived : Arrived f trace) (method : f.method? = some m)
    (id : m.id = .connectionClose) : ∃ e ∈ trace, e.close? = some (.connection, m) := by
  have closing (reader : ChannelId) : f.closing? reader = some (.connection, m) := by
    have other : MethodId.connectionClose ≠ .channelClose := by decide
    simp [Frame.closing?, method, id, other]
  obtain ⟨c, (delivered | ⟨own, wait, pulled⟩) | ⟨connection, wait, pulled⟩⟩ := arrived
  · exact ⟨_, delivered, closing c⟩
  · exact ⟨_, pulled, by simpa [Event.close?, own] using closing c⟩
  · exact ⟨_, pulled, by simpa [Event.close?, connection] using closing .connection⟩

theorem Frame.method?_of_closing? {c : ChannelId} (closing : f.closing? c = some (.connection, m)) :
    f.method? = some m ∧ m.id = .connectionClose := by
  unfold closing? at closing
  grind

theorem exists_arrived_of_close? (mem : e ∈ trace) (met : e.close? = some (.connection, m)) :
    ∃ f, Arrived f trace ∧ f.method? = some m ∧ m.id = .connectionClose := by
  cases e with
  | delivered c f => exact ⟨f, ⟨c, .inl (.inl mem)⟩, Frame.method?_of_closing? met⟩
  | pulled c wait answer =>
    cases answer with
    | frame f =>
      rw [Event.close?] at met
      split at met
      · rename_i near
        refine ⟨f, ⟨c, ?_⟩, Frame.method?_of_closing? met⟩
        exact near.imp (fun own => .inr ⟨own, wait, mem⟩) fun connection => ⟨connection, wait, mem⟩
      · cases met
    | _ => cases met
  | _ => cases met

end Arrival

namespace Session

open Multiplex.Action

theorem isFatal_error_connection (context : String) (close : Method) (failure : Option LinkError) :
    (Scope.connection.error context close failure).isFatal = false ↔
      failure = none ∧ ∃ cause, CloseReason.decode close.args = .error cause := by
  cases failure with
  | some cause => simp [Scope.error, SessionError.isFatal]
  | none =>
    cases decoded : CloseReason.decode close.args <;>
      simp [Scope.error, Scope.closedByPeer, decoded, SessionError.isFatal]

variable {σ α : Type} {s : Session} {link : σ} {c : ChannelId} {op : Operation}

/-- How an operation leaves the connection: as it was, or shut upon the peer's close, after which
nothing else is done. Only closing it from this side can shut it otherwise. -/
inductive Fate (op : Operation) (s : Session) (o : Outcome σ Reply) : Prop
  | spared (unmet : ∀ e ∈ o.trace, ∀ m, e.close? ≠ some (.connection, m))
    (stays : op ≠ .closeConnection → op ≠ .finishConnection →
      o.session.connection = s.connection)
  | struck (f : Frame) (close : Method) (failure : Option LinkError) (before after : List Event)
    (t : Session) (arrived : Arrived f before ∨ ∃ c context, op = .check c f context)
    (method : f.method? = some close) (id : close.id = .connectionClose)
    (asked : ∀ d m outcome, .sent d m outcome ∈ before → op.requests d m)
    (trace : o.trace = before ++ .shut :: .sent .connection .connectionCloseOk failure :: after)
    (session : o.session = t.shut)
    (silent : after = [] ∨ op = .closeConnection ∧ after = [.shut])
    (rated : op ≠ .closeConnection → ∃ e, o.result = .error e ∧
      (e.isFatal = false ↔ op.Undoing before ∨
        failure = none ∧ ∃ cause, CloseReason.decode close.args = .error cause))

theorem Fate.aside {o : Outcome σ Reply} (h : (∀ e ∈ o.trace, e.close? = none) ∧
    o.session.connection = s.connection) : Fate op s o :=
  .spared (fun e he m => by simp [h.1 e he]) fun _ _ => h.2

theorem Fate.after {o : Outcome σ Reply} {events : List Event} {t : Session}
    (calm : ∀ e ∈ events, e.Calm op.requests) (intact : ¬ op.Undoing events)
    (stays : t.connection = s.connection) (h : Fate op t o) : Fate op s (o.after events) := by
  cases h with
  | spared unmet stays' =>
    refine .spared (List.forall_mem_append.mpr ⟨fun e he m => ?_, unmet⟩)
      fun other finish => (stays' other finish).trans stays
    simp [(calm e he).1]
  | struck f close failure before after u arrived method id asked trace session silent rated =>
    have undoing : op.Undoing (events ++ before) ↔ op.Undoing before := by
      simp only [Operation.Undoing, List.mem_append, not_and, not_exists] at intact ⊢
      grind
    refine .struck f close failure (events ++ before) after u ?_ method id ?_ (by simp [trace])
      session silent (by simpa [undoing] using rated)
    · refine arrived.imp_left fun ⟨c, brought⟩ => ⟨c, ?_⟩
      unfold Consumed at brought ⊢
      grind
    · intro d m outcome sent
      rcases List.mem_append.mp sent with early | late
      · exact (calm _ early).2 d m outcome rfl
      · exact asked d m outcome late

theorem Reading.fate {asks : ChannelId → Method → Prop}
    {reports : SessionError → Except SessionError Reply → Prop} {o : Outcome σ Reply}
    (h : Reading c asks reports s o) (requests : ∀ d m, asks d m → op.requests d m)
    (rated : ∀ before close failure, o.trace = before ++ Scope.connection.settled failure →
      (∀ d m outcome, .sent d m outcome ∈ before → asks d m) →
      reports (Scope.connection.error "next_frame" close failure) o.result →
      ∃ e, o.result = .error e ∧ (e.isFatal = false ↔ op.Undoing before ∨
        failure = none ∧ ∃ cause, CloseReason.decode close.args = .error cause)) :
    Fate op s o := by
  cases h with
  | undisturbed calm stays =>
    refine .spared (fun e he m => ?_) fun _ _ => stays
    simp [(calm e he).1]
  | ended x close failure before t reach led stays trace session reported =>
    cases x with
    | channel d =>
      refine .spared (fun e he m met => ?_) fun _ _ => by rw [session]; exact stays
      rcases List.mem_append.mp (trace ▸ he) with early | late
      · cases led.only e early _ met
      · simp [Scope.close?_settled _ failure e late] at met
    | connection =>
      obtain ⟨e, mem, met⟩ := led.met
      obtain ⟨f, brought, method, id⟩ := exists_arrived_of_close? mem met
      exact .struck f close failure before [] t (.inl brought) method id
        (fun d m outcome sent => requests d m (led.asked d m outcome sent)) trace session (.inl rfl)
        fun _ => rated before close failure trace led.asked reported

theorem Reading.fate_of_rated {asks : ChannelId → Method → Prop}
    {reports : SessionError → Except SessionError Reply → Prop} {o : Outcome σ Reply}
    (h : Reading c asks reports s o) (requests : ∀ d m, asks d m → op.requests d m)
    (intact : op = .acquire → ∀ d, ¬ asks d (.channelClose .normal))
    (rated : ∀ e r, (∀ d reason context, e ≠ .channelClosedByPeer d reason context) →
      reports e r → Rated e r) : Fate op s o := by
  refine h.fate requests fun before close failure trace asked reported => ?_
  have untold : ∀ d reason context, Scope.connection.error "next_frame" close failure ≠
      .channelClosedByPeer d reason context := by
    unfold Scope.error Scope.closedByPeer
    grind
  obtain ⟨e, failed, fatal⟩ := rated _ _ untold reported
  have no_undoing : ¬ op.Undoing before := by
    rintro ⟨acquiring, d, sent⟩
    exact intact acquiring d (asked d _ none sent)
  refine ⟨e, failed, ?_⟩
  rw [fatal, isFatal_error_connection]
  simp [no_undoing]

variable [Link σ]

section Acquire

theorem trace_closeChannel (usable : s.connection = .open) (nonzero : c ≠ .connection)
    (opened : s.isOpen c) (link : σ) :
    (∃ failure, ((closeChannel c).run s link).trace =
      [.sent c (.channelClose .normal) (some failure)]) ∨
    ∃ rest, ((closeChannel c).run s link).trace = .sent c (.channelClose .normal) none :: rest := by
  rw [run_closeChannel usable nonzero opened]
  rcases run_send c (.channelClose .normal) "channel.close" s link with
    ⟨link', sent⟩ | ⟨failure, link', sent⟩
  · rw [run_bind_of_ok (congrArg Outcome.result sent), sent]
    exact .inr ⟨_, rfl⟩
  · rw [run_bind_of_error (congrArg Outcome.result sent), sent]
    exact .inl ⟨failure, rfl⟩

theorem sent_close_of_settled {before : List Event} {failure : Option LinkError}
    (usable : s.connection = .open) (nonzero : c ≠ .connection) (opened : s.isOpen c)
    (trace : ((closeChannel c).run s link).trace = before ++ Scope.connection.settled failure) :
    .sent c (.channelClose .normal) none ∈ before := by
  rcases trace_closeChannel usable nonzero opened link with ⟨refusal, begins⟩ | ⟨rest, begins⟩
  · -- had it not gone out, nothing would have been read, and no close met
    have lengths := congrArg List.length (begins.symm.trans trace)
    simp [Scope.settled] at lengths
  · cases before with
    | nil =>
      rw [begins] at trace
      cases trace
    | cons first before =>
      obtain ⟨rfl, -⟩ := List.cons.inj (begins.symm.trans trace)
      exact .head _

theorem run_abandon_of_closed (closed : s.isOpen c = false) (cause : SessionError) (link : σ) :
    (abandon c cause).run s link = ⟨.ok (), [], s, link⟩ := by
  simp [abandon, closed]

theorem result_abandon : ((abandon c e).run s link).result = .ok () := by
  unfold abandon
  rw [run_session_bind]
  split
  · split <;> rfl
  · rfl

theorem run_abandon_of_fatal {cause : SessionError} (opened : s.isOpen c) (fatal : cause.isFatal)
    (link : σ) :
    (abandon c cause).run s link = ⟨.ok (), [.abandoned c], s.dropQueue c, link⟩ := by
  simp [abandon, opened, fatal]

theorem run_abandon_of_spared {cause : SessionError} (usable : s.connection = .open)
    (opened : s.isOpen c) (spared : cause.isFatal = false) (link : σ) :
    let closing := (closeChannel c).run s link
    (abandon c cause).run s link = ⟨.ok (), closing.trace, closing.session, closing.link⟩ := by
  simp [abandon, opened, spared, usable, run_settle, Outcome.after]

theorem run_openOrAbandon_of_error {e : SessionError}
    (failed : ((openOrAbandon c).run s link).result = .error e) :
    let opening := (openReserved c).run s link
    let undoing := (abandon c e).run opening.session opening.link
    opening.result = .error e ∧ (openOrAbandon c).run s link =
      ⟨.error e, opening.trace ++ undoing.trace, undoing.session, undoing.link⟩ := by
  unfold openOrAbandon at failed ⊢
  rw [run_settle] at failed ⊢
  generalize (openReserved c).run s link = o at *
  cases opened : o.result with
  | ok _ => simp [opened] at failed
  | error e' =>
    have undone : ((abandon c e').run o.session o.link).result = .ok () := result_abandon
    simp only [opened, run_bind_of_ok undone] at failed ⊢
    obtain rfl : e' = e := by simpa using failed
    simp [Outcome.after]

/-- The cause of the failure is what is reported, whatever else is met in undoing it. -/
theorem fate_abandon {cause : SessionError} (usable : s.connection = .open)
    (nonzero : c ≠ .connection) :
    Fate .acquire s (((abandon c cause >>= fun _ => fail cause).run s link).map .channel) := by
  cases opened : s.isOpen c with
  | false =>
    have nothing := run_abandon_of_closed opened cause link
    rw [run_bind_of_ok (congrArg Outcome.result nothing), nothing]
    exact .spared (by simp) fun _ _ => rfl
  | true =>
    cases fatal : cause.isFatal with
    | true =>
      -- nothing is read any more, so no close can be met
      have dropped := run_abandon_of_fatal opened fatal link
      rw [run_bind_of_ok (congrArg Outcome.result dropped), dropped]
      exact .spared (by simp [Event.close?]) fun _ _ => rfl
    | false =>
      have closing : (abandon c cause >>= fun _ => fail cause : Action σ ChannelId).run s link =
          ((closeChannel c).settle fun _ => fail cause).run s link := by
        have closes := run_abandon_of_spared usable opened fatal link
        rw [run_bind_of_ok (congrArg Outcome.result closes), closes]
        rfl
      rw [closing]
      have reading : Reading c (fun _ m => m = .channelClose .normal) (fun _ _ => True) s
          (((closeChannel c).settle fun _ => (fail cause : Action σ ChannelId)).run s link) :=
        (reading_closeChannel rfl).settle (fun _ _ => .undisturbed (by simp) rfl)
          fun _ _ _ => ⟨_, trivial, fun _ _ => rfl⟩
      have reading : Reading c (fun _ m => m = .channelClose .normal) (fun _ _ => True) s
          ((((closeChannel c).settle fun _ => (fail cause : Action σ ChannelId)).run s link).map
            Reply.channel) := reading.map fun _ _ _ => trivial
      refine reading.fate (fun _ _ => .inr ∘ .inr) fun before close failure trace _ _ => ?_
      rw [Outcome.trace_map, run_settle, Outcome.trace_after, run_fail, List.append_nil] at trace
      have undoing : Operation.acquire.Undoing before :=
        ⟨rfl, c, sent_close_of_settled usable nonzero opened trace⟩
      exact ⟨cause, rfl, fun _ => .inl undoing, fun _ => fatal⟩

/-- What has met a close has lost the channel with it, so that nothing is left to undo. -/
theorem fate_openOrAbandon (usable : s.connection = .open) (nonzero : c ≠ .connection) :
    Fate .acquire s (((openOrAbandon c).run s link).map .channel) := by
  have requests : ∀ d m, toOpen d m → Operation.acquire.requests d m := fun d m asked =>
    asked.elim .inl (.inr ∘ .inl)
  have intact : ∀ d, ¬ toOpen d (.channelClose .normal) := fun d asked => id_ne_of_toOpen asked rfl
  have reading : Reading c toOpen Rated s ((openReserved c).run s link) := reading_openReserved
  unfold openOrAbandon
  rw [run_settle]
  generalize (openReserved c).run s link = o at *
  cases reading with
  | undisturbed calm stays =>
    cases opened : o.result with
    | ok _ =>
      refine .spared (fun e he m => ?_) fun _ _ => stays
      simp [(calm e (by simpa using he)).1]
    | error e =>
      have given_up : Fate .acquire o.session
          (((abandon c e >>= fun _ => fail e).run o.session o.link).map .channel) :=
        fate_abandon (stays.trans usable) nonzero
      refine given_up.after (fun e he => ?_) ?_ stays
      · exact ⟨(calm e he).1, fun d m outcome same => requests d m ((calm e he).2 d m outcome same)⟩
      · rintro ⟨-, d, sent⟩
        exact intact d ((calm _ sent).2 d _ none rfl)
  | ended x close failure before t reach led stays trace session reported =>
    obtain ⟨e, failed, fatal⟩ := reported
    have closed : o.session.isOpen c = false := session ▸ Scope.isOpen_erase reach nonzero t
    have nothing := run_abandon_of_closed closed e o.link
    rw [failed]
    dsimp only
    rw [run_bind_of_ok (congrArg Outcome.result nothing), nothing]
    have rests : Reading c toOpen Rated s
        (⟨.error e, o.trace, o.session, o.link⟩ : Outcome σ Reply) :=
      .ended x close failure before t reach led stays trace session ⟨e, rfl, fatal⟩
    simpa [Outcome.after, Outcome.map, Except.map] using
      rests.fate_of_rated requests (fun _ => intact) fun _ _ _ => id

theorem fate_acquire : Fate .acquire s ((perform .acquire).run s link) := by
  have acquisition := acquisition_perform s link
  generalize (perform .acquire).run s link = o at *
  cases acquisition with
  | refused | reused => exact .spared (by simp) fun _ _ => rfl
  | reserved c usable unused free =>
    have nonzero := (reservable_eq_some (ChannelId.bound_ne_zero _) free).2.2.1
    have opening : Fate .acquire (s.hold c)
        (((openOrAbandon c).run (s.hold c) link).map .channel) :=
      fate_openOrAbandon usable nonzero
    refine Fate.after (t := s.hold c) ?_ ?_ rfl opening
    · simp [Event.Calm, Event.close?]
    · simp [Operation.Undoing]

end Acquire

section Close

variable {m : Method} {context : String}

theorem finishChannel_aside (c : ChannelId) (s : Session) (link : σ) :
    (∀ e ∈ ((finishChannel c).run s link).trace, e.close? = none) ∧
      ((finishChannel c).run s link).session.connection = s.connection := by
  by_cases nonzero : c = .connection
  · simp [finishChannel, nonzero]
  cases opened : s.isOpen c with
  | false => simp [finishChannel, nonzero, opened]
  | true =>
    rw [run_finishChannel nonzero opened]
    rcases run_send c .channelCloseOk "channel.close-ok" (s.forget c) link with
      ⟨link', sent⟩ | ⟨failure, link', sent⟩ <;> rw [sent] <;>
      exact ⟨by simp [Event.close?], rfl⟩

theorem closedChannel_aside :
    (∀ e ∈ ((closedChannel c m context : Action σ α).run s link).trace, e.close? = none) ∧
      ((closedChannel c m context : Action σ α).run s link).session.connection = s.connection := by
  have aside := finishChannel_aside c s link
  unfold closedChannel
  cases finished : ((finishChannel c).run s link).result with
  | error e =>
    rw [run_bind_of_error finished]
    exact aside
  | ok _ =>
    rw [run_bind_of_ok finished]
    cases CloseReason.decode m.args <;> simpa using aside

theorem fate_check {f : Frame} :
    Fate (.check c f context) s ((perform (.check c f context)).run s link) := by
  rw [perform, run_map]
  cases closing : f.closing? c with
  | none =>
    rw [run_checkFrame_of_none closing]
    exact .aside ⟨by simp, rfl⟩
  | some p =>
    obtain ⟨x, m⟩ := p
    cases x with
    | channel d =>
      rw [(checkFrame_of_channel closing).2.2]
      exact .aside closedChannel_aside
    | connection =>
      obtain ⟨method, id⟩ := Frame.method?_of_closing? closing
      obtain ⟨failure, link', settles⟩ :=
        closedConnection_settles (α := Frame) m context s link
      rw [checkFrame_of_connection closing, settles]
      refine .struck f m failure [] [] s (.inr ⟨c, context, rfl⟩) method id (by simp) rfl rfl
        (.inl rfl) fun _ => ⟨_, rfl, ?_⟩
      simp [isFatal_error_connection, Operation.Undoing]

theorem fate_finishConnection :
    Fate .finishConnection s ((perform .finishConnection).run s link) := by
  rw [perform, run_map]
  refine .spared ?_ fun _ other => absurd rfl other
  by_cases closed : s.connection = .closed
  · simp [finishConnection, closed]
  rw [run_finishConnection closed]
  rcases run_send .connection .connectionCloseOk "connection.close-ok" s.shut link with
    ⟨link', sent⟩ | ⟨failure, link', sent⟩ <;> rw [sent] <;> simp [Event.close?]

omit [Link σ] in
theorem run_closeRegardless (r : Except SessionError Unit) (s : Session) (link : σ) :
    ∃ r', (closeRegardless r).run s link = ⟨r', [], s, link⟩ ∨
      (closeRegardless r).run s link = ⟨r', [.shut], s.shut, link⟩ := by
  unfold closeRegardless
  split
  · exact ⟨_, .inl rfl⟩
  · exact ⟨_, .inl rfl⟩
  · exact ⟨_, .inr rfl⟩

/-- The two closes may cross, and then it is the peer's that ends the exchange. -/
theorem exchangeCloses_crossed (s : Session) (link : σ) :
    (∀ e ∈ ((exchangeCloses : Action σ Unit).run s link).trace, e.close? = none) ∨
    ∃ close failure before, ∃ t : Session,
      LeadsTo Operation.closeConnection.requests .connection close before ∧
      ((exchangeCloses : Action σ Unit).run s link).trace =
        before ++ Scope.connection.settled failure ∧
      ((exchangeCloses : Action σ Unit).run s link).session = t.shut := by
  unfold exchangeCloses
  rcases run_send .connection (.connectionClose .normal) "connection.close" s link with
    ⟨link', sent⟩ | ⟨failure, link', sent⟩
  · rw [run_bind_of_ok (congrArg Outcome.result sent), sent]
    have reading : Reading .connection Operation.closeConnection.requests PassedOn s
        ((awaitConnectionCloseOk : Action σ Unit).run s link') := reading_collect
    cases reading with
    | undisturbed calm stays =>
      left
      cases got : ((awaitConnectionCloseOk : Action σ Unit).run s link').result with
      | ok _ =>
        rw [run_bind_of_ok got]
        simp only [Outcome.trace_after, run_change, List.forall_mem_append]
        exact ⟨by simp [Event.close?], fun e he => (calm e he).1, by simp [Event.close?]⟩
      | error _ =>
        rw [run_bind_of_error got]
        simp only [Outcome.trace_after, List.forall_mem_append]
        exact ⟨by simp [Event.close?], fun e he => (calm e he).1⟩
    | ended x close failure before t reach led stays trace session passed =>
      obtain rfl : x = .connection := reach.resolve_right fun own => own.2 rfl
      rw [run_bind_of_error passed]
      have calm : ∀ e ∈ [Event.sent .connection (.connectionClose .normal) none],
          e.Calm Operation.closeConnection.requests := by
        simp [Event.Calm, Event.close?, Operation.requests]
      exact .inr ⟨close, failure, _, t, led.after calm, by simp [trace], session⟩
  · rw [run_bind_of_error (congrArg Outcome.result sent), sent]
    exact .inl (by simp [Event.close?])

theorem fate_closeConnection (usable : s.connection = .open) :
    Fate .closeConnection s ((perform .closeConnection).run s link) := by
  change Fate .closeConnection s (((fun _ => Reply.done) <$> closeConnection).run s link)
  rw [run_map, run_closeConnection usable, run_settle]
  generalize ({ s with connection := .closingLocal } : Session) = s'
  obtain ⟨r, closing⟩ := run_closeRegardless (exchangeCloses.run s' link).result
    (exchangeCloses.run s' link).session (exchangeCloses.run s' link).link
  rcases exchangeCloses_crossed s' link with
    aside | ⟨close, failure, before, t, led, trace, session⟩
  · refine .spared (fun e he m => ?_) (absurd rfl)
    rcases closing with closing | closing <;> rw [closing] at he <;> simp at he
    · simp [aside e he]
    · rcases he with he | rfl
      · simp [aside e he]
      · simp [Event.close?]
  · obtain ⟨e, mem, met⟩ := led.met
    obtain ⟨f, brought, method, id⟩ := exists_arrived_of_close? mem met
    rcases closing with closing | closing <;> rw [closing]
    · exact .struck f close failure before [] t (.inl brought) method id led.asked
        (by simp [trace, Scope.settled]) session (.inl rfl) (absurd rfl)
    · -- the peer's close could not be acknowledged or read, and the connection is shut once more
      exact .struck f close failure before [.shut] _ (.inl brought) method id led.asked
        (by simp [trace, Scope.settled]) rfl (.inr ⟨rfl, rfl⟩) (absurd rfl)

end Close

theorem fate_listening (listens : op.listensOn? = some c) :
    Fate op s ((perform op).run s link) := by
  refine (reading_perform listens).fate_of_rated (fun _ _ => id) (fun acquiring => ?_)
    fun e r _ retold => ⟨_, retold, ?_⟩
  · rw [acquiring] at listens
    cases listens
  · cases op <;> first | rfl | exact SessionError.isFatal_asRejection _ e

theorem fate_closeChannel : Fate (.closeChannel c) s ((perform (.closeChannel c)).run s link) := by
  rw [perform, run_map]
  have reading : Reading c (Operation.closeChannel c).requests Crossed s
      ((closeChannel c).run s link) := reading_closeChannel ⟨rfl, rfl⟩
  have crossed : Reading c (Operation.closeChannel c).requests Crossed s
      (((closeChannel c).run s link).map fun _ => Reply.done) := reading.map fun e r h =>
    h.imp_right fun (passed : r = .error e) => by rw [passed]; rfl
  refine crossed.fate_of_rated (fun _ _ => id) (by simp) fun e r untold h => ?_
  obtain ⟨d, reason, context, told⟩ | passed := h
  · exact absurd told (untold d reason context)
  · exact ⟨e, passed, rfl⟩

theorem fate_bookkeeping (idle : op.task? = none) (acquire : op ≠ .acquire)
    (close : op ≠ .closeConnection) : Fate op s ((perform op).run s link) := by
  obtain ⟨silent, stays⟩ := (course_perform op s link).aside idle acquire close
  exact .aside ⟨by simp [silent], stays⟩

theorem fate_perform (usable : s.connection = .open) (op : Operation) :
    Fate op s ((perform op).run s link) := by
  cases op with
  | acquire => exact fate_acquire
  | check c f context => exact fate_check
  | closeConnection => exact fate_closeConnection usable
  | finishConnection => exact fate_finishConnection
  | next c wait => exact fate_listening rfl
  | call c m expected => exact fate_listening rfl
  | readContent c => exact fate_listening rfl
  | readReturned c m => exact fate_listening rfl
  | closeChannel c => exact fate_closeChannel
  | finishChannel c =>
    rw [perform, run_map]
    exact .aside (finishChannel_aside c s link)
  | release | register | unregister | lookup =>
    exact fate_bookkeeping rfl (by simp) (by simp)

end Session
end Multiplex
