import Multiplex.Link.Loopback
import Multiplex.Proofs.Bookkeeping
import Multiplex.Proofs.Session.Waiting

/-! Operations that are turned away. An error that says so comes from a check made before anything
was done: what an operation meets once it has been let in is told by other errors. -/

namespace Multiplex

/-- Whether an operation is turned away with this. -/
def SessionError.rejects : SessionError → Bool
  | tooManyChannels _ | channelNotFound _ | invalidChannel _ | alreadyReleased _ | tagNotFound _
  | duplicateTag _ | connectionClosed | connectionClosing => true
  | link .. | channelClosedByPeer .. | connectionClosedByPeer .. | serverRejected ..
  | connectionRejected .. | unexpectedFrame .. | unexpectedMethod .. | bodyOverflow ..
  | emptyReply .. | malformedMethod .. | bufferFull _ | messageReturned _ | lockPoisoned => false

@[simp] theorem SessionError.rejects_asRejection (context : String) (e : SessionError) :
    (e.asRejection context).rejects = e.rejects := by
  cases e <;> rfl

@[simp] theorem Scope.rejects_error (x : Scope) (context : String) (close : Method)
    (failure : Option LinkError) : (x.error context close failure).rejects = false := by
  cases failure with
  | some cause => rfl
  | none =>
    unfold Scope.error
    cases CloseReason.decode close.args with
    | error cause => rfl
    | ok reason => cases x <;> rfl

theorem Setback.rejects {c : ChannelId} {wait : Timeout} {last : List Event} {e : SessionError}
    (h : Setback c wait last e) : e.rejects = false := by
  cases h <;> rfl

namespace Session

open Multiplex.Action

variable {σ α β : Type} {s t : Session} {link : σ} {c : ChannelId} {f : Frame} {m : Method}
  {context : String}

/-- An operation was let in: whatever it fails with, it was not turned away. -/
def Admitted (o : Outcome σ α) : Prop := ∀ e, o.result = .error e → e.rejects = false

/-- An operation was let in, or it failed with nothing done. -/
def Screened (s : Session) (link : σ) (o : Outcome σ α) : Prop :=
  Admitted o ∨ ∃ e, o = ⟨.error e, [], s, link⟩

section Rules

variable {x : Action σ α} {trace : List Event}

theorem admitted_ok {a : α} : Admitted (⟨.ok a, trace, t, link⟩ : Outcome σ α) := by
  simp [Admitted]

theorem admitted_error {e : SessionError} (h : e.rejects = false) :
    Admitted (⟨.error e, trace, t, link⟩ : Outcome σ α) := by
  rintro _ ⟨⟩
  exact h

theorem Admitted.after {o : Outcome σ α} (h : Admitted o) : Admitted (o.after trace) := h

theorem Admitted.settle {next : Except SessionError α → Action σ β}
    (second : ∀ r, (x.run s link).result = r →
      Admitted ((next r).run (x.run s link).session (x.run s link).link)) :
    Admitted ((x.settle next).run s link) :=
  (second _ rfl).after

theorem Admitted.bind {next : α → Action σ β} (first : Admitted (x.run s link))
    (second : ∀ a, (x.run s link).result = .ok a →
      Admitted ((next a).run (x.run s link).session (x.run s link).link)) :
    Admitted ((x >>= next).run s link) := by
  change Admitted ((x.andThen next).run s link)
  unfold andThen
  refine settle fun r answer => ?_
  cases r with
  | ok a => exact second a answer
  | error e => exact admitted_error (first e answer)

theorem Admitted.map {o : Outcome σ α} (h : Admitted o) (g : α → β) : Admitted (o.map g) :=
  fun e failed => h e (Outcome.result_of_map_error failed)

theorem Admitted.screened {o : Outcome σ α} (h : Admitted o) : Screened s link o := .inl h

theorem screened_of_refused {e : SessionError} :
    Screened s link (⟨.error e, [], s, link⟩ : Outcome σ α) := .inr ⟨e, rfl⟩

theorem Screened.map {o : Outcome σ α} (h : Screened s link o) (g : α → β) :
    Screened s link (o.map g) := by
  rcases h with admitted | ⟨e, rfl⟩
  · exact (admitted.map g).screened
  · exact screened_of_refused

theorem Screened.bind {next : α → Action σ β} (first : Screened s link (x.run s link))
    (second : ∀ a, (x.run s link).result = .ok a →
      Admitted ((next a).run (x.run s link).session (x.run s link).link)) :
    Screened s link ((x >>= next).run s link) := by
  rcases first with admitted | ⟨e, refused⟩
  · exact (admitted.bind second).screened
  · rw [run_bind_of_error (congrArg Outcome.result refused), refused]
    exact screened_of_refused

theorem Screened.gated {next : Unit → Action σ β}
    (inside : s.connection = .open → Screened s link ((next ()).run s link)) :
    Screened s link ((requireOpen >>= next).run s link) := by
  by_cases usable : s.connection = .open
  · rw [run_requireOpen_bind usable]
    exact inside usable
  · obtain ⟨e, barred, -⟩ := run_requireOpen_bind_of_not usable next link
    rw [barred]
    exact screened_of_refused

end Rules

theorem Receipt.admitted {wait : Timeout} {o : Outcome σ (Option Frame)}
    (h : Receipt c wait s o) : Admitted o := by
  cases h with
  | frame | nothing | late => exact admitted_ok
  | setback e before last t link incoming opened stays because =>
    exact admitted_error because.rejects
  | closed x close failure => exact admitted_error (x.rejects_error _ close failure)

theorem Gathering.admitted {step : β → Frame → Step β α} {o : Outcome σ α}
    (h : Gathering c context step s o)
    (gives_up : ∀ b f e, step b f = .failed e → e.rejects = false) : Admitted o := by
  cases h with
  | got => exact admitted_ok
  | gaveUp f b e before t link incoming took => exact admitted_error (gives_up b f e took)
  | nothing => exact admitted_error rfl
  | setback e before last t link incoming opened stays because =>
    exact admitted_error because.rejects
  | closed x close failure => exact admitted_error (x.rejects_error _ close failure)

variable [Link σ]

theorem admitted_send : Admitted ((send c m context).run s link) := by
  rcases run_send c m context s link with ⟨link', sent⟩ | ⟨failure, link', sent⟩ <;> rw [sent]
  · exact admitted_ok
  · exact admitted_error rfl

section Waiting

theorem collect_of_closed {step : β → Frame → Step β α} {b : β} (closed : s.isOpen c = false) :
    collect c context step b s link = ⟨.error (.channelNotFound c), [], s, link⟩ := by
  rw [collect_eq, run_nextFrame_of_closed closed]

theorem screened_nextFrame {wait : Timeout} :
    Screened s link ((nextFrame c wait).run s link) := by
  cases opened : s.isOpen c with
  | true => exact (receipt_nextFrame opened).admitted.screened
  | false =>
    rw [run_nextFrame_of_closed opened]
    exact screened_of_refused

theorem rejects_of_takeReply {policy : UnexpectedReply} {expected : List MethodId} {b : Unit}
    {e : SessionError} (h : takeReply policy c context expected b f = .failed e) :
    e.rejects = false := by
  unfold takeReply at h
  grind [SessionError.rejects]

theorem rejects_of_takeContent {b : Assembly} {e : SessionError}
    (h : takeContent c b f = .failed e) : e.rejects = false := by
  unfold takeContent at h
  grind [SessionError.rejects]

theorem admitted_call {expected : List MethodId} (usable : s.connection = .open)
    (opened : s.isOpen c) : Admitted ((call c m expected).run s link) := by
  rw [run_call usable opened]
  rcases run_send c m m.id.name s link with ⟨link', sent⟩ | ⟨failure, link', sent⟩
  · rw [run_bind_of_ok (congrArg Outcome.result sent), sent]
    refine Admitted.after (Admitted.settle fun r answer => ?_)
    cases r with
    | ok reply => exact admitted_ok
    | error e =>
      have replied : Admitted ((awaitReply c m.id.name expected).run s link') :=
        (gathering_collect opened).admitted fun _ _ _ => rejects_of_takeReply
      exact admitted_error ((SessionError.rejects_asRejection _ e).trans (replied e answer))
  · rw [run_bind_of_error (congrArg Outcome.result sent), sent]
    exact admitted_error rfl

theorem screened_call {expected : List MethodId} :
    Screened s link ((call c m expected).run s link) := by
  by_cases usable : s.connection = .open
  · cases opened : s.isOpen c with
    | true => exact (admitted_call usable opened).screened
    | false =>
      rw [call, run_requireOpen_bind usable, run_session_bind, if_neg (by simp [opened])]
      exact screened_of_refused
  · exact .gated fun open_still => absurd open_still usable

theorem screened_readContent : Screened s link ((readContent c).run s link) := by
  refine .gated fun _ => ?_
  dsimp only
  cases opened : s.isOpen c with
  | true =>
    exact ((gathering_collect opened).admitted fun _ _ _ => rejects_of_takeContent).screened
  | false =>
    rw [collect_of_closed opened]
    exact screened_of_refused

theorem screened_readReturned : Screened s link ((readReturned c m).run s link) := by
  unfold readReturned
  split
  · split
    · exact screened_readContent.bind fun _ _ => admitted_ok
    · exact screened_of_refused
  · exact screened_of_refused

end Waiting

section Close

theorem screened_finishChannel : Screened s link ((finishChannel c).run s link) := by
  by_cases nonzero : c = .connection
  · rw [finishChannel, run_session_bind, if_pos nonzero]
    exact screened_of_refused
  cases opened : s.isOpen c with
  | true =>
    rw [run_finishChannel nonzero opened]
    exact admitted_send.after.screened
  | false =>
    rw [finishChannel, run_session_bind, if_neg nonzero, if_neg (by simp [opened])]
    exact screened_of_refused

theorem screened_finishConnection :
    Screened s link ((finishConnection : Action σ Unit).run s link) := by
  by_cases closed : s.connection = .closed
  · rw [finishConnection, run_session_bind, if_pos closed]
    exact screened_of_refused
  · rw [run_finishConnection closed]
    exact admitted_send.after.screened

theorem screened_closedChannel :
    Screened s link ((closedChannel c m context : Action σ α).run s link) := by
  refine screened_finishChannel.bind fun _ _ => ?_
  cases CloseReason.decode m.args <;> exact admitted_error rfl

theorem screened_checkFrame : Screened s link ((checkFrame c f context).run s link) := by
  cases closing : f.closing? c with
  | none =>
    rw [run_checkFrame_of_none closing]
    exact admitted_ok.screened
  | some p =>
    obtain ⟨x, m⟩ := p
    cases x with
    | channel d =>
      rw [(checkFrame_of_channel closing).2.2]
      exact screened_closedChannel
    | connection =>
      obtain ⟨failure, link', settles⟩ := closedConnection_settles (α := Frame) m context s link
      rw [checkFrame_of_connection closing, settles]
      exact (admitted_error (Scope.rejects_error ..)).screened

theorem screened_closeChannel : Screened s link ((closeChannel c).run s link) := by
  unfold closeChannel
  refine .gated fun _ => ?_
  rw [run_session_bind]
  split
  · exact screened_of_refused
  split
  · rename_i opened
    rcases run_send c (.channelClose .normal) "channel.close" s link with
      ⟨link', sent⟩ | ⟨failure, link', sent⟩
    · rw [run_bind_of_ok (congrArg Outcome.result sent), sent]
      have answered : Admitted ((awaitChannelCloseOk c).run s link') :=
        (gathering_collect opened).admitted fun _ _ _ took => absurd took dropUntil_ne_failed
      refine (Admitted.after (Admitted.settle fun r answer => ?_)).screened
      split
      · exact admitted_ok
      · split
        · exact admitted_ok
        · exact admitted_error rfl
      · exact admitted_error (answered _ answer)
    · rw [run_bind_of_error (congrArg Outcome.result sent), sent]
      exact (admitted_error rfl).screened
  · exact screened_of_refused

theorem admitted_exchangeCloses (control : s.isOpen .connection) :
    Admitted ((exchangeCloses : Action σ Unit).run s link) := by
  unfold exchangeCloses
  rcases run_send .connection (.connectionClose .normal) "connection.close" s link with
    ⟨link', sent⟩ | ⟨failure, link', sent⟩
  · rw [run_bind_of_ok (congrArg Outcome.result sent), sent]
    have answered : Admitted ((awaitConnectionCloseOk : Action σ Unit).run s link') :=
      (gathering_collect control).admitted fun _ _ _ took => absurd took dropUntil_ne_failed
    exact (answered.bind fun _ _ => admitted_ok).after
  · rw [run_bind_of_error (congrArg Outcome.result sent), sent]
    exact admitted_error rfl

theorem screened_closeConnection (control : s.isOpen .connection) :
    Screened s link ((closeConnection : Action σ Unit).run s link) := by
  unfold closeConnection
  refine .gated fun _ => ?_
  rw [run_change_bind, Outcome.after_nil]
  have closing : ({ s with connection := .closingLocal } : Session).isOpen .connection := control
  have exchanged : Admitted ((exchangeCloses : Action σ Unit).run _ link) :=
    admitted_exchangeCloses closing
  refine (Admitted.settle fun r answer => ?_).screened
  unfold closeRegardless
  split
  · exact admitted_ok
  · exact admitted_ok
  · exact admitted_error (exchanged _ answer)

end Close

section Acquire

/-- A channel that has just been reserved is there to be opened, and stays so as long as the broker
agrees. -/
theorem admitted_openReserved (usable : s.connection = .open) (opened : s.isOpen c) :
    Admitted ((openReserved c).run s link) := by
  unfold openReserved
  refine (admitted_call usable opened).bind fun reply answer => ?_
  have opened : ((call c .channelOpen [.channelOpenOk]).run s link).session.isOpen c :=
    isOpen_of_call answer
  have usable : ((call c .channelOpen [.channelOpenOk]).run s link).session.connection = .open := by
    have reading : Reading c (fun _ _ => True) (Rejected Method.channelOpen.id.name) s
        ((call c .channelOpen [.channelOpenOk]).run s link) := reading_call trivial
    cases reading with
    | undisturbed calm stays => exact stays.trans usable
    | ended x close failure before t reach led stays trace session reported =>
      rw [answer] at reported
      cases reported
  rw [run_session_bind]
  split
  · exact (admitted_call usable opened).bind fun _ _ => admitted_ok
  · exact admitted_ok

theorem admitted_abandon {cause : SessionError} : Admitted ((abandon c cause).run s link) := by
  unfold abandon
  rw [run_session_bind]
  split
  · split
    · exact admitted_ok
    · exact .settle fun _ _ => admitted_ok
  · exact admitted_ok

theorem admitted_openOrAbandon (usable : s.connection = .open) (opened : s.isOpen c) :
    Admitted ((openOrAbandon c).run s link) := by
  unfold openOrAbandon
  refine .settle fun r answer => ?_
  cases r with
  | ok _ => exact admitted_ok
  | error e =>
    exact admitted_abandon.bind fun _ _ =>
      admitted_error (admitted_openReserved usable opened e answer)

theorem screened_acquire : Screened s link ((perform .acquire).run s link) := by
  have acquisition := acquisition_perform s link
  generalize (perform .acquire).run s link = o at *
  cases acquisition with
  | refused => exact screened_of_refused
  | reused => exact admitted_ok.screened
  | reserved c usable =>
    have opened : (s.hold c).isOpen c := by simp
    have admitted : Admitted ((openOrAbandon c).run (s.hold c) link) :=
      admitted_openOrAbandon usable opened
    exact (admitted.map Reply.channel).after.screened

theorem screened_release : Screened s link ((release c : Action σ Unit).run s link) := by
  simp only [release]
  split
  · exact screened_of_refused
  split
  · exact screened_of_refused
  split
  · exact screened_of_refused
  · exact admitted_ok.screened

end Acquire

section Registry

variable {tag : String}

omit [Link σ] in
theorem screened_register : Screened s link ((register tag c : Action σ Unit).run s link) := by
  simp only [register]
  split
  · exact admitted_ok.screened
  · exact screened_of_refused

omit [Link σ] in
theorem screened_unregister :
    Screened s link ((unregister tag : Action σ ChannelId).run s link) := by
  simp only [unregister]
  split
  · exact admitted_ok.screened
  · exact screened_of_refused

omit [Link σ] in
theorem screened_ofExcept {r : Except SessionError α} :
    Screened s link ((ofExcept r : Action σ α).run s link) := by
  cases r with
  | ok a => exact admitted_ok.screened
  | error e => exact screened_of_refused

end Registry

/-- Every operation makes its checks before it does anything. -/
theorem screened_perform (control : s.isOpen .connection) (op : Operation) (link : σ) :
    Screened s link ((perform op).run s link) := by
  cases op with
  | acquire => exact screened_acquire
  | release c =>
    rw [perform, run_map]
    exact screened_release.map _
  | next c wait =>
    rw [perform, run_map]
    exact (Screened.gated fun _ => screened_nextFrame).map _
  | call c m expected =>
    rw [perform, run_map]
    exact screened_call.map _
  | readContent c =>
    rw [perform, run_map]
    exact screened_readContent.map _
  | readReturned c m =>
    rw [perform, run_map]
    exact screened_readReturned.map _
  | check c f context =>
    rw [perform, run_map]
    exact screened_checkFrame.map _
  | register tag c =>
    rw [perform, run_map]
    exact screened_register.map _
  | unregister tag =>
    rw [perform, run_map]
    exact screened_unregister.map _
  | lookup tag =>
    rw [perform, run_session_bind, run_map]
    exact screened_ofExcept.map _
  | closeChannel c =>
    rw [perform, run_map]
    exact screened_closeChannel.map _
  | closeConnection =>
    rw [perform, run_map]
    exact (screened_closeConnection control).map _
  | finishChannel c =>
    rw [perform, run_map]
    exact screened_finishChannel.map _
  | finishConnection =>
    rw [perform, run_map]
    exact screened_finishConnection.map _

end Session

namespace Run

variable {σ : Type} [Link σ]

/-- An operation that is turned away, after whatever run, has sent nothing, pulled nothing and
changed nothing. -/
theorem unchanged_of_rejects (settings : Settings) (calls : List (Operation × σ)) {op : Operation}
    {link : σ} {e : SessionError}
    (failed : ((Session.perform op).run
      ((start settings).performAll calls).session link).result = .error e)
    (rejects : e.rejects) :
    let s := ((start settings).performAll calls).session
    (Session.perform op).run s link = ⟨.error e, [], s, link⟩ := by
  intro s
  have control : s.isOpen .connection := (inOrder_performAll settings calls).control
  rcases Session.screened_perform control op link with admitted | ⟨e', refused⟩
  · simp [admitted e failed] at rejects
  · rw [refused] at failed
    obtain ⟨⟩ := failed
    exact refused

/-- The only channel there is has a frame parked and is taken when another is asked for. -/
def taken : List (Operation × Loopback) :=
  [(.acquire, { Loopback.start 1 with replies := Loopback.agreeable }),
   (.next 0 (some 0), (Loopback.start 1).push [.frame ⟨1, .body [7]⟩])]

theorem unchanged_taken :
    let s := ((start .standard).performAll taken).session
    let link := { (Loopback.start 1).push [.frame ⟨1, .body [8]⟩] with
      replies := Loopback.agreeable }
    (s.queue 1).toList = [⟨1, .body [7]⟩] ∧ (SessionError.tooManyChannels 1).rejects ∧
    (Session.perform .acquire).run s link = ⟨.error (.tooManyChannels 1), [], s, link⟩ := by
  intro s link
  have failed : ((Session.perform .acquire).run s link).result = .error (.tooManyChannels 1) := by
    decide +kernel
  exact ⟨by decide +kernel, rfl, unchanged_of_rejects .standard taken failed rfl⟩

end Run
end Multiplex
