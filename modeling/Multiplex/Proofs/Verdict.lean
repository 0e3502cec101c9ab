import Multiplex.Proofs.Finality
import Multiplex.Proofs.Session.Fate

/-! What it means that an error is fatal. Once the connection is lost nothing more is done for any
channel. A failure of the link is told as fatal too, and after that the session goes on as before,
with the number of a channel that could not be opened up for taking again. -/

namespace Multiplex

/-- Whether an operation is for the user of a channel to go over the link. -/
def Operation.usesLink : Operation → Bool
  | .acquire | .next .. | .call .. | .readContent _ | .readReturned .. | .closeChannel _ => true
  | .release _ | .check .. | .register .. | .unregister _ | .lookup _ | .closeConnection
  | .finishChannel _ | .finishConnection => false

/-- Nothing more is done over the link for any channel, whatever goes before. -/
def Run.Spent (σ : Type) [Link σ] (r : Run) : Prop :=
  ∀ (more : List (Operation × σ)) (op : Operation) (link : σ), op.usesLink →
    let s := (r.performAll more).session
    ∃ e, (Session.perform op).run s link = ⟨.error e, [], s, link⟩

namespace Session

open Multiplex.Action

variable {σ α : Type} {s : Session} {link : σ} {c : ChannelId} {op : Operation} {k : Task}
  {past trace : List Event} {e : SessionError}

variable [Link σ]

theorem honest_perform (uses : op.usesLink)
    (failed : ((perform op).run s link).result = .error e) :
    Honest ((perform op).run s link).trace ((perform op).run s link).session e := by
  have tasked (k : Task) (task : op.task? = some k) :
      Honest ((perform op).run s link).trace ((perform op).run s link).session e :=
    (conduct_perform task).honest e failed
  cases op with
  | acquire =>
    have acquisition := acquisition_perform s link
    generalize (perform .acquire).run s link = o at *
    cases acquisition with
    | refused e honest =>
      obtain ⟨⟩ := failed
      exact honest
    | reused => cases failed
    | reserved c usable unused free =>
      have work := conduct_reserved usable unused free
      exact work.honest e (Outcome.result_of_map_error failed)
  | next | call | readContent | readReturned | closeChannel => exact tasked _ rfl
  | _ => cases uses

theorem refused_of_closed (closed : s.connection = .closed) (uses : op.usesLink) :
    ∃ e, (perform op).run s link = ⟨.error e, [], s, link⟩ := by
  have shut : s.connection ≠ .open := by simp [closed]
  cases op with
  | acquire | next | call | readContent | closeChannel =>
    obtain ⟨e, barred, -⟩ := run_requireOpen_bind_of_not shut _ link
    refine ⟨e, ?_⟩
    rw [perform, run_map]
    exact congrArg (Outcome.map _) barred
  | readReturned c m =>
    obtain ⟨e, barred, -⟩ : ∃ e, (readContent c).run s link = ⟨.error e, [], s, link⟩ ∧ _ :=
      run_requireOpen_bind_of_not shut _ link
    rw [perform, run_map]
    unfold readReturned
    split
    · split
      · rw [run_bind_of_error (congrArg Outcome.result barred), barred]
        exact ⟨e, rfl⟩
      · exact ⟨_, rfl⟩
    · exact ⟨_, rfl⟩
  | _ => cases uses

theorem freed_openOrAbandon (failed : ((openOrAbandon c).run s link).result = .error e)
    (fatal : e.isFatal) :
    ((openOrAbandon c).run s link).session.isOpen c = false ∧
      ∀ m failure, .sent c m failure ∈ ((openOrAbandon c).run s link).trace →
        m.id ≠ .channelClose := by
  have reading : Reading c toOpen Rated s ((openReserved c).run s link) := reading_openReserved
  have unclosing := reading.unclosing (d := c) fun _ => id_ne_of_toOpen
  obtain ⟨-, undone⟩ := run_openOrAbandon_of_error failed
  rw [undone]
  generalize (openReserved c).run s link = o at *
  cases there : o.session.isOpen c with
  | false => simpa [run_abandon_of_closed there] using ⟨there, unclosing⟩
  | true =>
    rw [run_abandon_of_fatal there fatal]
    refine ⟨by simp, fun m failure sent => unclosing m failure ?_⟩
    simpa using sent

theorem connection_perform (unshut : .shut ∉ ((perform op).run s link).trace)
    (other : op ≠ .closeConnection) :
    ((perform op).run s link).session.connection = s.connection := by
  have course := course_perform op s link
  generalize (perform op).run s link = o at *
  cases course with
  | reserved c o usable unused free work =>
    exact work.moves.connection_of_unshut (by simpa using unshut)
  | worked op k o task work => exact work.moves.connection_of_unshut unshut
  | closed => exact absurd rfl other
  | _ => rfl

theorem freed_perform (failed : ((perform op).run s link).result = .error e) (fatal : e.isFatal)
    (taken : .reserved c ∈ ((perform op).run s link).trace) :
    ((perform op).run s link).session.isOpen c = false ∧
      ∀ m failure, .sent c m failure ∈ ((perform op).run s link).trace →
        m.id ≠ .channelClose := by
  by_cases acquiring : op = .acquire
  · subst acquiring
    have acquisition := acquisition_perform s link
    generalize (perform .acquire).run s link = o at *
    cases acquisition with
    | refused | reused => cases taken
    | reserved d usable unused free =>
      have work := conduct_reserved usable unused free
      have own : Event.reserved c = .reserved d :=
        (List.mem_cons.mp taken).resolve_right work.moves.unreserved
      obtain ⟨rfl⟩ := own
      obtain ⟨gone, unclosing⟩ :=
        freed_openOrAbandon (Outcome.result_of_map_error failed) fatal
      exact ⟨gone, fun m failure sent => unclosing m failure (by simpa using sent)⟩
  · have course := course_perform op s link
    generalize (perform op).run s link = o at *
    cases course with
    | reserved => exact absurd rfl acquiring
    | worked op k o task work => exact absurd taken work.moves.unreserved
    | closed o usable work => exact absurd taken work.unreserved
    | _ => cases taken

end Session

namespace Run

variable {σ : Type} [Link σ] {r : Run}

theorem spent_iff_closed (sound : r.session.Sound)
    (either : r.session.connection = .open ∨ r.session.connection = .closed) (link : σ) :
    r.Spent σ ↔ r.session.connection = .closed := by
  constructor
  · intro spent
    refine either.resolve_left fun usable => ?_
    obtain ⟨e, refused⟩ := spent [] (.call .connection .connectionCloseOk []) link rfl
    obtain ⟨failure, rest, sent⟩ :=
      Session.trace_call usable sound.control .connectionCloseOk [] link
    have trace := congrArg Outcome.trace refused
    rw [Session.perform, Action.run_map, Outcome.trace_map] at trace
    cases sent.symm.trans trace
  · intro closed more op link uses
    exact Session.refused_of_closed (closed_performAll closed more) uses

/-- A fatal error is final unless it tells of a failure of the link, the connection not having been
closed before it. Then the connection is open still. In any case the number of a channel that could
not be opened goes back without a close. -/
theorem spent_iff (settings : Settings) (calls : List (Operation × σ)) {op : Operation} {link : σ}
    {e : SessionError} (uses : op.usesLink)
    (failed : ((Session.perform op).run
      ((start settings).performAll calls).session link).result = .error e)
    (fatal : e.isFatal) :
    let before := (start settings).performAll calls
    let o := (Session.perform op).run before.session link
    let r := before.perform op link
    (r.Spent σ ↔ (∀ context cause, e ≠ .link context cause) ∨ .shut ∈ o.trace) ∧
    (r.Spent σ ∨ r.session.connection = .open ∧ ∃ x ∈ o.trace, x.fails) ∧
    ∀ c, .reserved c ∈ o.trace →
      r.session.isOpen c = false ∧
      ∀ m failure, .sent c m failure ∈ o.trace → m.id ≠ .channelClose := by
  intro before o r
  have run : r = (start settings).performAll (calls ++ [(op, link)]) := by
    rw [performAll_append]
    rfl
  have sound : r.session.Sound := run ▸ inOrder_performAll settings _
  have either : r.session.connection = .open ∨ r.session.connection = .closed :=
    run ▸ connection_performAll settings _
  have honest : Session.Honest o.trace r.session e := Session.honest_perform uses failed
  rw [spent_iff_closed sound either link]
  refine ⟨⟨fun closed => ?_, ?_⟩, ?_, fun c => Session.freed_perform failed fatal⟩
  · by_cases shut : .shut ∈ o.trace
    · exact .inr shut
    have stays : r.session.connection = before.session.connection :=
      Session.connection_perform shut (by rintro rfl; cases uses)
    obtain ⟨e', refused⟩ : ∃ e', o = ⟨.error e', [], before.session, link⟩ :=
      Session.refused_of_closed (stays.symm.trans closed) uses
    -- nothing was done, so that no link can have failed
    refine .inl fun context cause same => ?_
    obtain ⟨x, mem, -⟩ : ∃ x ∈ o.trace, x.fails := by
      rw [same] at honest
      exact honest
    simp [refused] at mem
  · rintro (other | shut)
    · cases e with
      | link context cause => exact absurd rfl (other context cause)
      | connectionClosing => exact either.resolve_left honest
      | connectionClosedByPeer | connectionRejected | connectionClosed => exact honest
      | _ => cases fatal
    · exact (Session.course_perform op before.session link).closed_of_shut shut
  · rcases either with usable | closed
    · refine .inr ⟨usable, (honest.fatal fatal).resolve_left (not_not_intro usable)⟩
    · exact .inl closed

/-- The broker agrees to everything and has one channel, but the wait for its first answer is given
up. -/
def impatient : Loopback :=
  { Loopback.start 1 with
    incoming := [.failed (.socket (.io ⟨.timedOut, "timed out"⟩))]
    replies := Loopback.agreeable }

theorem spent_impatient :
    let e := .link "pull frame" (.socket (.io ⟨.timedOut, "timed out"⟩))
    ((Session.perform .acquire).run (start .standard).session impatient).result = .error e ∧
      e.isFatal ∧ ¬ ((start .standard).perform .acquire impatient).Spent Loopback := by
  intro e
  have failed : ((Session.perform .acquire).run
      ((start .standard).performAll ([] : List (Operation × Loopback))).session impatient).result =
        .error e := by decide +kernel
  obtain ⟨final, -, -⟩ := spent_iff .standard [] rfl failed rfl
  refine ⟨failed, rfl, fun spent => ?_⟩
  rcases final.mp spent with other | shut
  · exact other _ _ rfl
  · revert shut
    decide +kernel

theorem reopened_impatient :
    let o := (Session.perform .acquire).run (start .standard).session impatient
    let again := (Session.perform .acquire).run o.session o.link
    let e := .link "pull frame" (.socket (.io ⟨.timedOut, "timed out"⟩))
    o.result = .error e ∧ e.isFatal ∧
    o.trace = [.reserved 1, .sent 1 .channelOpen none,
      .pulled 1 none (.failed (.socket (.io ⟨.timedOut, "timed out"⟩))), .abandoned 1] ∧
    again.result = .ok (.channel 1) ∧ .sent 1 .channelOpen none ∈ again.trace := by
  decide +kernel

end Run
end Multiplex
