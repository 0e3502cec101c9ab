import Multiplex.Link.Loopback
import Multiplex.Proofs.Interruption
import Multiplex.Proofs.Isolation

/-! What becomes of a number whose opening failed. It is free again unless the peer may still hold
the channel open, which is so when closing it came to nothing either. Then the number is kept back:
nobody is handed it before somebody has worked on it by name. -/

namespace Multiplex

/-- A close of the channel reached its reader. -/
def ClosedByPeer (c : ChannelId) (trace : List Event) : Prop :=
  ∃ f, Consumed c f trace ∧ f.isMethod .channelClose

/-- The channel that an operation is told to work on. -/
def Operation.named? : Operation → Option ChannelId
  | .release c | .next c _ | .call c _ _ | .readContent c | .readReturned c _ | .check c _ _
  | .register _ c | .closeChannel c | .finishChannel c => some c
  | .acquire | .unregister _ | .lookup _ | .closeConnection | .finishConnection => none

theorem Operation.named?_of_task? {op : Operation} {k : Session.Task} (task : op.task? = some k) :
    op.named? = some k.channel ∨ k.channel = .connection := by
  cases op with
  | finishConnection =>
    obtain ⟨⟩ := task
    exact .inr rfl
  | acquire | release | register | unregister | lookup | closeConnection => cases task
  | _ =>
    obtain ⟨⟩ := task
    exact .inl rfl

section ClosedByPeer

variable {c d : ChannelId} {f : Frame} {m : Method} {trace : List Event} {e : Event}

theorem Frame.isMethod_of_closing? (closing : f.closing? c = some (.channel d, m)) :
    d = c ∧ c ≠ .connection ∧ f.isMethod .channelClose := by
  unfold closing? at closing
  unfold isMethod methodId?
  grind

theorem closedByPeer_of_close? (mem : e ∈ trace) (met : e.close? = some (.channel c, m)) :
    ClosedByPeer c trace := by
  cases e with
  | delivered d f =>
    obtain ⟨rfl, -, close⟩ := Frame.isMethod_of_closing? met
    exact ⟨f, .inl mem, close⟩
  | pulled reader wait answer =>
    cases answer with
    | frame f =>
      rw [Event.close?] at met
      split at met
      · rename_i near
        obtain ⟨own, nonzero, close⟩ := Frame.isMethod_of_closing? met
        have here : f.channel = reader := near.resolve_right nonzero
        exact ⟨f, .inr ⟨own.symm, wait, own ▸ here ▸ mem⟩, close⟩
      · cases met
    | _ => cases met
  | _ => cases met

theorem exists_close?_of_closedByPeer (nonzero : c ≠ .connection) (closed : ClosedByPeer c trace) :
    ∃ e ∈ trace, ∃ m, e.close? = some (.channel c, m) := by
  obtain ⟨f, consumed, close⟩ := closed
  obtain ⟨m, method, id⟩ : ∃ m, f.method? = some m ∧ m.id = .channelClose := by
    simpa [Frame.isMethod, Frame.methodId?] using close
  obtain ⟨e, mem, met⟩ := exists_close?_of_consumed consumed method id nonzero
  exact ⟨e, mem, m, met⟩

end ClosedByPeer

namespace Session

open Multiplex.Action

variable {σ α : Type} {s t : Session} {link : σ} {c : ChannelId} {k : Task} {op : Operation}
  {max : ChannelId} {trace : List Event} {e : SessionError}

/-- A reader of a channel whose connection lasts met no close, or lost the channel to one. -/
theorem Reading.calm_or_closed {asks : ChannelId → Method → Prop}
    {reports : SessionError → Except SessionError α → Prop} {o : Outcome σ α}
    (h : Reading c asks reports s o) (usable : o.session.connection = .open)
    (nonzero : c ≠ .connection) :
    (∀ e ∈ o.trace, e.Calm asks) ∧ ¬ ClosedByPeer c o.trace ∨
      ClosedByPeer c o.trace ∧ o.session.isOpen c = false := by
  cases h with
  | undisturbed calm =>
    refine .inl ⟨calm, fun closed => ?_⟩
    obtain ⟨e, mem, m, met⟩ := exists_close?_of_closedByPeer nonzero closed
    simp [(calm e mem).1] at met
  | ended x close failure before t reach led stays trace session =>
    rcases reach with rfl | ⟨rfl, -⟩
    · rw [session] at usable
      cases usable
    · obtain ⟨e, mem, met⟩ := led.met
      refine .inr ⟨closedByPeer_of_close? (trace ▸ List.mem_append_left _ mem) met, ?_⟩
      simp [session, Scope.erase]

theorem Moves.isOpen_of_unclosed (h : Moves k [] s trace t) (usable : t.connection = .open)
    (unclosed : ∀ d m failure, .sent d m failure ∈ trace →
      m.id ≠ .channelClose ∧ m.id ≠ .channelCloseOk)
    (opened : s.isOpen c) : t.isOpen c := by
  induction h with
  | none => exact opened
  | snoc before move ih =>
    rename_i trace events t u
    have stays := move.connection.resolve_right fun bare => by simp [bare.closed] at usable
    have opened := ih (stays.symm.trans usable) fun d m failure sent =>
      unclosed d m failure (List.mem_append_left _ sent)
    refine move.isOpen opened ?_
    cases move with
    | acknowledge failure =>
      exact absurd rfl (unclosed k.channel .channelCloseOk failure (by simp)).2
    | conclude nonzero there asked =>
      exact absurd rfl (unclosed _ _ _ (List.mem_append_left _ asked)).1
    | abandon nonzero there unused failed taken => exact absurd taken before.unreserved
    | shut | surrender => cases usable
    | _ => simp [Event.ends]

section Withheld

/-- The number is taken, and by nobody who could be handed it. -/
structure Withheld (c : ChannelId) (s : Session) : Prop where
  busy : c ∉ s.pool
  taken : s.connection = .open → s.isOpen c

theorem Withheld.course {o : Outcome σ Reply} (h : Withheld c s) (positive : max ≠ 0)
    (nonzero : c ≠ .connection) (course : Course max s op o) (unnamed : op.named? ≠ some c) :
    Withheld c o.session where
  busy idle := by
    rcases course.pool idle with before | ⟨rfl, -⟩
    · exact h.busy before
    · exact unnamed rfl
  taken usable := by
    have opened : s.isOpen c := by
      refine h.taken (course.connection.elim (·.symm.trans usable) fun closed => ?_)
      simp [closed] at usable
    cases course with
    | reserved d o begun unused free work =>
      have other : c ≠ d := by
        rintro rfl
        simp [(reservable_eq_some positive free).2.1] at opened
      have held : (s.hold d).isOpen c := by simp [opened]
      exact (Apart.moves work.moves usable other nonzero).isOpen ▸ held
    | worked op k o task work =>
      have other : c ≠ k.channel := by
        rintro rfl
        exact (Operation.named?_of_task? task).elim unnamed nonzero
      rw [(Apart.moves work.moves usable other nonzero).isOpen]
      exact opened
    | closed o begun work shut => simp [shut] at usable
    | _ => exact opened

theorem Withheld.ne_acquired {o : Outcome σ Reply} (h : Withheld c s) (positive : max ≠ 0)
    (course : Course max s .acquire o) : o.result ≠ .ok (.channel c) := by
  intro got
  cases course with
  | refused => cases got
  | reused d idle link usable pooled =>
    obtain rfl : d = c := by simpa using got
    exact h.busy (pooled ▸ .head _)
  | reserved d o usable unused free work ready =>
    obtain ⟨same, -⟩ := ready _ got
    obtain rfl : c = d := Reply.channel.inj same
    have opened := h.taken usable
    simp [(reservable_eq_some positive free).2.1] at opened
  | worked op k o task => cases task

end Withheld

variable [Link σ]

theorem isOpen_openReserved (nonzero : c ≠ .connection) (opened : s.isOpen c)
    (usable : ((openReserved c).run s link).session.connection = .open) :
    ((openReserved c).run s link).session.isOpen c ↔
      ¬ ClosedByPeer c ((openReserved c).run s link).trace := by
  have reading : Reading c toOpen Rated s ((openReserved c).run s link) := reading_openReserved
  have work : Conduct ⟨c, fun _ => toOpen c⟩ [] s ((openReserved c).run s link) :=
    conduct_openReserved (.inl rfl) fun _ => .inr rfl
  generalize (openReserved c).run s link = o at *
  rcases reading.calm_or_closed usable nonzero with ⟨calm, unclosed⟩ | ⟨closed, gone⟩
  · have unclosing : ∀ d m failure, .sent d m failure ∈ o.trace →
        m.id ≠ .channelClose ∧ m.id ≠ .channelCloseOk := by
      intro d m failure sent
      rcases (calm _ sent).2 d m failure rfl with rfl | rfl <;> decide
    exact iff_of_true (work.moves.isOpen_of_unclosed usable unclosing opened) unclosed
  · simp [closed, gone]

/-- Closing leaves a channel open when it fails, unless what it met was the peer's own close. -/
theorem isOpen_closeChannel (begun : s.connection = .open) (nonzero : c ≠ .connection)
    (opened : s.isOpen c)
    (usable : ((closeChannel c).run s link).session.connection = .open) :
    ((closeChannel c).run s link).session.isOpen c ↔
      (∃ e, ((closeChannel c).run s link).result = .error e) ∧
        ¬ ClosedByPeer c ((closeChannel c).run s link).trace := by
  have reading : Reading c (fun _ m => m = .channelClose .normal) Crossed s
      ((closeChannel c).run s link) := reading_closeChannel rfl
  have handshake := handshake_closeChannel begun nonzero opened link
  generalize (closeChannel c).run s link = o at *
  rcases reading.calm_or_closed usable nonzero with ⟨calm, unclosed⟩ | ⟨closed, gone⟩
  · cases handshake with
    | unsent failure link => exact iff_of_true opened ⟨⟨_, rfl⟩, unclosed⟩
    | answered => simp
    | crossed r x failure waited t link incoming reach =>
      rcases reach with rfl | ⟨rfl, -⟩
      · cases usable
      · -- the peer's close would have been acknowledged
        have acknowledged := calm (.sent c .channelCloseOk failure) (by simp [Scope.settled])
        exact absurd (acknowledged.2 _ _ _ rfl)
          (by decide : Method.channelCloseOk ≠ .channelClose .normal)
    | interrupted e waited t link unsent broken_off opened =>
      exact iff_of_true opened ⟨⟨_, rfl⟩, unclosed⟩
  · simp [closed, gone]

theorem isOpen_abandon (begun : s.connection = .open) (nonzero : c ≠ .connection)
    (usable : ((abandon c e).run s link).session.connection = .open) :
    let closing := (closeChannel c).run s link
    (e.isFatal = false → s.isOpen c → ((abandon c e).run s link).trace = closing.trace ∧
      ((abandon c e).run s link).session = closing.session) ∧
    (((abandon c e).run s link).session.isOpen c ↔ e.isFatal = false ∧ s.isOpen c ∧
      (∃ e', closing.result = .error e') ∧ ¬ ClosedByPeer c closing.trace) := by
  cases opened : s.isOpen c with
  | false => simp [run_abandon_of_closed opened, opened]
  | true =>
    cases fatal : e.isFatal with
    | true => simp [run_abandon_of_fatal opened fatal]
    | false =>
      rw [run_abandon_of_spared begun opened fatal] at usable ⊢
      simpa using isOpen_closeChannel begun nonzero opened usable

theorem connection_abandon (usable : ((abandon c e).run s link).session.connection = .open) :
    s.connection = .open := by
  by_contra shut
  unfold abandon at usable
  rw [run_session_bind] at usable
  split at usable
  · rw [if_pos (.inr shut)] at usable
    exact shut usable
  · exact shut usable

theorem isOpen_openOrAbandon (nonzero : c ≠ .connection) (opened : s.isOpen c)
    (failed : ((openOrAbandon c).run s link).result = .error e)
    (spared : ((openOrAbandon c).run s link).session.connection = .open) :
    let opening := (openReserved c).run s link
    let closing := (closeChannel c).run opening.session opening.link
    opening.result = .error e ∧
    (e.isFatal = false → ¬ ClosedByPeer c opening.trace →
      ((openOrAbandon c).run s link).trace = opening.trace ++ closing.trace ∧
      ((openOrAbandon c).run s link).session = closing.session) ∧
    (((openOrAbandon c).run s link).session.isOpen c ↔ e.isFatal = false ∧
      ¬ ClosedByPeer c opening.trace ∧ (∃ e', closing.result = .error e') ∧
      ¬ ClosedByPeer c closing.trace) := by
  intro opening closing
  obtain ⟨unopened, undone⟩ := run_openOrAbandon_of_error failed
  rw [undone] at spared ⊢
  have usable : opening.session.connection = .open := connection_abandon spared
  obtain ⟨closes, left⟩ := isOpen_abandon usable nonzero spared
  rw [isOpen_openReserved nonzero opened usable] at closes left
  refine ⟨unopened, fun lasting unclosed => ?_, left⟩
  obtain ⟨trace, session⟩ := closes lasting unclosed
  exact ⟨congrArg (opening.trace ++ ·) trace, session⟩

theorem run_acquire_of_reserved (reserves : .reserved c ∈ ((perform .acquire).run s link).trace) :
    s.connection = .open ∧ s.pool = [] ∧ c ≠ .connection ∧
      (perform .acquire).run s link =
        (((openOrAbandon c).run (s.hold c) link).map .channel).after [.reserved c] := by
  have acquisition := acquisition_perform s link
  generalize (perform .acquire).run s link = o at *
  cases acquisition with
  | refused | reused => cases reserves
  | reserved d usable unused free =>
    have unreserved := (conduct_reserved usable unused free).moves.unreserved (c := c)
    obtain rfl : c = d := by simpa [unreserved] using reserves
    obtain ⟨-, -, nonzero, -⟩ := reservable_eq_some (ChannelId.bound_ne_zero _) free
    exact ⟨usable, unused, nonzero, rfl⟩

end Session

namespace Run

variable {σ : Type} [Link σ] {c : ChannelId} {r : Run}

theorem withheld_performAll {more : List (Operation × σ)} (nonzero : c ≠ .connection)
    (unnamed : ∀ call ∈ more, call.1.named? ≠ some c) (h : r.session.Withheld c) :
    (r.performAll more).session.Withheld c := by
  refine performAll_induction (P := fun r => r.session.Withheld c) h fun r op link mem held => ?_
  exact held.course (ChannelId.bound_ne_zero _) nonzero
    (Session.course_perform op r.session link) (unnamed _ mem)

/-- An acquisition reserved a number and failed, and the connection is still open. No channel is
idle then. The number is kept back if and only if opening it failed without the loss of the
connection, the peer had not closed the channel, and the attempt to close it failed as well, with no
close of the peer's for it. A number that is kept back is not idle, and whatever is done from then
on without naming it, no acquisition hands it out. -/
theorem withheld_of_failed {link : σ} {e : SessionError}
    (reserves : .reserved c ∈ ((Session.perform .acquire).run r.session link).trace)
    (failed : ((Session.perform .acquire).run r.session link).result = .error e)
    (spared : ((Session.perform .acquire).run r.session link).session.connection = .open) :
    let o := (Session.perform .acquire).run r.session link
    let opening := (Session.openReserved c).run (r.session.hold c) link
    let closing := (Session.closeChannel c).run opening.session opening.link
    o.session.pool = [] ∧ opening.result = .error e ∧
    (e.isFatal = false → ¬ ClosedByPeer c opening.trace →
      o.trace = .reserved c :: (opening.trace ++ closing.trace) ∧ o.session = closing.session) ∧
    (o.session.isOpen c ↔ e.isFatal = false ∧ ¬ ClosedByPeer c opening.trace ∧
      (∃ e', closing.result = .error e') ∧ ¬ ClosedByPeer c closing.trace) ∧
    (o.session.isOpen c → c ∉ o.session.pool ∧
      ∀ more : List (Operation × σ), (∀ call ∈ more, call.1.named? ≠ some c) → ∀ later : σ,
        ((Session.perform .acquire).run ((r.perform .acquire link).performAll more).session
          later).result ≠ .ok (.channel c)) := by
  intro o opening closing
  obtain ⟨begun, unused, nonzero, ran⟩ := Session.run_acquire_of_reserved reserves
  have ran : o = _ := ran
  have empty : o.session.pool = [] := by
    have work : Session.Conduct (Session.opening c) [.reserved c] (r.session.hold c)
        ((Session.openOrAbandon c).run (r.session.hold c) link) :=
      Session.conduct_openOrAbandon begun unused nonzero
    rw [ran]
    exact List.sublist_nil.mp (unused ▸ work.moves.pool)
  have failed : o.result = .error e := failed
  have spared : o.session.connection = .open := spared
  rw [ran] at failed spared
  obtain ⟨unopened, closes, left⟩ := Session.isOpen_openOrAbandon nonzero (by simp)
    (Outcome.result_of_map_error failed) spared
  refine ⟨empty, unopened, fun lasting unclosed => ?_, by rw [ran]; exact left, fun kept => ?_⟩
  · obtain ⟨trace, session⟩ := closes lasting unclosed
    rw [ran]
    exact ⟨congrArg (Event.reserved c :: ·) trace, session⟩
  · have busy : c ∉ o.session.pool := by simp [empty]
    refine ⟨busy, fun more unnamed later => ?_⟩
    have withheld := withheld_performAll nonzero unnamed
      (⟨busy, fun _ => kept⟩ : (r.perform .acquire link).session.Withheld c)
    exact withheld.ne_acquired (ChannelId.bound_ne_zero _)
      (Session.course_perform .acquire _ later)

/-- Nothing comes of opening a channel but a frame of its content, and nothing of closing it. -/
def silent : Loopback := (Loopback.start 0).push [.frame ⟨1, .body [7]⟩, .nothing, .nothing]

theorem withheld_silent :
    let r := (start .standard).perform .acquire silent
    let o := (Session.perform .acquire).run (start .standard).session silent
    .reserved 1 ∈ o.trace ∧ o.result = .error (.emptyReply 1 "channel.open") ∧
    o.session.connection = .open ∧ o.session.isOpen 1 ∧
    ∀ more : List (Operation × Loopback), (∀ call ∈ more, call.1.named? ≠ some 1) →
      ∀ later : Loopback, ((Session.perform .acquire).run (r.performAll more).session
        later).result ≠ .ok (.channel 1) := by
  intro r o
  have reserves : .reserved 1 ∈ o.trace := by decide +kernel
  have failed : o.result = .error (.emptyReply 1 "channel.open") := by decide +kernel
  have spared : o.session.connection = .open := by decide +kernel
  obtain ⟨-, -, -, left, kept⟩ := withheld_of_failed reserves failed spared
  have opened : o.session.isOpen 1 := by decide +kernel
  exact ⟨reserves, failed, spared, opened, (kept opened).2⟩

end Run
end Multiplex
