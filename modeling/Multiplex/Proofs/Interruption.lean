import Mathlib.Data.List.TakeWhile
import Multiplex.Proofs.Reopening
import Multiplex.Proofs.Session.Fate
import Multiplex.Proofs.Session.Waiting

/-! What becomes of a channel whose close went out. If the answer comes, or a close of the peer's in
its place, nothing more is sent there before the channel is opened again. If the wait is broken off
the channel is as it was, and can be closed and used again. -/

namespace Multiplex

/-- Nothing goes out on a channel before acquiring opens it, whatever is done. -/
def Run.Silenced (σ : Type) [Link σ] (c : ChannelId) (r : Run) : Prop :=
  ∀ more : List (Operation × σ), ∃ since, (r.performAll more).log = r.log ++ since ∧
    ∀ x ∈ since.takeWhile (!opens c ·), ∀ m, x.2 ≠ .sent c m none

namespace Session

open Multiplex.Action

variable {σ α : Type} {s t : Session} {link : σ} {c : ChannelId} {op : Operation} {max : ChannelId}
  {trace events : List Event}

section Hushed

variable {since more : List (Operation × Event)}

/-- Since a channel was closed nothing has gone out on it, as long as it was not opened. -/
structure Hushed (c : ChannelId) (since : List (Operation × Event)) (s : Session) : Prop where
  silent : ∀ x ∈ since.takeWhile (!opens c ·), ∀ m, x.2 ≠ .sent c m none
  closed : (∀ x ∈ since, opens c x = false) → s.isOpen c = false

theorem hushed_of_unsent (unsent : ∀ m, .sent c m none ∉ events) (closed : s.isOpen c = false) :
    Hushed c (events.map (op, ·)) s where
  silent x hx m sent := by
    obtain ⟨e, mem, rfl⟩ := List.mem_map.mp (List.takeWhile_subset _ hx)
    exact unsent m (sent ▸ mem)
  closed _ := closed

theorem Hushed.append (h : Hushed c since s) (goes_on : s.isOpen c = false → Hushed c more t) :
    Hushed c (since ++ more) t := by
  by_cases unopened : ∀ x ∈ since, opens c x = false
  · have next := goes_on (h.closed unopened)
    have whole : ∀ x ∈ since, (!opens c x) = true := by simpa using unopened
    constructor
    · rw [List.takeWhile_append_of_pos whole]
      refine List.forall_mem_append.mpr ⟨?_, next.silent⟩
      exact List.takeWhile_eq_self_iff.mpr whole ▸ h.silent
    · exact fun plain => next.closed fun x hx => plain x (List.mem_append_right _ hx)
  · constructor
    · have short : (since.takeWhile (!opens c ·)).length ≠ since.length := by
        intro same
        have whole := List.takeWhile_eq_self_iff.mp
          ((List.takeWhile_prefix _).eq_of_length same)
        exact unopened fun x hx => by simpa using whole x hx
      rw [List.takeWhile_append, if_neg short]
      exact h.silent
    · exact fun plain => absurd (fun x hx => plain x (List.mem_append_left _ hx)) unopened

theorem Course.hushed {o : Outcome σ Reply} (h : Course max s op o) (nonzero : c ≠ .connection)
    (closed : s.isOpen c = false) : Hushed c (o.trace.map (op, ·)) o.session := by
  cases h with
  | reserved d o usable unused free work ready opening =>
    by_cases here : d = c
    · subst here
      rcases opening with ⟨failure, trace, session⟩ | ⟨rest, trace⟩
      · rw [Outcome.trace_after, Outcome.session_after, trace, session]
        exact hushed_of_unsent (by simp) (by simp)
      · have opened : opens d (.acquire, .sent d .channelOpen none) := by
          simp [opens, Event.sends, Method.channelOpen]
        have unopened : opens d (.acquire, .reserved d) = false := by simp [opens, Event.sends]
        rw [Outcome.trace_after, trace]
        constructor
        · simp [opened, unopened]
        · exact fun plain => absurd opened (by simp [plain (.acquire, .sent d .channelOpen none)])
    · have held : (s.hold d).isOpen c = false := by simp [here, closed]
      have unsent m := work.moves.unsent nonzero held m none
      exact hushed_of_unsent (by simpa using fun m => (unsent m).1) (unsent .channelOpen).2
  | worked op k o task work =>
    have unsent m := work.moves.unsent nonzero closed m none
    exact hushed_of_unsent (fun m => (unsent m).1) (unsent .channelOpen).2
  | closed o usable work shut =>
    have unsent m := work.unsent nonzero closed m none
    exact hushed_of_unsent (fun m => (unsent m).1) (unsent .channelOpen).2
  | _ => exact hushed_of_unsent (by simp) closed

end Hushed

section Handshake

/-- How closing an open channel can end. -/
inductive Handshake (c : ChannelId) (s : Session) : Outcome σ Unit → Prop
  | unsent (failure : LinkError) (link : σ) :
    Handshake c s ⟨.error (.link "channel.close" failure),
      [.sent c (.channelClose .normal) (some failure)], s, link⟩
  | answered (f : Frame) (waited : List Event) (t : Session) (link : σ)
    (incoming : ∀ e ∈ waited, e.Incoming c) (answer : f.isMethod .channelCloseOk) :
    Handshake c s ⟨.ok (), .sent c (.channelClose .normal) none ::
      (waited ++ [.delivered c f, .forgotten c]), t.forget c, link⟩
  | crossed (r : Except SessionError Unit) (x : Scope) (failure : Option LinkError)
    (waited : List Event) (t : Session) (link : σ) (incoming : ∀ e ∈ waited, e.Incoming c)
    (reach : x = .connection ∨ x = .channel c ∧ c ≠ .connection) :
    Handshake c s ⟨r, .sent c (.channelClose .normal) none :: (waited ++ x.settled failure),
      x.erase t, link⟩
  | interrupted (e : SessionError) (waited : List Event) (t : Session) (link : σ)
    (unsent : ∀ d m failure, .sent d m failure ∉ waited) (broken_off : Interrupted waited)
    (opened : t.isOpen c) (stays : t.connection = s.connection) :
    Handshake c s ⟨.error e, .sent c (.channelClose .normal) none :: waited, t, link⟩

theorem unsent_of_incoming {waited : List Event} (incoming : ∀ e ∈ waited, e.Incoming c)
    (d : ChannelId) (m : Method) (failure : Option LinkError) : .sent d m failure ∉ waited := by
  intro sent
  rcases incoming _ sent with ⟨wait, f, same⟩ | ⟨f, same⟩ <;> cases same

theorem Handshake.late {o : Outcome σ Unit} (h : Handshake c s o) (nonzero : c ≠ .connection)
    (sent : .sent c (.channelClose .normal) none ∈ o.trace) :
    ∃ late, o.trace = .sent c (.channelClose .normal) none :: late ∧
      ∀ m failure, .sent c m failure ∈ late → m = .channelCloseOk := by
  cases h with
  | unsent failure link => simp at sent
  | answered f waited t link incoming =>
    refine ⟨_, rfl, fun m failure sent => ?_⟩
    simp [unsent_of_incoming incoming] at sent
  | crossed r x failure waited t link incoming reach =>
    refine ⟨_, rfl, fun m outcome sent => ?_⟩
    have settled := (List.mem_append.mp sent).resolve_left (unsent_of_incoming incoming c m outcome)
    rcases reach with rfl | ⟨rfl, -⟩
    · simp [Scope.settled, nonzero] at settled
    · obtain ⟨rfl, -⟩ : m = .channelCloseOk ∧ _ := by simpa [Scope.settled] using settled
      rfl
  | interrupted e waited t link unsent =>
    exact ⟨_, rfl, fun m failure sent => absurd sent (unsent c m failure)⟩

theorem Handshake.left {o : Outcome σ Unit} (h : Handshake c s o) (nonzero : c ≠ .connection)
    (sent : .sent c (.channelClose .normal) none ∈ o.trace) (early : List Event) :
    (Interrupted (early ++ o.trace) ∧ o.session.isOpen c ∧ o.session.connection = s.connection) ∨
      ¬ Interrupted (early ++ o.trace) ∧ o.session.isOpen c = false := by
  cases h with
  | unsent failure link => simp at sent
  | answered f waited t link incoming =>
    refine .inr ⟨?_, by simp⟩
    simp [Interrupted, List.getLast?_cons, Event.breaksOff]
  | crossed r x failure waited t link incoming reach =>
    refine .inr ⟨?_, ?_⟩
    · dsimp only
      rw [← List.cons_append, ← List.append_assoc]
      exact x.not_interrupted_settled failure _
    · exact Scope.isOpen_erase reach nonzero t
  | interrupted e waited t link unsent broken_off opened stays =>
    refine .inl ⟨?_, opened, stays⟩
    have last := broken_off.append (early ++ [.sent c (.channelClose .normal) none])
    simpa using last

variable [Link σ]

theorem handshake_closeChannel (usable : s.connection = .open) (nonzero : c ≠ .connection)
    (opened : s.isOpen c) (link : σ) : Handshake c s ((closeChannel c).run s link) := by
  rw [run_closeChannel usable nonzero opened]
  rcases run_send c (.channelClose .normal) "channel.close" s link with
    ⟨link', sent⟩ | ⟨failure, link', sent⟩
  · rw [run_bind_of_ok (congrArg Outcome.result sent), sent, run_settle]
    have waiting : Gathering c "channel.close" (dropUntil .channelCloseOk) s
        ((awaitChannelCloseOk c).run s link') := gathering_collect opened
    dsimp only
    generalize (awaitChannelCloseOk c).run s link' = o at *
    cases waiting with
    | got f b a before t link incoming took =>
      simpa [Outcome.after] using
        .answered f before t link incoming (isMethod_of_dropUntil took)
    | gaveUp f b e before t link incoming took => exact absurd took dropUntil_ne_failed
    | nothing before t link incoming opened stays =>
      have unsent := unsent_of_incoming incoming
      have broken_off : Interrupted (before ++ [.pulled c none .nothing]) :=
        (interrupted_concat before).mpr rfl
      simpa [Outcome.after] using
        .interrupted _ _ t link (by simpa using unsent) broken_off opened stays
    | setback e before last t link incoming opened stays because =>
      have unsent : ∀ d m failure, .sent d m failure ∉ before ++ last := by
        have unsent := unsent_of_incoming incoming
        cases because <;> simpa using unsent
      have broken_off := because.interrupted before
      cases because <;>
        simpa [Outcome.after] using .interrupted _ _ t link unsent broken_off opened stays
    | closed x close failure before t link incoming reach =>
      -- whatever is told of the peer's close, nothing more is done
      have ended (r : Except SessionError Unit) := Handshake.crossed (s := s) r x failure before t
        link incoming reach
      generalize x.error "next_frame" close failure = e
      cases e with
      | channelClosedByPeer d reason context =>
        dsimp only
        split <;> simpa [Outcome.after] using ended _
      | _ => simpa [Outcome.after] using ended _
  · rw [run_bind_of_error (congrArg Outcome.result sent), sent]
    exact .unsent failure link'

inductive Closing (c : ChannelId) (p : Outcome σ α) : Prop
  | intro (early : List Event) (s : Session) (o : Outcome σ Unit) (usable : s.connection = .open)
    (unclosed : ∀ m failure, .sent c m failure ∈ early → m.id ≠ .channelClose)
    (handshake : Handshake c s o) (trace : p.trace = early ++ o.trace)
    (session : p.session = o.session)

theorem closing_openOrAbandon (nonzero : c ≠ .connection)
    (sent : .sent c (.channelClose .normal) none ∈ ((openOrAbandon c).run s link).trace) :
    Closing c ((openOrAbandon c).run s link) := by
  have reading : Reading c toOpen Rated s ((openReserved c).run s link) := reading_openReserved
  have unclosing := reading.unclosing (d := c) fun _ => id_ne_of_toOpen
  unfold openOrAbandon at sent ⊢
  rw [run_settle] at sent ⊢
  generalize (openReserved c).run s link = o at *
  cases opened : o.result with
  | ok _ =>
    simp only [opened, Outcome.trace_after, run_pure, List.append_nil] at sent
    exact absurd rfl (unclosing _ _ sent)
  | error e =>
    simp only [opened, run_bind_of_ok result_abandon, run_fail] at sent ⊢
    have sent : .sent c (.channelClose .normal) none ∈
        ((abandon c e).run o.session o.link).trace := by
      have sent := List.mem_append.mp sent
      simpa using sent.resolve_left fun early => unclosing _ _ early rfl
    have there : o.session.isOpen c := by
      rw [← Bool.not_eq_false]
      intro closed
      simp [run_abandon_of_closed closed] at sent
    have spared : ¬ (e.isFatal ∨ o.session.connection ≠ .open) := by
      intro lost
      simp [abandon, there, lost] at sent
    have usable : o.session.connection = .open := not_not.mp (not_or.mp spared).2
    refine ⟨o.trace, o.session, _, usable, unclosing,
      handshake_closeChannel usable nonzero there o.link, ?_, ?_⟩ <;>
      simp [abandon, there, spared, run_settle]

theorem closing_perform (nonzero : c ≠ .connection) (closes : op = .acquire ∨ op = .closeChannel c)
    (sent : .sent c (.channelClose .normal) none ∈ ((perform op).run s link).trace) :
    Closing c ((perform op).run s link) := by
  rcases closes with rfl | rfl
  · have acquisition := acquisition_perform s link
    generalize (perform .acquire).run s link = o at *
    cases acquisition with
    | refused | reused => cases sent
    | reserved d usable unused free =>
      have work := conduct_reserved usable unused free
      have sent : .sent c (.channelClose .normal) none ∈
          ((openOrAbandon d).run (s.hold d) link).trace := by simpa using sent
      obtain rfl : c = d := (work.moves.channel_of_sent sent).resolve_right nonzero
      obtain ⟨early, t, o, usable, unclosed, handshake, trace, session⟩ :=
        closing_openOrAbandon nonzero sent
      refine ⟨.reserved c :: early, t, o, usable, ?_, handshake, ?_, session⟩
      · simpa using unclosed
      · simp [trace]
  · rw [perform, run_map] at sent ⊢
    have usable : s.connection = .open := by
      by_contra shut
      obtain ⟨e, barred, -⟩ : ∃ e, (closeChannel c).run s link = ⟨.error e, [], s, link⟩ ∧ _ :=
        run_requireOpen_bind_of_not shut _ link
      simp [barred] at sent
    have opened : s.isOpen c := by
      by_contra closed
      rw [closeChannel, run_requireOpen_bind usable, run_session_bind, if_neg nonzero,
        if_neg closed] at sent
      cases sent
    exact ⟨[], s, _, usable, by simp, handshake_closeChannel usable nonzero opened link, rfl, rfl⟩

end Handshake

end Session

namespace Run

variable {σ : Type} [Link σ] {c : ChannelId} {r : Run}

theorem silenced_of_closed (nonzero : c ≠ .connection) (closed : r.session.isOpen c = false) :
    r.Silenced σ c := by
  intro more
  have hushed : ∃ since, (r.performAll more).log = r.log ++ since ∧
      Session.Hushed c since (r.performAll more).session := by
    refine performAll_induction
      (P := fun later => ∃ since, later.log = r.log ++ since ∧ Session.Hushed c since later.session)
      ⟨[], by simp, by simp, fun _ => closed⟩ ?_
    rintro later op link - ⟨since, log, hushed⟩
    refine ⟨_, by rw [log_perform, log, List.append_assoc], hushed.append fun closed => ?_⟩
    exact (Session.course_perform op later.session link).hushed nonzero closed
  obtain ⟨since, log, hushed⟩ := hushed
  exact ⟨since, log, hushed.silent⟩

/-- Once a channel's close has gone out, on closing it or on cleaning up after it could not be
opened, it is not closed twice and only a close of the peer's is acknowledged. Unless the wait for
the answer is broken off, nothing goes out any more before the channel is opened again. If it is,
the channel can be closed and used as if nothing had happened. -/
theorem silenced_of_sent (settings : Settings) (calls : List (Operation × σ)) {op : Operation}
    {link : σ} (nonzero : c ≠ .connection) (closes : op = .acquire ∨ op = .closeChannel c)
    (sent : .sent c (.channelClose .normal) none ∈ ((Session.perform op).run
      ((start settings).performAll calls).session link).trace) :
    let before := (start settings).performAll calls
    let o := (Session.perform op).run before.session link
    let r := before.perform op link
    (∃ early late, o.trace = early ++ .sent c (.channelClose .normal) none :: late ∧
      (∀ m failure, .sent c m failure ∈ early → m.id ≠ .channelClose) ∧
      ∀ m failure, .sent c m failure ∈ late → m = .channelCloseOk) ∧
    (¬ Interrupted o.trace → r.Silenced σ c) ∧
    (Interrupted o.trace → ∀ link : σ,
      (∃ failure rest, ((Session.perform (.closeChannel c)).run r.session link).trace =
        .sent c (.channelClose .normal) failure :: rest) ∧
      ∀ m expected, ∃ failure rest,
        ((Session.perform (.call c m expected)).run r.session link).trace =
          .sent c m failure :: rest) := by
  intro before o r
  obtain ⟨early, s, p, usable, unclosed, handshake, trace, session⟩ :
      Session.Closing c o := Session.closing_perform nonzero closes sent
  have last : .sent c (.channelClose .normal) none ∈ p.trace := by
    refine (List.mem_append.mp (trace ▸ sent : _ ∈ early ++ p.trace)).resolve_left fun sooner => ?_
    exact unclosed _ _ sooner rfl
  obtain ⟨late, split, acknowledges⟩ := handshake.late nonzero last
  refine ⟨⟨early, late, by rw [trace, split], unclosed, acknowledges⟩, ?_⟩
  have session : r.session = p.session := session
  rcases handshake.left nonzero last early with ⟨broken_off, opened, stays⟩ | ⟨completed, closed⟩
  · rw [← trace] at broken_off
    refine ⟨absurd broken_off, fun _ link => ?_⟩
    rw [← session] at opened stays
    have usable : r.session.connection = .open := stays.trans usable
    refine ⟨?_, fun m expected => ?_⟩ <;> rw [Session.perform, Action.run_map, Outcome.trace_map]
    · rcases Session.trace_closeChannel usable nonzero opened link with
        ⟨failure, only⟩ | ⟨rest, first⟩
      · exact ⟨some failure, [], only⟩
      · exact ⟨none, rest, first⟩
    · exact Session.trace_call usable opened m expected link
  · rw [← trace] at completed
    rw [← session] at closed
    refine ⟨fun _ => silenced_of_closed nonzero closed, ?_⟩
    exact fun broken_off => absurd broken_off completed

def acquired : List (Operation × Loopback) :=
  [(.acquire, { Loopback.start 0 with replies := Loopback.agreeable })]

def slow : Loopback := { (Loopback.start 0).push [.nothing] with replies := Loopback.agreeable }

theorem silenced_slow :
    let before := (start .standard).performAll acquired
    let o := (Session.perform (.closeChannel 1)).run before.session slow
    let r := before.perform (.closeChannel 1) slow
    (1 : ChannelId) ≠ .connection ∧ .sent 1 (.channelClose .normal) none ∈ o.trace ∧
    Interrupted o.trace ∧ ∃ failure rest,
      ((Session.perform (.closeChannel 1)).run r.session slow).trace =
        .sent 1 (.channelClose .normal) failure :: rest := by
  intro before o r
  have sent : .sent 1 (.channelClose .normal) none ∈ o.trace := by decide +kernel
  have broken_off : Interrupted o.trace := ⟨.pulled 1 none .nothing, by decide +kernel, rfl⟩
  have nonzero : (1 : ChannelId) ≠ .connection := by decide
  obtain ⟨-, -, again⟩ := silenced_of_sent .standard acquired nonzero (.inr rfl) sent
  exact ⟨nonzero, sent, broken_off, (again broken_off slow).1⟩

/-- The close goes out a second time, and the answer that is taken then is the one to the first. -/
theorem closed_twice :
    let before := (start .standard).performAll acquired
    let o := (Session.perform (.closeChannel 1)).run before.session slow
    let again := (Session.perform (.closeChannel 1)).run o.session o.link
    o.trace = [.sent 1 (.channelClose .normal) none, .pulled 1 none .nothing] ∧
    again.trace = [.sent 1 (.channelClose .normal) none,
      .pulled 1 none (.frame ⟨1, .method .channelCloseOk⟩),
      .delivered 1 ⟨1, .method .channelCloseOk⟩, .forgotten 1] ∧
    again.link.incoming = [.frame ⟨1, .method .channelCloseOk⟩] := by
  decide +kernel

end Run
end Multiplex
