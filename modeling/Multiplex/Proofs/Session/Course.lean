import Multiplex.Proofs.Session.Conduct
import Multiplex.Session.Run

/-! What a whole operation can do to a session. Most operations are the work on one task; the rest
hand out and take back channels, or keep the registry. -/

namespace Multiplex

open Session in
def Operation.task? : Operation → Option Task
  | .next c _ | .readContent c | .readReturned c _ | .check c _ _ | .finishChannel c =>
    some (reading c)
  | .finishConnection => some (reading .connection)
  | .call c m _ => some (asking c m)
  | .closeChannel c => some (closing c)
  | _ => none

namespace Session

variable {σ α β : Type} {k : Task} {past trace : List Event} {s t : Session} {link : σ}
open Multiplex.Action

/-- The course an operation can take that finds the session `s`, the broker having set the bound
`max`. -/
inductive Course (max : ChannelId) (s : Session) : Operation → Outcome σ Reply → Prop
  | refused (op : Operation) (e : SessionError) (link : σ) :
    Course max s op ⟨.error e, [], s, link⟩
  | found (tag : String) (c : ChannelId) (link : σ) :
    Course max s (.lookup tag) ⟨.ok (.channel c), [], s, link⟩
  | registered (tag : String) (c : ChannelId) (consumers : Consumers) (link : σ)
    (fresh : s.consumers.register tag c = .ok consumers) :
    Course max s (.register tag c) ⟨.ok .done, [], { s with consumers }, link⟩
  | unregistered (tag : String) (c : ChannelId) (consumers : Consumers) (link : σ)
    (known : s.consumers.unregister tag = .ok (c, consumers)) :
    Course max s (.unregister tag) ⟨.ok (.channel c), [], { s with consumers }, link⟩
  | released (c : ChannelId) (link : σ) (nonzero : c ≠ .connection) (opened : s.isOpen c)
    (used : c ∉ s.pool) :
    Course max s (.release c) ⟨.ok .done, [], { s with pool := s.pool ++ [c] }, link⟩
  | reused (c : ChannelId) (idle : List ChannelId) (link : σ) (usable : s.connection = .open)
    (pooled : s.pool = c :: idle) :
    Course max s .acquire ⟨.ok (.channel c), [], { s with pool := idle }, link⟩
  | reserved (c : ChannelId) (o : Outcome σ Reply) (usable : s.connection = .open)
    (none_idle : s.pool = []) (free : s.reservable max = some c)
    (work : Conduct (opening c) [.reserved c] (s.hold c) o)
    (ready : ∀ reply, o.result = .ok reply → reply = .channel c ∧ o.session.isOpen c)
    (opens : (∃ failure, o.trace = [.sent c .channelOpen (some failure), .abandoned c] ∧
        o.session = (s.hold c).dropQueue c) ∨
      ∃ rest, o.trace = .sent c .channelOpen none :: rest) :
    Course max s .acquire (o.after [.reserved c])
  | worked (op : Operation) (k : Task) (o : Outcome σ Reply) (task : op.task? = some k)
    (work : Conduct k [] s o) : Course max s op o
  | closed (o : Outcome σ Reply) (usable : s.connection = .open)
    (work : Moves (asking .connection (.connectionClose .normal)) []
      { s with connection := .closingLocal } o.trace o.session)
    (shut : o.session.connection = .closed) : Course max s .closeConnection o

theorem Course.settings {max : ChannelId} {op : Operation} {o : Outcome σ Reply}
    (h : Course max s op o) : o.session.settings = s.settings := by
  cases h with
  | reserved c o usable idle free work ready => exact work.moves.settings
  | worked op k o task work => exact work.moves.settings
  | closed o usable work shut => exact work.settings
  | _ => rfl

/-- An operation leaves the connection as it was, or closed. -/
theorem Course.connection {max : ChannelId} {op : Operation} {o : Outcome σ Reply}
    (h : Course max s op o) :
    o.session.connection = s.connection ∨ o.session.connection = .closed := by
  cases h with
  | reserved c o usable idle free work ready => exact work.moves.connection.imp_right (·.closed)
  | worked op k o task work => exact work.moves.connection.imp_right (·.closed)
  | closed o usable work shut => exact .inr shut
  | _ => exact .inl rfl

theorem Course.aside {max : ChannelId} {op : Operation} {o : Outcome σ Reply}
    (h : Course max s op o) (idle : op.task? = none) (acquire : op ≠ .acquire)
    (close : op ≠ .closeConnection) :
    o.trace = [] ∧ o.session.connection = s.connection := by
  cases h with
  | reused | reserved => exact absurd rfl acquire
  | worked op k o task work =>
    rw [idle] at task
    cases task
  | closed => exact absurd rfl close
  | _ => exact ⟨rfl, rfl⟩

section Effect

variable {max c : ChannelId} {op : Operation} {o : Outcome σ Reply}

theorem Course.isOpen (h : Course max s op o) (opened : s.isOpen c)
    (unended : ∀ e ∈ o.trace, e.ends c = false) : o.session.isOpen c := by
  cases h with
  | reserved d o usable idle free work ready =>
    have held : (s.hold d).isOpen c := by simp [opened]
    exact work.moves.isOpen held fun e he => unended e (List.mem_append_right _ he)
  | worked op k o task work => exact work.moves.isOpen opened unended
  | closed o usable work shut => exact work.isOpen opened unended
  | _ => exact opened

theorem Course.pool (h : Course max s op o) (idle : c ∈ o.session.pool) :
    c ∈ s.pool ∨ op = .release c ∧ o.result = .ok .done := by
  cases h with
  | released d =>
    rcases List.mem_append.mp idle with before | now
    · exact .inl before
    · obtain rfl := List.mem_singleton.mp now
      exact .inr ⟨rfl, rfl⟩
  | reused d rest link usable pooled => exact .inl (pooled ▸ .tail _ idle)
  | reserved d o usable unused free work ready => exact .inl (work.moves.pool.mem idle)
  | worked op k o task work => exact .inl (work.moves.pool.mem idle)
  | closed o usable work shut => exact .inl (work.pool.mem idle)
  | _ => exact .inl idle

end Effect

theorem Honest.later {e : SessionError} (h : Honest past s e) (moves : Moves k past s trace t) :
    Honest (past ++ trace) t e := by
  have stays : s.connection = .closed → t.connection = .closed := fun closed =>
    moves.connection.elim (·.trans closed) (·.closed)
  cases e with
  | link context cause =>
    obtain ⟨x, hx, fails⟩ := h
    exact ⟨x, List.mem_append_left _ hx, fails⟩
  | connectionClosing =>
    rcases moves.connection with same | bare
    · exact fun usable => h (same.symm.trans usable)
    · simp [Honest, bare.closed]
  | connectionClosedByPeer | connectionRejected | connectionClosed => exact stays h
  | _ => trivial

theorem Conduct.map {o : Outcome σ α} (h : Conduct k past s o) (f : α → β) :
    Conduct k past s (o.map f) where
  moves := h.moves
  honest e he := h.honest e (Outcome.result_of_map_error he)

section CloseConnection

variable {r : Except SessionError Unit}

theorem moves_closeRegardless :
    Moves k past s ((closeRegardless r).run s link).trace
      ((closeRegardless r).run s link).session := by
  unfold closeRegardless
  split
  · exact .none
  · exact .none
  · exact .one .shut

theorem closed_of_closeRegardless (done : r = .ok () → s.connection = .closed)
    (honest : ∀ e, r = .error e → Honest past s e) :
    ((closeRegardless r).run s link).session.connection = .closed := by
  unfold closeRegardless
  split
  · exact done rfl
  · exact honest _ rfl
  · rfl

end CloseConnection

variable [Link σ]

section Acquire

variable {c : ChannelId}

theorem conduct_openReserved (opens : k.asks past .channelOpen)
    (confirms : ∀ later, k.asks later (.confirmSelect false)) :
    Conduct k past s ((openReserved k.channel).run s link) := by
  unfold openReserved
  refine (conduct_call opens).bind fun _ _ => ?_
  rw [run_session_bind]
  split
  · exact (conduct_call (confirms _)).bind fun _ _ => .done
  · exact .done

theorem isOpen_of_openReserved (h : ((openReserved c).run s link).result = .ok ()) :
    ((openReserved c).run s link).session.isOpen c := by
  unfold openReserved at h ⊢
  cases answer : ((call c .channelOpen [.channelOpenOk]).run s link).result with
  | error e => simp [run_bind_of_error answer] at h
  | ok reply =>
    have opened := isOpen_of_call answer
    rw [run_bind_of_ok answer] at h ⊢
    rw [run_session_bind] at h ⊢
    split at h
    · rename_i confirm
      rw [if_pos confirm]
      generalize ((call c .channelOpen [.channelOpenOk]).run s link).session = t at *
      generalize ((call c .channelOpen [.channelOpenOk]).run s link).link = link' at *
      cases confirmed : ((call c (.confirmSelect false) [.confirmSelectOk]).run t link').result with
      | error e => simp [run_bind_of_error confirmed] at h
      | ok reply =>
        rw [run_bind_of_ok confirmed]
        exact isOpen_of_call confirmed
    · rename_i plain
      rw [if_neg plain]
      exact opened

theorem conduct_abandon {cause : SessionError} (nonzero : c ≠ .connection) (unused : s.pool = [])
    (usable : s.connection = .open ∨ s.Bare) (honest : Honest past s cause)
    (taken : .reserved c ∈ past)
    (unclosed : ∀ m failure, .sent c m failure ∈ past → m.id ≠ .channelClose) :
    Conduct (opening c) past s ((abandon c cause).run s link) := by
  unfold abandon
  rw [run_session_bind]
  split
  · rename_i opened
    have usable : s.connection = .open :=
      usable.resolve_right fun bare => nonzero (bare.only c opened)
    split
    · rename_i lost
      have fatal := lost.resolve_right (not_not_intro usable)
      have fails := (honest.fatal fatal).resolve_left (not_not_intro usable)
      exact .moved (.abandon nonzero opened unused fails taken unclosed)
    · have closed : Conduct (opening c) past s ((closeChannel c).run s link) :=
        conduct_closeChannel (.inr (.inr rfl))
      exact closed.settle fun _ _ _ => .done
  · exact .done

theorem conduct_openOrAbandon (usable : s.connection = .open) (unused : s.pool = [])
    (nonzero : c ≠ .connection) :
    Conduct (opening c) [.reserved c] s ((openOrAbandon c).run s link) := by
  unfold openOrAbandon
  have opened : Conduct (opening c) [.reserved c] s ((openReserved c).run s link) :=
    conduct_openReserved (.inl ⟨rfl, rfl⟩) fun _ => .inr (.inl rfl)
  have reading : Reading c toOpen Rated s ((openReserved c).run s link) := reading_openReserved
  have unclosing := reading.unclosing (d := c) fun _ => id_ne_of_toOpen
  refine opened.settle fun r _ honest => ?_
  generalize (openReserved c).run s link = o at *
  have unused : o.session.pool = [] := List.sublist_nil.mp (unused ▸ opened.moves.pool)
  have usable : o.session.connection = .open ∨ o.session.Bare :=
    opened.moves.connection.imp_left (·.trans usable)
  cases r with
  | ok _ => exact .done
  | error e =>
    have given_up : Conduct (opening c) ([.reserved c] ++ o.trace) o.session
        ((abandon c e).run o.session o.link) :=
      conduct_abandon nonzero unused usable (honest e rfl) (by simp) (by simpa using unclosing)
    exact given_up.bind fun _ _ => .failed ((honest e rfl).later given_up.moves)

theorem conduct_reserved (usable : s.connection = .open) (unused : s.pool = [])
    (free : s.reservable (ChannelId.bound (Link.channelMax link)) = some c) :
    Conduct (opening c) [.reserved c] (s.hold c) ((openOrAbandon c).run (s.hold c) link) :=
  conduct_openOrAbandon usable unused (reservable_eq_some (ChannelId.bound_ne_zero _) free).2.2.1

section Opening

variable {link' : σ} {failure : LinkError}

theorem trace_openReserved (usable : s.connection = .open) (opened : s.isOpen c)
    (sent : (send c .channelOpen Method.channelOpen.id.name).run s link =
      ⟨.ok (), [.sent c .channelOpen none], s, link'⟩) :
    ∃ rest, ((openReserved c).run s link).trace = .sent c .channelOpen none :: rest := by
  have calls := run_call usable opened .channelOpen [.channelOpenOk] link
  rw [run_bind_of_ok (by rw [sent]), sent] at calls
  unfold openReserved
  cases answer : ((call c .channelOpen [.channelOpenOk]).run s link).result with
  | ok _ =>
    rw [run_bind_of_ok answer, Outcome.trace_after, calls]
    exact ⟨_, rfl⟩
  | error _ =>
    rw [run_bind_of_error answer, calls]
    exact ⟨_, rfl⟩

/-- A number whose opening did not even go out is free again at once. -/
theorem run_openOrAbandon_of_failed (usable : s.connection = .open) (opened : s.isOpen c)
    (failed : (send c .channelOpen Method.channelOpen.id.name).run s link =
      ⟨.error (.link Method.channelOpen.id.name failure), [.sent c .channelOpen (some failure)], s,
        link'⟩) :
    (openOrAbandon c).run s link =
      ⟨.error (.link Method.channelOpen.id.name failure),
        [.sent c .channelOpen (some failure), .abandoned c], s.dropQueue c, link'⟩ := by
  have calls := run_call usable opened .channelOpen [.channelOpenOk] link
  rw [run_bind_of_error (by rw [failed]), failed] at calls
  have unopened : (openReserved c).run s link =
      ⟨.error (.link Method.channelOpen.id.name failure),
        [.sent c .channelOpen (some failure)], s, link'⟩ := by
    unfold openReserved
    rw [run_bind_of_error (congrArg Outcome.result calls), calls]
  have given_up : (abandon c (.link Method.channelOpen.id.name failure)).run s link' =
      ⟨.ok (), [.abandoned c], s.dropQueue c, link'⟩ := by
    unfold abandon
    rw [run_session_bind, if_pos opened, if_pos (.inl rfl)]
    rfl
  rw [openOrAbandon, run_settle, unopened]
  dsimp only
  rw [run_bind_of_ok (congrArg Outcome.result given_up), given_up]
  rfl

end Opening

/-- The first thing on a reserved channel is the attempt to open it. If the link fails then, it is
the last thing as well. -/
theorem trace_openOrAbandon (s : Session) (link : σ) (usable : s.connection = .open)
    (opened : s.isOpen c) :
    (∃ failure, ((openOrAbandon c).run s link).trace =
        [.sent c .channelOpen (some failure), .abandoned c] ∧
      ((openOrAbandon c).run s link).session = s.dropQueue c) ∨
    ∃ rest, ((openOrAbandon c).run s link).trace = .sent c .channelOpen none :: rest := by
  rcases run_send c .channelOpen Method.channelOpen.id.name s link with
    ⟨link', sent⟩ | ⟨failure, link', failed⟩
  · right
    obtain ⟨rest, begins⟩ := trace_openReserved usable opened sent
    rw [openOrAbandon, run_settle, Outcome.trace_after, begins]
    exact ⟨_, rfl⟩
  · left
    rw [run_openOrAbandon_of_failed usable opened failed]
    exact ⟨failure, rfl, rfl⟩

theorem openOrAbandon_ready {d : ChannelId}
    (h : ((openOrAbandon c).run s link).result = .ok d) :
    d = c ∧ ((openOrAbandon c).run s link).session.isOpen c := by
  unfold openOrAbandon settle at *
  cases answer : ((openReserved c).run s link).result with
  | ok _ =>
    have opened := isOpen_of_openReserved answer
    simp_all
  | error e =>
    simp only [answer, Outcome.result_after] at h
    generalize ((openReserved c).run s link).session = t at *
    generalize ((openReserved c).run s link).link = link' at *
    cases given_up : ((abandon c e).run t link').result with
    | ok _ => simp [run_bind_of_ok given_up] at h
    | error _ => simp [run_bind_of_error given_up] at h

theorem course_openOrAbandon (usable : s.connection = .open) (unused : s.pool = [])
    (free : s.reservable (ChannelId.bound (Link.channelMax link)) = some c) :
    Course (ChannelId.bound (Link.channelMax link)) s .acquire
      ((((openOrAbandon c).run (s.hold c) link).map .channel).after [.reserved c]) := by
  have work := conduct_reserved usable unused free
  have opens := trace_openOrAbandon (s.hold c) link usable (by simp : (s.hold c).isOpen c)
  refine .reserved c _ usable unused free (work.map _) (fun reply answered => ?_) opens
  obtain ⟨d, got, rfl⟩ := Outcome.result_of_map_ok answered
  obtain ⟨rfl, opened⟩ := openOrAbandon_ready got
  exact ⟨rfl, opened⟩

/-- Acquiring is turned away, or hands out an idle channel, or reserves a number and opens it. -/
inductive Acquisition (s : Session) (link : σ) : Outcome σ Reply → Prop
  | refused (e : SessionError) (honest : Honest [] s e) :
    Acquisition s link ⟨.error e, [], s, link⟩
  | reused (c : ChannelId) (idle : List ChannelId) (usable : s.connection = .open)
    (pooled : s.pool = c :: idle) :
    Acquisition s link ⟨.ok (.channel c), [], { s with pool := idle }, link⟩
  | reserved (c : ChannelId) (usable : s.connection = .open) (unused : s.pool = [])
    (free : s.reservable (ChannelId.bound (Link.channelMax link)) = some c) :
    Acquisition s link
      ((((openOrAbandon c).run (s.hold c) link).map .channel).after [.reserved c])

theorem acquisition_perform (s : Session) (link : σ) :
    Acquisition s link ((perform .acquire).run s link) := by
  change Acquisition s link ((Reply.channel <$> acquire).run s link)
  rw [run_map, acquire]
  by_cases usable : s.connection = .open
  · rw [run_requireOpen_bind usable, run_session_bind]
    cases pooled : s.pool with
    | cons c idle => exact .reused c idle usable pooled
    | nil =>
      dsimp only
      cases free : s.reservable (ChannelId.bound (Link.channelMax link)) with
      | none =>
        have full := run_reserve_of_none free
        rw [run_bind_of_error (congrArg Outcome.result full), full]
        exact .refused _ trivial
      | some c =>
        have held := run_reserve_of_some free
        rw [run_bind_of_ok (congrArg Outcome.result held), held, Outcome.map_after]
        exact .reserved c usable pooled free
  · obtain ⟨e, barred, because⟩ := run_requireOpen_bind_of_not usable _ link
    rw [barred]
    rcases because with rfl | ⟨rfl, closed⟩
    · exact .refused _ usable
    · exact .refused _ closed

theorem course_acquire :
    Course (ChannelId.bound (Link.channelMax link)) s .acquire
      ((perform .acquire).run s link) := by
  have acquisition := acquisition_perform s link
  generalize (perform .acquire).run s link = o at *
  cases acquisition with
  | refused => exact .refused ..
  | reused c idle usable pooled => exact .reused c idle link usable pooled
  | reserved c usable unused free => exact course_openOrAbandon usable unused free

end Acquire

theorem course_closeConnection :
    Course (ChannelId.bound (Link.channelMax link)) s .closeConnection
      ((perform .closeConnection).run s link) := by
  change Course _ s .closeConnection (((fun _ => Reply.done) <$> closeConnection).run s link)
  rw [run_map, closeConnection]
  by_cases usable : s.connection = .open
  · rw [run_requireOpen_bind usable, run_change_bind, Outcome.after_nil]
    have closes : Conduct (asking .connection (.connectionClose .normal)) []
        { s with connection := .closingLocal }
        (exchangeCloses.run { s with connection := .closingLocal } link) :=
      conduct_exchangeCloses
    exact .closed _ usable (closes.moves.trans moves_closeRegardless)
      (closed_of_closeRegardless closed_of_exchangeCloses closes.honest)
  · obtain ⟨e, barred, -⟩ := run_requireOpen_bind_of_not usable _ link
    rw [barred]
    exact .refused ..

theorem conduct_perform {op : Operation} (task : op.task? = some k) :
    Conduct k [] s ((perform op).run s link) := by
  cases op with
  | next c wait =>
    obtain ⟨⟩ := task
    rw [perform, run_map]
    exact conduct_next.map _
  | call c m expected =>
    obtain ⟨⟩ := task
    rw [perform, run_map]
    exact (conduct_call rfl).map _
  | readContent c =>
    obtain ⟨⟩ := task
    rw [perform, run_map]
    exact conduct_readContent.map _
  | readReturned c m =>
    obtain ⟨⟩ := task
    rw [perform, run_map]
    exact conduct_readReturned.map _
  | check c f context =>
    obtain ⟨⟩ := task
    rw [perform, run_map]
    exact conduct_checkFrame.map _
  | closeChannel c =>
    obtain ⟨⟩ := task
    rw [perform, run_map]
    exact (conduct_closeChannel rfl).map _
  | finishChannel c =>
    obtain ⟨⟩ := task
    rw [perform, run_map]
    exact conduct_finishChannel.map _
  | finishConnection =>
    obtain ⟨⟩ := task
    rw [perform, run_map]
    exact conduct_finishConnection.map _
  | _ => cases task

theorem course_perform (op : Operation) (s : Session) (link : σ) :
    Course (ChannelId.bound (Link.channelMax link)) s op ((perform op).run s link) := by
  cases op with
  | acquire => exact course_acquire
  | closeConnection => exact course_closeConnection
  | release c =>
    rw [perform, run_map]
    simp only [release]
    split
    · exact .refused ..
    · rename_i nonzero
      split
      · exact .refused ..
      · rename_i opened
        split
        · exact .refused ..
        · rename_i used
          exact .released c _ nonzero (by simpa using opened) used
  | register tag c =>
    rw [perform, run_map]
    cases fresh : s.consumers.register tag c with
    | error e => simpa [register, fresh] using .refused ..
    | ok consumers => simpa [register, fresh] using .registered tag c consumers link fresh
  | unregister tag =>
    rw [perform, run_map]
    cases known : s.consumers.unregister tag with
    | error e => simpa [unregister, known] using .refused ..
    | ok p => simpa [unregister, known] using .unregistered tag p.1 p.2 link known
  | lookup tag =>
    rw [perform, run_session_bind, run_map, run_ofExcept]
    cases s.consumers.lookup tag with
    | error e => exact .refused ..
    | ok c => exact .found ..
  | _ => exact .worked _ _ _ rfl (conduct_perform rfl)

end Session

namespace Run

theorem settings_performAll {σ : Type} [Link σ] (r : Run) (calls : List (Operation × σ)) :
    (r.performAll calls).session.settings = r.session.settings :=
  performAll_induction (P := fun t => t.session.settings = r.session.settings) rfl
    fun r op link _ same => (Session.course_perform op r.session link).settings.trans same

end Run
end Multiplex
