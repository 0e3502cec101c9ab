import Multiplex.Link.Loopback
import Multiplex.Proofs.Bookkeeping
import Multiplex.Proofs.Session.Reading

/-! A closed connection stays closed. Nothing is pulled on it and nothing is sent, except that the
close of the connection is acknowledged whenever somebody has the session check it. -/

namespace Multiplex

/-- Whether the session is to check a frame that closes the connection. -/
def Operation.reportsClose : Operation → Bool
  | .check _ f _ => f.isMethod .connectionClose
  | .acquire | .release _ | .next .. | .call .. | .readContent _ | .readReturned .. | .register ..
  | .unregister _ | .lookup _ | .closeChannel _ | .closeConnection | .finishChannel _
  | .finishConnection => false

/-- What a turn comes to that finds the connection closed. -/
inductive Turn.Late (t : Turn) : Prop
  | silent (other : t.operation.reportsClose = false) (trace : t.trace = [])
  | acknowledged (reports : t.operation.reportsClose) (failure : Option LinkError)
    (trace : t.trace = [.shut, .sent .connection .connectionCloseOk failure])

/-- Whether the close of the connection was acknowledged, or the attempt was made. -/
def Turn.Acknowledges (t : Turn) : Prop :=
  ∃ before failure after,
    t.trace = before ++ .shut :: .sent .connection .connectionCloseOk failure :: after

theorem Frame.isMethod_connectionClose_iff (f : Frame) (reader : ChannelId) :
    f.isMethod .connectionClose ↔ ∃ m, f.closing? reader = some (.connection, m) := by
  have other : MethodId.connectionClose ≠ .channelClose := by decide
  unfold isMethod methodId? closing?
  cases f.method? with
  | none => simp
  | some m =>
    constructor
    · intro id
      have id : m.id = .connectionClose := by simpa using id
      exact ⟨m, by simp [id, other]⟩
    · rintro ⟨_, closing⟩
      grind

theorem Turn.Acknowledges.mem_shut {t : Turn} (h : t.Acknowledges) : .shut ∈ t.trace := by
  obtain ⟨before, failure, after, trace⟩ := h
  simp [trace]

theorem Turn.Late.reportsClose {t : Turn} (late : t.Late) (acknowledges : t.Acknowledges) :
    t.operation.reportsClose := by
  cases late with
  | silent other trace =>
    obtain ⟨before, failure, after, split⟩ := acknowledges
    simp [trace] at split
  | acknowledged reports => exact reports

namespace Session

open Multiplex.Action

variable {σ α : Type} {s t : Session} {link : σ} {c : ChannelId} {f : Frame} {m : Method}
  {context : String} {op : Operation} {k : Task} {past trace events : List Event}

theorem Move.bare_of_shut (h : Move k past s events t) (shut : .shut ∈ events) : t.Bare := by
  cases h with
  | shut | surrender => exact bare_shut s
  | _ => simp at shut

theorem Moves.bare_of_shut (h : Moves k past s trace t) (shut : .shut ∈ trace) : t.Bare := by
  induction h with
  | none => cases shut
  | snoc _ move ih =>
    rcases List.mem_append.mp shut with early | late
    · exact move.bare (ih early)
    · exact move.bare_of_shut late

theorem Course.closed_of_shut {max : ChannelId} {o : Outcome σ Reply} (h : Course max s op o)
    (shut : .shut ∈ o.trace) : o.session.connection = .closed := by
  cases h with
  | reserved c o usable idle free work ready =>
    have shut : .shut ∈ o.trace := by simpa using shut
    exact (work.moves.bare_of_shut shut).closed
  | worked op k o task work => exact (work.moves.bare_of_shut shut).closed
  | closed o usable work closed => exact closed
  | _ => cases shut

variable [Link σ]

omit [Link σ] in
theorem silent_of_gated {next : Unit → Action σ α} (closed : s.connection = .closed) :
    ((requireOpen >>= next).run s link).trace = [] := by
  obtain ⟨e, barred, -⟩ := run_requireOpen_bind_of_not (s := s) (by simp [closed]) next link
  rw [barred]

theorem silent_readReturned (closed : s.connection = .closed) :
    ((readReturned c m).run s link).trace = [] := by
  obtain ⟨e, barred, -⟩ : ∃ e, (readContent c).run s link = ⟨.error e, [], s, link⟩ ∧ _ :=
    run_requireOpen_bind_of_not (by simp [closed]) _ link
  unfold readReturned
  split
  · split
    · rw [run_bind_of_error (congrArg Outcome.result barred), barred]
    · rfl
  · rfl

theorem run_finishChannel_of_closed (sound : s.Sound) (closed : s.connection = .closed)
    (c : ChannelId) (link : σ) :
    ∃ e, (finishChannel c).run s link = ⟨.error e, [], s, link⟩ := by
  have only := (sound.closed closed).2 c
  unfold finishChannel
  rw [run_session_bind]
  split
  · exact ⟨_, rfl⟩
  · rename_i nonzero
    have gone : ¬ s.isOpen c := mt only.mp nonzero
    rw [if_neg gone]
    exact ⟨_, rfl⟩

theorem late_check (sound : s.Sound) (closed : s.connection = .closed) :
    let o := (perform (.check c f context)).run s link
    (⟨.check c f context, o.result, o.trace⟩ : Turn).Late := by
  intro o
  have trace : o.trace = ((checkFrame c f context).run s link).trace := by
    change ((perform (.check c f context)).run s link).trace = _
    rw [perform, run_map, Outcome.trace_map]
  have reports : f.isMethod .connectionClose ↔ _ := f.isMethod_connectionClose_iff c
  cases closing : f.closing? c with
  | none =>
    rw [run_checkFrame_of_none closing] at trace
    exact .silent (by simpa [Operation.reportsClose, closing] using reports) trace
  | some p =>
    obtain ⟨x, m⟩ := p
    cases x with
    | channel d =>
      obtain ⟨e, unknown⟩ := run_finishChannel_of_closed sound closed c link
      rw [(checkFrame_of_channel closing).2.2, closedChannel,
        run_bind_of_error (congrArg Outcome.result unknown), unknown] at trace
      exact .silent (by simpa [Operation.reportsClose, closing] using reports) trace
    | connection =>
      -- here nothing asks whether the connection is closed already
      obtain ⟨failure, link', settles⟩ :=
        closedConnection_settles (α := Frame) m context s link
      rw [checkFrame_of_connection closing, settles] at trace
      exact .acknowledged (reports.mpr ⟨m, closing⟩) failure trace

theorem silent_bookkeeping (idle : op.task? = none) (acquire : op ≠ .acquire)
    (close : op ≠ .closeConnection) : ((perform op).run s link).trace = [] :=
  ((course_perform op s link).aside idle acquire close).1

theorem late_perform (sound : s.Sound) (closed : s.connection = .closed) (op : Operation) :
    let o := (perform op).run s link
    (⟨op, o.result, o.trace⟩ : Turn).Late := by
  cases op with
  | check c f context => exact late_check sound closed
  | acquire | next | call | readContent | closeChannel | closeConnection =>
    refine .silent rfl ?_
    rw [perform, run_map]
    exact silent_of_gated closed
  | readReturned =>
    refine .silent rfl ?_
    rw [perform, run_map]
    exact silent_readReturned closed
  | finishChannel c =>
    obtain ⟨e, unknown⟩ := run_finishChannel_of_closed sound closed c link
    refine .silent rfl ?_
    rw [perform, run_map, unknown, Outcome.trace_map]
  | finishConnection =>
    refine .silent rfl ?_
    rw [perform, run_map]
    simp [finishConnection, closed]
  | release | register | unregister | lookup =>
    exact .silent rfl (silent_bookkeeping rfl (by simp) (by simp))

/-- How things stand after some turns, as regards the close of the connection: once it has been
acknowledged the connection is closed, and it takes a report to have it acknowledged again. -/
structure Final (turns : List Turn) (s : Session) : Prop where
  sound : s.Sound
  closed : ∀ t ∈ turns, t.Acknowledges → s.connection = .closed
  reported : turns.Pairwise fun t u => t.Acknowledges → u.Acknowledges → u.operation.reportsClose

theorem final_start (settings : Settings) : Final [] (.start settings) where
  sound := .start settings
  closed := by simp
  reported := .nil

theorem Final.perform {turns : List Turn} (h : Final turns s) (op : Operation) :
    let o := (perform op).run s link
    Final (turns ++ [⟨op, o.result, o.trace⟩]) o.session := by
  intro o
  have course : Course _ s op o := course_perform op s link
  refine ⟨h.sound.course course, fun t mem acknowledges => ?_, ?_⟩
  · rcases List.mem_append.mp mem with earlier | last
    · exact course.connection.elim (·.trans (h.closed t earlier acknowledges)) id
    · obtain rfl := List.mem_singleton.mp last
      exact course.closed_of_shut acknowledges.mem_shut
  · refine List.pairwise_append.mpr ⟨h.reported, List.pairwise_singleton .., ?_⟩
    intro t earlier u last acknowledged acknowledges
    obtain rfl := List.mem_singleton.mp last
    exact (late_perform h.sound (h.closed t earlier acknowledged) op).reportsClose acknowledges

end Session

namespace Run

variable {σ : Type} [Link σ] {r : Run}

theorem turns_performAll_of_closed (sound : r.session.Sound)
    (closed : r.session.connection = .closed) (more : List (Operation × σ)) :
    ∃ since, (r.performAll more).turns = r.turns ++ since ∧
      since.map (·.operation) = more.map (·.1) ∧ ∀ t ∈ since, t.Late := by
  induction more generalizing r with
  | nil => exact ⟨[], by simp [performAll], rfl, by simp⟩
  | cons call more ih =>
    obtain ⟨op, link⟩ := call
    let o := (Session.perform op).run r.session link
    have course : Session.Course _ r.session op o := Session.course_perform op r.session link
    have late : (⟨op, o.result, o.trace⟩ : Turn).Late := Session.late_perform sound closed op
    obtain ⟨since, turns, operations, lates⟩ := ih (r := r.perform op link)
      (sound.course course) (course.connection.elim (·.trans closed) id)
    refine ⟨⟨op, o.result, o.trace⟩ :: since, ?_, ?_, List.forall_mem_cons.mpr ⟨late, lates⟩⟩
    · simpa [performAll, perform] using turns
    · simpa using operations

theorem final_performAll (settings : Settings) (calls : List (Operation × σ)) :
    ((start settings).performAll calls).session.Final
      ((start settings).performAll calls).turns :=
  performAll_induction (P := fun r => r.session.Final r.turns) (Session.final_start settings)
    fun _ op _ _ final => final.perform op

/-- A connection that is closed stays so, and operations do nothing on it, but that the close is
acknowledged whenever it is to be checked. In a whole run it takes that to have it acknowledged a
second time. -/
theorem late_performAll (settings : Settings) (calls more : List (Operation × σ))
    (closed : ((start settings).performAll calls).session.connection = .closed) :
    let r := (start settings).performAll calls
    let later := r.performAll more
    later.session.connection = .closed ∧
    (∃ since, later.turns = r.turns ++ since ∧ since.map (·.operation) = more.map (·.1) ∧
      ∀ t ∈ since, t.Late) ∧
    later.turns.Pairwise fun t u =>
      t.Acknowledges → u.Acknowledges → u.operation.reportsClose := by
  intro r later
  refine ⟨closed_performAll closed more, ?_, ?_⟩
  · exact turns_performAll_of_closed (final_performAll settings calls).sound closed more
  · have final := final_performAll settings (calls ++ more)
    rw [performAll_append] at final
    exact final.reported

/-- The connection is closed by the peer; then its close is checked once more, and somebody goes on
as if nothing had happened. -/
def closing : List (Operation × Loopback) :=
  [(.next 0 none, (Loopback.start 0).push [.frame ⟨0, .method (.connectionClose .normal)⟩])]

def latecomers : List (Operation × Loopback) :=
  [(.check 0 ⟨0, .method (.connectionClose .normal)⟩ "late", .start 0),
   (.acquire, { Loopback.start 0 with replies := Loopback.agreeable }),
   (.closeConnection, .start 0)]

theorem late_latecomers :
    let r := (start .standard).performAll closing
    r.session.connection = .closed ∧ (r.performAll latecomers).session.connection = .closed :=
  have closed : ((start .standard).performAll closing).session.connection = .closed := by
    decide +kernel
  ⟨closed, (late_performAll .standard closing latecomers closed).1⟩

theorem acknowledged_twice :
    let r := (start .standard).performAll closing
    r.session.connection = .closed ∧
    r.turns.map (·.trace) = [[.pulled 0 none (.frame ⟨0, .method (.connectionClose .normal)⟩),
      .delivered 0 ⟨0, .method (.connectionClose .normal)⟩,
      .shut, .sent .connection .connectionCloseOk none]] ∧
    ((r.performAll latecomers).turns.drop 1).map (·.trace) =
      [[.shut, .sent .connection .connectionCloseOk none], [], []] := by
  decide +kernel

end Run
end Multiplex
