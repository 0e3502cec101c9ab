import Multiplex.Proofs.Session.Course

/-! The bookkeeping of a session stays in order, whatever is done and whatever the link answers:
the connection's channel is there and has nothing parked, queues hold only their own and not too
much, and an idle channel is an open one that is idle once. -/

namespace Multiplex
namespace Session

structure Fitting (settings : Settings) (c : ChannelId) (frames : Queue Frame) : Prop where
  own : ∀ f ∈ frames.toList, f.channel = c
  bounded : ∀ bound ∈ settings.maxBuffered, frames.length ≤ bound
  quiet : c = .connection → frames.toList = []

structure Sound (s : Session) : Prop where
  control : s.isOpen .connection
  fitting : ∀ c, Fitting s.settings c (s.queue c)
  distinct : s.pool.Nodup
  idle : ∀ c ∈ s.pool, c ≠ .connection ∧ s.isOpen c
  closed : s.connection = .closed → s.pool = [] ∧ ∀ c, s.isOpen c ↔ c = .connection

section Fitting

variable {settings : Settings} {c : ChannelId} {f : Frame} {frames rest : Queue Frame}

theorem fitting_empty : Fitting settings c .empty where
  own := by simp
  bounded _ _ := Nat.zero_le _
  quiet _ := rfl

theorem Fitting.push (h : Fitting settings f.channel frames) (nonzero : f.channel ≠ .connection)
    (room : ∀ bound ∈ settings.maxBuffered, frames.length < bound) :
    Fitting settings f.channel (frames.push f) where
  own := by simpa using fun g hg => hg.elim (h.own g) (congrArg Frame.channel)
  bounded bound hb := by
    rw [← Queue.length_toList, Queue.toList_push, List.length_append, Queue.length_toList]
    exact room bound hb
  quiet zero := absurd zero nonzero

theorem Fitting.pop (h : Fitting settings c frames) (queued : frames.toList = f :: rest.toList) :
    Fitting settings c rest where
  own g hg := h.own g (queued ▸ List.mem_cons_of_mem f hg)
  bounded bound hb := by
    have shorter := congrArg List.length queued
    simp only [Queue.length_toList, List.length_cons] at shorter
    have := h.bounded bound hb
    omega
  quiet zero := by simp [h.quiet zero] at queued

end Fitting

theorem length_lt_of_queueFull_eq_false {s : Session} {frames : Queue Frame}
    (h : s.queueFull frames = false) : ∀ bound ∈ s.settings.maxBuffered, frames.length < bound := by
  intro bound hb
  simpa [queueFull, Option.mem_def.mp hb] using h

namespace Sound

variable {k : Task} {past trace events : List Event} {s t : Session} {c : ChannelId}
  {frames : Queue Frame} {max : ChannelId} {op : Operation}

theorem start (settings : Settings) : (Session.start settings).Sound where
  control := by simp
  fitting c := by simpa using fitting_empty
  distinct := .nil
  idle := by simp [Session.start]
  closed := by simp [Session.start]

theorem shut (s : Session) : s.shut.Sound where
  control := by simp
  fitting c := by simpa using fitting_empty
  distinct := .nil
  idle := by simp [Session.shut]
  closed _ := ⟨rfl, by simp⟩

theorem setQueue (h : s.Sound) (opened : s.isOpen c) (fitting : Fitting s.settings c frames) :
    (s.setQueue c frames).Sound where
  control := by simp [h.control]
  fitting d := by
    rw [queue_setQueue]
    split
    · rename_i same
      exact same ▸ fitting
    · exact h.fitting d
  distinct := h.distinct
  idle d hd := by simp [h.idle d hd]
  closed hc := by
    obtain ⟨pool, only⟩ := h.closed hc
    exact ⟨pool, by simpa [isOpen_setQueue_of_isOpen opened] using only⟩

theorem hold (h : s.Sound) (usable : s.connection = .open) (c : ChannelId) : (s.hold c).Sound where
  control := by simp [h.control]
  fitting d := by
    rw [queue_hold]
    split
    · exact fitting_empty
    · exact h.fitting d
  distinct := h.distinct
  idle d hd := by
    have := h.idle d hd
    simp [this]
  closed hc := by
    rw [show (s.hold c).connection = s.connection from rfl, usable] at hc
    cases hc

theorem forget (h : s.Sound) (nonzero : c ≠ .connection) : (s.forget c).Sound where
  control := by simp [nonzero, h.control]
  fitting d := by
    rw [queue_forget]
    split
    · exact fitting_empty
    · exact h.fitting d
  distinct := h.distinct.filter _
  idle d hd := by
    obtain ⟨pooled, other⟩ := List.mem_filter.mp hd
    have other : c ≠ d := by simpa using Ne.symm (of_decide_eq_true other)
    simpa [other] using h.idle d pooled
  closed hc := by
    obtain ⟨pool, only⟩ := h.closed hc
    refine ⟨by simp [Session.forget, pool], fun d => ?_⟩
    rw [isOpen_forget, Bool.and_eq_true, only d]
    grind

theorem dropQueue (h : s.Sound) (nonzero : c ≠ .connection) (unused : s.pool = []) :
    (s.dropQueue c).Sound := by
  have sound := h.forget nonzero
  refine ⟨sound.control, sound.fitting, h.distinct, ?_, fun hc => ⟨unused, (sound.closed hc).2⟩⟩
  rw [show (s.dropQueue c).pool = [] from unused]
  simp

theorem repool {pool : List ChannelId} (h : s.Sound) (usable : s.connection ≠ .closed)
    (distinct : pool.Nodup) (idle : ∀ c ∈ pool, c ≠ .connection ∧ s.isOpen c) :
    ({ s with pool } : Session).Sound :=
  ⟨h.control, h.fitting, distinct, idle, fun hc => absurd hc usable⟩

theorem move (h : s.Sound) (move : Move k past s events t) : t.Sound := by
  cases move with
  | park wait f t foreign routed =>
    rcases route_eq_on routed with ⟨rfl, -⟩ | ⟨nonzero, opened, room, rfl⟩
    · exact h
    · exact h.setQueue opened
        ((h.fitting _).push nonzero (length_lt_of_queueFull_eq_false room))
  | unpark f rest opened queued => exact h.setQueue opened ((h.fitting _).pop queued)
  | acknowledge failure nonzero => exact h.forget nonzero
  | conclude nonzero => exact h.forget nonzero
  | abandon nonzero opened unused => exact h.dropQueue nonzero unused
  | shut | surrender => exact Sound.shut s
  | _ => exact h

theorem moves (h : s.Sound) (moves : Moves k past s trace t) : t.Sound :=
  moves.keeps (P := fun _ t => t.Sound) h fun held step => held.move step

theorem course {σ : Type} {o : Outcome σ Reply} (h : s.Sound) (course : Course max s op o) :
    o.session.Sound := by
  cases course with
  | refused | found => exact h
  | registered | unregistered => exact ⟨h.control, h.fitting, h.distinct, h.idle, h.closed⟩
  | released c link nonzero opened used =>
    have usable : s.connection ≠ .closed := fun hc => nonzero (((h.closed hc).2 c).mp opened)
    refine h.repool usable ?_ ?_
    · refine List.nodup_append.mpr ⟨h.distinct, by simp, ?_⟩
      intro d hd e he same
      exact used (List.mem_singleton.mp he ▸ same ▸ hd)
    · intro d hd
      rcases List.mem_append.mp hd with pooled | last
      · exact h.idle d pooled
      · rw [List.mem_singleton.mp last]
        exact ⟨nonzero, opened⟩
  | reused c idle link usable pooled =>
    have distinct := h.distinct
    have places := h.idle
    rw [pooled] at distinct places
    exact h.repool (by simp [usable]) distinct.tail fun d hd => places d (.tail _ hd)
  | reserved c o usable unused free work ready => exact (h.hold usable c).moves work.moves
  | worked op k o task work => exact h.moves work.moves
  | closed o usable work shut =>
    have closing : ({ s with connection := .closingLocal } : Session).Sound :=
      ⟨h.control, h.fitting, h.distinct, h.idle, by simp⟩
    exact closing.moves work

end Sound

/-- Numbers are handed out up to a bound. -/
structure Numbered (max : ChannelId) (s : Session) : Prop where
  within : ∀ c, s.isOpen c → c ≠ .connection → 1 ≤ c ∧ c ≤ max
  few : s.openCount ≤ max.toNat

namespace Numbered

variable {k : Task} {past trace : List Event} {s t : Session} {max : ChannelId} {op : Operation}

theorem start (settings : Settings) : Numbered max (.start settings) where
  within c opened nonzero := by simp [nonzero] at opened
  few := Nat.zero_le _

theorem moves (h : Numbered max s) (moves : Moves k past s trace t) : Numbered max t where
  within c opened nonzero := by
    have before : s.isOpen c := (moves.isOpen_of_isOpen opened).resolve_right nonzero
    exact h.within c before nonzero
  few := Nat.le_trans moves.openCount_le h.few

theorem hold {c : ChannelId} (h : Numbered max s) (unbounded : max ≠ 0)
    (free : s.reservable max = some c) : Numbered max (s.hold c) := by
  obtain ⟨room, -, nonzero, within⟩ := reservable_eq_some unbounded free
  constructor
  · intro d opened other
    rw [isOpen_hold, Bool.or_eq_true, decide_eq_true_eq] at opened
    rcases opened with rfl | opened
    · have positive : 1 ≤ c := by
        unfold ChannelId.connection at nonzero
        grind
      exact ⟨positive, within⟩
    · exact h.within d opened other
  · have := s.openCount_hold_le c
    omega

theorem course {σ : Type} {o : Outcome σ Reply} (h : Numbered max s) (unbounded : max ≠ 0)
    (course : Course max s op o) : Numbered max o.session := by
  cases course with
  | reserved c o usable unused free work ready => exact (h.hold unbounded free).moves work.moves
  | worked op k o task work => exact h.moves work.moves
  | closed o usable work shut =>
    have closing : Numbered max { s with connection := .closingLocal } := ⟨h.within, h.few⟩
    exact closing.moves work
  | _ => exact ⟨h.within, h.few⟩

end Numbered

end Session

namespace Run

variable {σ : Type} [Link σ]

theorem closed_performAll {r : Run} (closed : r.session.connection = .closed)
    (calls : List (Operation × σ)) : (r.performAll calls).session.connection = .closed := by
  refine performAll_induction (P := fun r => r.session.connection = .closed) closed
    fun r op link _ closed => ?_
  have course := Session.course_perform op r.session link
  exact course.connection.elim (·.trans closed) id

theorem inOrder_performAll (settings : Settings) (calls : List (Operation × σ)) :
    ((start settings).performAll calls).session.Sound :=
  performAll_induction (P := fun r => r.session.Sound) (Session.Sound.start settings)
    fun r op link _ sound => sound.course (Session.course_perform op r.session link)

theorem connection_performAll (settings : Settings) (calls : List (Operation × σ)) :
    let s := ((start settings).performAll calls).session
    s.connection = .open ∨ s.connection = .closed := by
  refine performAll_induction
    (P := fun r => r.session.connection = .open ∨ r.session.connection = .closed) (.inl rfl)
    fun r op link _ either => ?_
  rcases (Session.course_perform op r.session link).connection with same | closed
  · rwa [← same] at either
  · exact .inr closed

/-- What holds of the bookkeeping after every run. -/
theorem sound_performAll (settings : Settings) (calls : List (Operation × σ)) :
    let s := ((start settings).performAll calls).session
    s.settings = settings ∧ s.Sound ∧ (s.connection = .open ∨ s.connection = .closed) ∧
    (s.connection = .closed → ∀ more : List (Operation × σ),
      ((start settings).performAll (calls ++ more)).session.connection = .closed) ∧
    ∀ advertised, (∀ call ∈ calls, Link.channelMax call.2 = advertised) →
      s.Numbered (ChannelId.bound advertised) := by
  intro s
  refine ⟨settings_performAll _ calls, inOrder_performAll settings calls,
    connection_performAll settings calls, fun closed more => ?_, fun advertised same => ?_⟩
  · rw [performAll_append]
    exact closed_performAll closed more
  · refine performAll_induction (P := fun r => r.session.Numbered (ChannelId.bound advertised))
      (Session.Numbered.start settings) fun r op link mem numbered => ?_
    have course := Session.course_perform op r.session link
    rw [same _ mem] at course
    exact numbered.course (ChannelId.bound_ne_zero _) course

end Run
end Multiplex
