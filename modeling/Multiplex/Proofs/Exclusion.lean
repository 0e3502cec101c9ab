import Multiplex.Proofs.Bookkeeping
import Multiplex.Session.Shared

/-! Nobody gets a channel that somebody else holds, however the turns of the users fall. A channel
is held from the moment it is handed out until it is released or something ends it. -/

namespace Multiplex

/-- The channels in somebody's hands after a turn that began with those in `held`. -/
def Turn.leaves (t : Turn) (held : List ChannelId) : List ChannelId :=
  let left := held.filter fun c => t.trace.all (·.ends c = false)
  match t.operation, t.result with
  | .acquire, .ok (.channel c) => c :: left
  | .release c, .ok _ => left.filter (· ≠ c)
  | _, _ => left

def held (turns : List Turn) : List ChannelId := turns.foldl (fun held t => t.leaves held) []

theorem held_concat (turns : List Turn) (t : Turn) :
    held (turns ++ [t]) = t.leaves (held turns) := by
  simp [held]

theorem Turn.mem_leaves {t : Turn} {held : List ChannelId} {c : ChannelId}
    (h : c ∈ t.leaves held) :
    (t.operation = .acquire ∧ t.result = .ok (.channel c)) ∨
      c ∈ held ∧ (∀ e ∈ t.trace, e.ends c = false) ∧
        ∀ r, t.operation = .release c → t.result ≠ .ok r := by
  unfold leaves at h
  grind

namespace Session

/-- No channel is held that is idle. -/
structure Exclusive (held : List ChannelId) (s : Session) : Prop where
  open_of_held : ∀ c ∈ held, c ≠ .connection ∧ s.isOpen c ∧ c ∉ s.pool
  open_of_idle : ∀ c ∈ s.pool, s.isOpen c

/-- Whoever was handed a channel got one that was nobody else's and is ready for use. -/
def HandedOut (held : List ChannelId) {σ : Type} (o : Outcome σ Reply) : Prop :=
  ∀ c, o.result = .ok (.channel c) →
    c ≠ .connection ∧ c ∉ held ∧ o.session.isOpen c ∧ c ∉ o.session.pool

variable {σ : Type} {max : ChannelId} {s : Session} {op : Operation} {o : Outcome σ Reply}
  {held : List ChannelId}

theorem handedOut_of_course (sound : s.Sound) (h : Exclusive held s) (positive : max ≠ 0)
    (course : Course max s .acquire o) : HandedOut held o := by
  intro c answered
  cases course with
  | refused => cases answered
  | reused c idle link usable pooled =>
    obtain ⟨⟩ := answered
    have mem : c ∈ s.pool := pooled ▸ .head _
    have distinct := sound.distinct
    rw [pooled, List.nodup_cons] at distinct
    obtain ⟨nonzero, opened⟩ := sound.idle c mem
    exact ⟨nonzero, fun taken => (h.open_of_held c taken).2.2 mem, opened, distinct.1⟩
  | reserved d o usable unused free work ready =>
    obtain ⟨same, opened⟩ := ready _ answered
    obtain ⟨⟩ := same
    obtain ⟨-, closed, nonzero, -⟩ := reservable_eq_some positive free
    refine ⟨nonzero, fun taken => ?_, opened, ?_⟩
    · have := (h.open_of_held c taken).2.1
      simp [closed] at this
    · intro idle
      have before := work.moves.pool.mem idle
      rw [show (s.hold c).pool = [] from unused] at before
      cases before
  | worked op k o task work => cases task

theorem Exclusive.course (sound : s.Sound) (h : Exclusive held s) (positive : max ≠ 0)
    (course : Course max s op o) :
    Exclusive ((⟨op, o.result, o.trace⟩ : Turn).leaves held) o.session := by
  have after : o.session.Sound := sound.course course
  refine ⟨fun c taken => ?_, fun c idle => (after.idle c idle).2⟩
  rcases Turn.mem_leaves taken with ⟨acquired, answered⟩ | ⟨before, unended, unreleased⟩
  · obtain rfl : op = .acquire := acquired
    obtain ⟨nonzero, -, ready⟩ := handedOut_of_course sound h positive course c answered
    exact ⟨nonzero, ready⟩
  · obtain ⟨nonzero, opened, used⟩ := h.open_of_held c before
    refine ⟨nonzero, course.isOpen opened unended, fun idle => ?_⟩
    rcases course.pool idle with pooled | ⟨released, done⟩
    · exact used pooled
    · exact unreleased _ released done

end Session

/-- How things stand after some turns: the books are in order, and nobody shares a channel. -/
structure Settled (turns : List Turn) (s : Session) : Prop where
  sound : s.Sound
  exclusive : s.Exclusive (held turns)

section Turns

variable {ι σ : Type} {turns : List Turn} {s : Session}

theorem Settled.course {max : ChannelId} {op : Operation} {o : Outcome σ Reply}
    (h : Settled turns s) (positive : max ≠ 0) (course : Session.Course max s op o) :
    Settled (turns ++ [⟨op, o.result, o.trace⟩]) o.session where
  sound := h.sound.course course
  exclusive := by
    rw [held_concat]
    exact h.exclusive.course h.sound positive course

theorem settled_start (settings : Settings) : Settled [] (.start settings) where
  sound := .start settings
  exclusive := ⟨by simp [held], by simp [Session.start]⟩

variable [Link σ]

theorem settled_performAll (settings : Settings) (calls : List (Operation × σ)) :
    Settled ((Run.start settings).performAll calls).turns
      ((Run.start settings).performAll calls).session := by
  refine Run.performAll_induction (P := fun r => Settled r.turns r.session)
    (settled_start settings) fun r op link _ settled => ?_
  have course := Session.course_perform op r.session link
  exact settled.course (ChannelId.bound_ne_zero _) course

theorem Shared.course_locked (m : Shared σ) (op : Operation) :
    Session.Course (ChannelId.bound (Link.channelMax m.link)) m.session op
      (m.locked (Session.perform op)) := by
  unfold locked
  split
  · exact .refused ..
  · exact Session.course_perform op m.session m.link

theorem settled_visitAll {d : Sharing ι σ} (visits : List (ι × Visit σ))
    (h : Settled (turns ++ d.turns.map (·.2)) d.shared.session) :
    Settled (turns ++ (d.visitAll visits).turns.map (·.2)) (d.visitAll visits).shared.session := by
  induction visits generalizing d with
  | nil => exact h
  | cons visit visits ih =>
    obtain ⟨user, visit⟩ := visit
    refine ih ?_
    cases visit with
    | perform op link =>
      have course := Shared.course_locked { d.shared with link } op
      have settled := h.course (ChannelId.bound_ne_zero _) course
      simpa [Sharing.visit, Shared.leave] using settled
    | breakDown => exact h

/-- A channel that is handed out is ready for use and nobody else's, and no channel in somebody's
hands is idle, after any run of a session and any turns of the users that share it then. -/
theorem exclusive_visitAll (settings : Settings) (calls : List (Operation × σ)) (link : σ)
    (visits : List (ι × Visit σ)) :
    let alone := (Run.start settings).performAll calls
    let d := (⟨[], .ofSession alone.session link⟩ : Sharing ι σ).visitAll visits
    let turns := alone.turns ++ d.turns.map (·.2)
    d.shared.session.Exclusive (held turns) ∧
    ∀ link : σ, Session.HandedOut (held turns)
      (Shared.locked { d.shared with link } (Session.perform .acquire)) := by
  intro alone d turns
  have before : Settled (alone.turns ++ []) alone.session := by
    simpa using settled_performAll settings calls
  have settled : Settled turns d.shared.session := settled_visitAll visits before
  refine ⟨settled.exclusive, fun link => ?_⟩
  exact Session.handedOut_of_course settled.sound settled.exclusive (ChannelId.bound_ne_zero _)
    (Shared.course_locked { d.shared with link } .acquire)

end Turns
end Multiplex
