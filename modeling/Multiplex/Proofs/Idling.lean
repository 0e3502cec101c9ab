import Mathlib.Data.List.Basic
import Multiplex.Link.Loopback
import Multiplex.Proofs.Bookkeeping

/-! Which channels are idle. They are those that were released and have been neither handed out nor
ended since, in the order they were released in, and the first of them is the next to be handed
out. -/

namespace Multiplex

def Turn.released? (t : Turn) : Option ChannelId :=
  match t.operation, t.result with
  | .release c, .ok _ => some c
  | _, _ => none

/-- Whether a channel is handed out in a turn, or ends in it. -/
def Turn.takes (c : ChannelId) (t : Turn) : Bool :=
  (t.operation = .acquire && t.result = .ok (.channel c)) || t.trace.any (·.ends c)

/-- The channels that were released and that nobody has taken since, in order of release. -/
def unclaimed : List Turn → List ChannelId
  | [] => []
  | t :: later => (t.released?.filter fun c => !later.any (·.takes c)).toList ++ unclaimed later

theorem unclaimed_concat (turns : List Turn) (t : Turn) :
    unclaimed (turns ++ [t]) =
      (unclaimed turns).filter (!t.takes ·) ++ t.released?.toList := by
  induction turns with
  | nil => cases released : t.released? <;> simp [unclaimed, released]
  | cons first later ih =>
    rw [List.cons_append, unclaimed, unclaimed, ih, List.filter_append, List.append_assoc]
    cases first.released? with
    | none => simp
    | some c =>
      rw [Option.filter_some, Option.filter_some, List.any_append]
      cases later.any (·.takes c) <;> cases now : t.takes c <;> simp [now]

namespace Session

open Multiplex.Action

variable {σ : Type} {k : Task} {past trace events : List Event} {s t : Session} {max : ChannelId}
  {op : Operation} {o : Outcome σ Reply}

theorem Move.pool_eq (h : Move k past s events t) :
    t.pool = s.pool.filter fun c => !events.any (·.ends c) := by
  cases h with
  | park wait f t foreign routed =>
    rw [eq_of_route routed]
    simp [Event.ends]
  | acknowledge | conclude => simp [forget, dropQueue, Event.ends, eq_comm]
  | abandon nonzero opened unused => simp [dropQueue, unused]
  | shut | surrender => simp [Session.shut, Event.ends]
  | _ => simp [setQueue, Event.ends]

theorem Moves.pool_eq (h : Moves k past s trace t) :
    t.pool = s.pool.filter fun c => !trace.any (·.ends c) := by
  refine h.keeps (P := fun trace t => t.pool = s.pool.filter fun c => !trace.any (·.ends c))
    (by simp) fun held move => ?_
  rw [move.pool_eq, held, List.filter_filter]
  simp [Bool.and_comm]

theorem pool_aside {pool : List ChannelId} {r : Except SessionError Reply}
    (kept : t.pool = pool.filter fun c => !trace.any (·.ends c)) (acquire : op ≠ .acquire)
    (release : ∀ c, op ≠ .release c) :
    t.pool = pool.filter (!(⟨op, r, trace⟩ : Turn).takes ·) ++
      (⟨op, r, trace⟩ : Turn).released?.toList := by
  have nothing : (⟨op, r, trace⟩ : Turn).released? = none := by
    unfold Turn.released?
    split
    · exact absurd ‹_› (release _)
    · rfl
  simp [Turn.takes, acquire, nothing, kept]

theorem Course.pool_eq (h : Course max s op o) (distinct : s.pool.Nodup) :
    o.session.pool = s.pool.filter (!(⟨op, o.result, o.trace⟩ : Turn).takes ·) ++
      (⟨op, o.result, o.trace⟩ : Turn).released?.toList := by
  cases h with
  | released c link => simp [Turn.takes, Turn.released?]
  | reused c idle link usable pooled =>
    have others : c ∉ idle := (List.nodup_cons.mp (pooled ▸ distinct)).1
    have kept : idle.filter (fun d => !decide (c = d)) = idle := by
      refine List.filter_eq_self.mpr fun d mem => ?_
      simpa using (ne_of_mem_of_not_mem mem others).symm
    simp [Turn.takes, Turn.released?, pooled, kept]
  | reserved c o usable unused free work =>
    have empty : o.session.pool = [] := List.sublist_nil.mp (unused ▸ work.moves.pool)
    simp [Turn.released?, unused, empty]
  | worked op k o task work =>
    refine pool_aside work.moves.pool_eq ?_ ?_
    · rintro rfl
      cases task
    · rintro c rfl
      cases task
  | closed o usable work => exact pool_aside work.pool_eq (by simp) (by simp)
  | _ => simp [Turn.takes, Turn.released?]

variable [Link σ]

theorem run_acquire_of_pool {c : ChannelId} {idle : List ChannelId}
    (usable : s.connection = .open) (pooled : s.pool = c :: idle) (link : σ) :
    (perform .acquire).run s link = ⟨.ok (.channel c), [], { s with pool := idle }, link⟩ := by
  change (Reply.channel <$> acquire).run s link = _
  rw [run_map, acquire, run_requireOpen_bind usable, run_session_bind, pooled]
  rfl

end Session

namespace Run

variable {σ : Type} [Link σ]

/-- The pool holds the channels that were released and that nobody has taken since, first released
first; and as long as there is one and the connection is open, the first is what an acquisition
hands out, which takes it out of the pool and does nothing else. -/
theorem pool_performAll (settings : Settings) (calls : List (Operation × σ)) :
    let r := (start settings).performAll calls
    r.session.pool = unclaimed r.turns ∧
    ∀ c idle (link : σ), r.session.pool = c :: idle → r.session.connection = .open →
      (Session.perform .acquire).run r.session link =
        ⟨.ok (.channel c), [], { r.session with pool := idle }, link⟩ := by
  intro r
  refine ⟨?_, fun c idle link pooled usable => Session.run_acquire_of_pool usable pooled link⟩
  have both : r.session.Sound ∧ r.session.pool = unclaimed r.turns := by
    refine performAll_induction (P := fun r => r.session.Sound ∧ r.session.pool = unclaimed r.turns)
      ⟨.start settings, rfl⟩ fun r op link _ ⟨sound, pool⟩ => ?_
    have course := Session.course_perform op r.session link
    refine ⟨sound.course course, ?_⟩
    rw [perform, unclaimed_concat, ← pool]
    exact course.pool_eq sound.distinct
  exact both.2

/-- Three channels are released; one of them is closed then, and another is used once more. -/
def shuffled : List (Operation × Loopback) :=
  let broker := { Loopback.start 0 with replies := Loopback.agreeable }
  [(.acquire, broker), (.acquire, broker), (.acquire, broker), (.release 3, broker),
   (.release 1, broker), (.release 2, broker), (.closeChannel 1, broker), (.acquire, broker),
   (.release 3, broker)]

theorem pool_shuffled :
    let r := (start .standard).performAll shuffled
    unclaimed r.turns = [2, 3] ∧
    (Session.perform .acquire).run r.session (Loopback.start 0) =
      ⟨.ok (.channel 2), [], { r.session with pool := [3] }, Loopback.start 0⟩ := by
  intro r
  have waiting : unclaimed r.turns = [2, 3] := by decide +kernel
  obtain ⟨pool, handed⟩ := pool_performAll .standard shuffled
  exact ⟨waiting, handed 2 [3] _ (pool.trans waiting) (by decide +kernel)⟩

end Run
end Multiplex
