import Multiplex.Proofs.LostChannel
import Multiplex.Proofs.Losing

/-! Which channel a consumer tag is on. It is the one that the tag was registered on last, unless
the tag was taken off since, or the channel was lost, or the connection. -/

namespace Multiplex

def Turn.Registers (u : Turn) (tag : String) (c : ChannelId) : Prop :=
  u.operation = .register tag c ∧ u.result = .ok .done

def Turn.Unregisters (u : Turn) (tag : String) : Prop :=
  u.operation = .unregister tag ∧ ∃ d, u.result = .ok (.channel d)

/-- What ends the registration of a tag on a channel. -/
def Turn.Cancels (u : Turn) (tag : String) (c : ChannelId) : Prop :=
  u.Unregisters tag ∨ u.Loses (.channel c) ∨ u.Loses .connection

/-- The tag was registered on the channel, and nothing has ended that since. -/
def Tagged (tag : String) (c : ChannelId) (turns : List Turn) : Prop :=
  ∃ before u after, turns = before ++ u :: after ∧ u.Registers tag c ∧
    ∀ v ∈ after, ¬ v.Cancels tag c

theorem not_tagged_nil (tag : String) (c : ChannelId) : ¬ Tagged tag c [] := by simp [Tagged]

theorem tagged_concat {tag : String} {c : ChannelId} {turns : List Turn} {u : Turn} :
    Tagged tag c (turns ++ [u]) ↔
      u.Registers tag c ∨ Tagged tag c turns ∧ ¬ u.Cancels tag c := by
  constructor
  · rintro ⟨before, v, after, split, registers, since⟩
    rcases eq_append_cons_or split with ⟨rest, rfl⟩ | ⟨rest, rfl, last⟩
    · obtain rfl : rest ++ [u] = after := by simpa using split
      obtain ⟨since, now⟩ := List.forall_mem_append.mp since
      exact .inr ⟨⟨before, v, rest, rfl, registers, since⟩, now u (.head _)⟩
    · cases rest with
      | nil =>
        obtain ⟨rfl, -⟩ := List.cons.inj last
        exact .inl registers
      | cons w rest => simp at last
  · rintro (registers | ⟨⟨before, v, after, rfl, registers, since⟩, now⟩)
    · exact ⟨turns, u, [], rfl, registers, by simp⟩
    · refine ⟨before, v, after ++ [u], by simp, registers, ?_⟩
      exact List.forall_mem_append.mpr ⟨since, by simpa using now⟩

/-- Neither the channel is lost nor the connection. -/
def Spares (c : ChannelId) (trace : List Event) : Prop :=
  ¬ Lost (.channel c) trace ∧ ¬ Lost .connection trace

theorem spares_append {c : ChannelId} {trace events : List Event} :
    Spares c (trace ++ events) ↔ Spares c trace ∧ Spares c events := by
  grind [Spares, lost_append]

theorem spares_of_kept {trace : List Event} (kept : ∀ e ∈ trace, e.loss? = none) (c : ChannelId) :
    Spares c trace := ⟨not_lost kept _, not_lost kept _⟩

namespace Session

open Multiplex.Action

variable {σ : Type} {k : Task} {past trace events : List Event} {s t : Session} {max : ChannelId}
  {op : Operation} {o : Outcome σ Reply} {tag : String} {c d : ChannelId}

theorem tag_forget_iff (s : Session) (d : ChannelId) :
    (s.forget d).consumers[tag]? = some c ↔ s.consumers[tag]? = some c ∧ d ≠ c := by
  simp [forget, Consumers.getElem?_dropChannel, Option.filter_eq_some_iff,
    eq_comm (a := d)]

/-- Tags go with what is lost, and no other way. -/
theorem Move.tag_iff (h : Move k past s events t) :
    t.consumers[tag]? = some c ↔ s.consumers[tag]? = some c ∧ Spares c events := by
  cases h with
  | park wait f t foreign routed =>
    rw [eq_of_route routed]
    simp [Spares, Lost, Event.loss?]
  | acknowledge | conclude => simp [tag_forget_iff, Spares, Lost, Event.loss?]
  | shut | surrender => simp [Session.shut, Spares, Lost, Event.loss?]
  | _ => simp [setQueue, dropQueue, Spares, Lost, Event.loss?]

theorem Moves.tag_iff (h : Moves k past s trace t) :
    t.consumers[tag]? = some c ↔ s.consumers[tag]? = some c ∧ Spares c trace := by
  refine h.keeps
    (P := fun trace t => t.consumers[tag]? = some c ↔ s.consumers[tag]? = some c ∧ Spares c trace)
    (by simp [Spares]) fun held move => ?_
  rw [move.tag_iff, held, spares_append, and_assoc]

theorem tag_aside (kept : t.consumers[tag]? = some c ↔ s.consumers[tag]? = some c ∧ Spares c trace)
    (register : ∀ tag c, op ≠ .register tag c) (unregister : ∀ tag, op ≠ .unregister tag)
    (r : Except SessionError Reply) : t.consumers[tag]? = some c ↔
      Turn.Registers ⟨op, r, trace⟩ tag c ∨
      s.consumers[tag]? = some c ∧ ¬ Turn.Unregisters ⟨op, r, trace⟩ tag ∧ Spares c trace := by
  simp [Turn.Registers, Turn.Unregisters, register, unregister, kept]

theorem Course.tag_iff (h : Course max s op o) : o.session.consumers[tag]? = some c ↔
    Turn.Registers ⟨op, o.result, o.trace⟩ tag c ∨
    s.consumers[tag]? = some c ∧ ¬ Turn.Unregisters ⟨op, o.result, o.trace⟩ tag ∧
      Spares c o.trace := by
  have silent : Spares c [] := spares_of_kept (by simp) c
  cases h with
  | registered name d consumers link fresh =>
    obtain ⟨unbound, rfl⟩ := Consumers.register_eq_ok.mp fresh
    rw [Std.ExtTreeMap.getElem?_insert]
    by_cases same : name = tag
    · subst same
      simp [Turn.Registers, Turn.Unregisters, unbound, eq_comm]
    · simp [Turn.Registers, Turn.Unregisters, same, silent]
  | unregistered name d consumers link known =>
    obtain ⟨bound, rfl⟩ := Consumers.unregister_eq_ok.mp known
    rw [Std.ExtTreeMap.getElem?_erase]
    by_cases same : name = tag <;> simp [Turn.Registers, Turn.Unregisters, same, silent]
  | reserved e o usable unused free work =>
    have reserved : Spares c [.reserved e] := spares_of_kept (by simp [Event.loss?]) c
    refine tag_aside (s := s) ?_ (by simp) (by simp) _
    rw [Outcome.trace_after, spares_append, and_iff_right reserved]
    exact work.moves.tag_iff
  | worked op k o task work =>
    refine tag_aside work.moves.tag_iff ?_ ?_ _
    · rintro name d rfl
      cases task
    · rintro name rfl
      cases task
  | closed o usable work => exact tag_aside work.tag_iff (by simp) (by simp) _
  | _ => simp [Turn.Registers, Turn.Unregisters, silent]

variable [Link σ]

theorem tag_perform_iff (op : Operation) (s : Session) (link : σ) (tag : String) (c : ChannelId) :
    let o := (perform op).run s link
    o.session.consumers[tag]? = some c ↔ Turn.Registers ⟨op, o.result, o.trace⟩ tag c ∨
      s.consumers[tag]? = some c ∧ ¬ Turn.Cancels ⟨op, o.result, o.trace⟩ tag c := by
  intro o
  have course : Course _ s op o := course_perform op s link
  have lost (x : Scope) : Lost x o.trace ↔ Turn.Loses ⟨op, o.result, o.trace⟩ x :=
    lost_iff_loses op s link x
  rw [course.tag_iff, Turn.Cancels, not_or, not_or, Spares, lost, lost]

theorem tag_perform_of_lost {op : Operation} {link : σ}
    (lost : Lost (.channel c) ((perform op).run s link).trace) (tag : String) (d : ChannelId) :
    ((perform op).run s link).session.consumers[tag]? = some d ↔
      d ≠ c ∧ s.consumers[tag]? = some d := by
  have busy : ((perform op).run s link).trace ≠ [] := by
    intro silent
    simp [silent] at lost
  have register : ∀ tag c, op ≠ .register tag c := by
    rintro name e rfl
    exact busy (silent_bookkeeping rfl (by simp) (by simp))
  have unregister : ∀ tag, op ≠ .unregister tag := by
    rintro name rfl
    exact busy (silent_bookkeeping rfl (by simp) (by simp))
  have spares : Spares d ((perform op).run s link).trace ↔ d ≠ c := by
    constructor
    · rintro ⟨kept, -⟩ rfl
      exact kept lost
    · intro other
      refine ⟨fun gone => other ?_, fun gone => ?_⟩
      · exact Scope.channel.inj (once_perform op s link _ _ gone lost)
      · cases once_perform op s link _ _ gone lost
  rw [(course_perform op s link).tag_iff, spares]
  simp [Turn.Registers, Turn.Unregisters, register, unregister, and_comm]

theorem run_register (tag : String) (c : ChannelId) (s : Session) (link : σ) :
    (perform (.register tag c)).run s link =
      if tag ∈ s.consumers then ⟨.error (.duplicateTag tag), [], s, link⟩
      else ⟨.ok .done, [], { s with consumers := s.consumers.insert tag c }, link⟩ := by
  rw [perform, run_map]
  by_cases there : tag ∈ s.consumers <;>
    simp [register, Consumers.register, there, Outcome.map, Except.map]

theorem run_unregister (tag : String) (s : Session) (link : σ) :
    (perform (.unregister tag)).run s link =
      match s.consumers[tag]? with
      | some c => ⟨.ok (.channel c), [], { s with consumers := s.consumers.erase tag }, link⟩
      | none => ⟨.error (.tagNotFound tag), [], s, link⟩ := by
  rw [perform, run_map]
  cases there : s.consumers[tag]? <;>
    simp [unregister, Consumers.unregister, there, Outcome.map, Except.map]

theorem run_lookup (tag : String) (s : Session) (link : σ) :
    (perform (.lookup tag)).run s link =
      ⟨(s.consumers.lookup tag).map .channel, [], s, link⟩ := by
  rw [perform, run_session_bind, run_map]
  rfl

end Session

namespace Run

variable {σ : Type} [Link σ]

theorem tagged_performAll (settings : Settings) (calls : List (Operation × σ)) (tag : String)
    (c : ChannelId) :
    let r := (start settings).performAll calls
    r.session.consumers[tag]? = some c ↔ Tagged tag c r.turns := by
  refine performAll_induction
    (P := fun r => r.session.consumers[tag]? = some c ↔ Tagged tag c r.turns) ?_
    fun r op link _ held => ?_
  · simp [start, Session.start, not_tagged_nil]
  · rw [perform, tagged_concat, ← held]
    exact Session.tag_perform_iff op r.session link tag c

/-- A lookup finds the channel that a tag was registered on and that it has not been taken off
since. A registration fails just if the tag is on a channel, and leaves it there. A tag that is on a
channel can be taken off, which tells the channel and leaves the other tags alone; any other tag is
not found, and nothing changes. And whatever loses one channel takes exactly the tags of that
one. -/
theorem registry_performAll (settings : Settings) (calls : List (Operation × σ)) :
    let r := (start settings).performAll calls
    let found := r.session.consumers.lookup
    (∀ tag c, found tag = .ok c ↔ Tagged tag c r.turns) ∧
    (∀ tag (link : σ), (Session.perform (.lookup tag)).run r.session link =
      ⟨(found tag).map .channel, [], r.session, link⟩) ∧
    (∀ tag c (link : σ),
      let o := (Session.perform (.register tag c)).run r.session link
      (o.result = .ok .done ↔ ∀ d, found tag ≠ .ok d) ∧
      (o.result ≠ .ok .done → o.result = .error (.duplicateTag tag) ∧ o.session = r.session)) ∧
    (∀ tag (link : σ),
      let o := (Session.perform (.unregister tag)).run r.session link
      (∀ c, o.result = .ok (.channel c) ↔ found tag = .ok c) ∧
      ((∀ c, found tag ≠ .ok c) →
        o.result = .error (.tagNotFound tag) ∧ o.session = r.session) ∧
      ∀ other d, o.session.consumers.lookup other = .ok d ↔ other ≠ tag ∧ found other = .ok d) ∧
    ∀ op (link : σ) c,
      let o := (Session.perform op).run r.session link
      Turn.Loses ⟨op, o.result, o.trace⟩ (.channel c) → ∀ tag d,
        o.session.consumers.lookup tag = .ok d ↔ d ≠ c ∧ found tag = .ok d := by
  intro r found
  have bound (tag : String) (c : ChannelId) :
      found tag = .ok c ↔ r.session.consumers[tag]? = some c := Consumers.lookup_eq_ok
  have unbound (tag : String) : (∀ c, found tag ≠ .ok c) ↔ r.session.consumers[tag]? = none := by
    simp [bound, Option.eq_none_iff_forall_ne_some]
  refine ⟨fun tag c => ?_, fun tag link => Session.run_lookup tag r.session link,
    fun tag c link => ?_, fun tag link => ?_, fun op link c loses tag d => ?_⟩
  · rw [bound]
    exact tagged_performAll settings calls tag c
  · rw [Session.run_register, unbound]
    by_cases there : tag ∈ r.session.consumers <;> simp [there]
  · rw [Session.run_unregister, unbound]
    simp only [bound, Consumers.lookup_eq_ok]
    cases there : r.session.consumers[tag]? with
    | none =>
      have elsewhere {other : String} {d : ChannelId}
          (known : r.session.consumers[other]? = some d) : other ≠ tag := by
        rintro rfl
        simp [there] at known
      exact ⟨by simp, by simp, fun other d => ⟨fun known => ⟨elsewhere known, known⟩, And.right⟩⟩
    | some c =>
      refine ⟨by simp, by simp, fun other d => ?_⟩
      rw [Std.ExtTreeMap.getElem?_erase]
      by_cases same : tag = other
      · simp [same]
      · simp [same, Ne.symm same]
  · rw [Consumers.lookup_eq_ok, bound]
    exact Session.tag_perform_of_lost ((Session.lost_iff_loses op r.session link _).mpr loses) tag d

def consuming : List (Operation × Loopback) :=
  [(.acquire, { Loopback.start 0 with replies := Loopback.agreeable }),
   (.register "near" 1, .start 0), (.register "far" 7, .start 0), (.register "farther" 7, .start 0)]

/-- A tag cannot be registered twice, is taken off once, and goes with its channel. -/
theorem registry_consuming :
    let r := (start .standard).performAll consuming
    let link := (Loopback.start 0).push [.frame ⟨1, .method Session.refusal⟩]
    let o := (Session.perform (.next 1 none)).run r.session link
    let taken := (Session.perform (.unregister "far")).run r.session link
    Tagged "near" 1 r.turns ∧ Tagged "far" 7 r.turns ∧
    ((Session.perform (.register "near" 7)).run r.session link).result =
      .error (.duplicateTag "near") ∧
    taken.result = .ok (.channel 7) ∧ taken.session.consumers.lookup "far" ≠ .ok 7 ∧
    taken.session.consumers.lookup "farther" = .ok 7 ∧
    ((Session.perform (.unregister "nowhere")).run r.session link).result =
      .error (.tagNotFound "nowhere") ∧
    Turn.Loses ⟨.next 1 none, o.result, o.trace⟩ (.channel 1) ∧
    o.session.consumers.lookup "near" ≠ .ok 1 ∧ o.session.consumers.lookup "far" = .ok 7 := by
  intro r link o taken
  obtain ⟨told, -, registers, unregisters, loses⟩ := registry_performAll .standard consuming
  have near : r.session.consumers.lookup "near" = .ok 1 := by decide +kernel
  have far : r.session.consumers.lookup "far" = .ok 7 := by decide +kernel
  have farther : r.session.consumers.lookup "farther" = .ok 7 := by decide +kernel
  have nowhere : r.session.consumers.lookup "nowhere" = .error (.tagNotFound "nowhere") := by
    decide +kernel
  have unknown : ∀ c, r.session.consumers.lookup "nowhere" ≠ .ok c := by simp [nowhere]
  have refused : ((Session.perform (.register "near" 7)).run r.session link).result ≠ .ok .done :=
    fun done => (registers "near" 7 link).1.mp done 1 near
  have lost : Turn.Loses ⟨.next 1 none, o.result, o.trace⟩ (.channel 1) :=
    .met _ ⟨.delivered 1 ⟨1, .method Session.refusal⟩, by decide +kernel, Session.refusal, rfl⟩
  obtain ⟨tells, -, left⟩ := unregisters "far" link
  refine ⟨(told "near" 1).mp near, (told "far" 7).mp far, ((registers "near" 7 link).2 refused).1,
    (tells 7).mpr far, fun still => ((left "far" 7).mp still).1 rfl,
    (left "farther" 7).mpr ⟨by decide, farther⟩,
    ((unregisters "nowhere" link).2.1 unknown).1, lost, fun still => ?_, ?_⟩
  · exact ((loses (.next 1 none) link 1 lost "near" 1).mp still).1 rfl
  · exact (loses (.next 1 none) link 1 lost "far" 7).mpr ⟨by decide, far⟩

end Run
end Multiplex
