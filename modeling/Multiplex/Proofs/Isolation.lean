import Multiplex.Link.Loopback
import Multiplex.Proofs.Session.Books
import Multiplex.Proofs.Session.Course

/-! Channels do not get in each other's way. Whatever is done on one of them, and however it ends,
the others stay as they were as long as the connection is not lost, except that what comes in for
them is parked, as far as there is room. -/

namespace Multiplex

/-- How many of the frames that come in find room behind those that are parked. -/
def Settings.room (settings : Settings) (parked coming : Nat) : Nat :=
  (settings.maxBuffered.map (· - parked)).getD coming

/-- Whether an operation that finds the session `s` is about a channel. To acquire one is about the
one that is handed out or reserved. -/
def Operation.ActsOn (op : Operation) (s : Session) (trace : List Event) (c : ChannelId) : Prop :=
  match op with
  | .release d | .next d _ | .call d _ _ | .readContent d | .readReturned d _ | .check d _ _
  | .closeChannel d | .finishChannel d => d = c
  | .acquire => s.pool.head? = some c ∨ .reserved c ∈ trace
  | .register .. | .unregister _ | .lookup _ | .closeConnection | .finishConnection => False

theorem Operation.ActsOn.channel {op : Operation} {s : Session} {trace : List Event}
    {c : ChannelId} {k : Session.Task} (acts : op.ActsOn s trace c) (task : op.task? = some k) :
    k.channel = c := by
  cases op with
  | finishConnection => cases acts
  | acquire | release | register | unregister | lookup | closeConnection => cases task
  | _ =>
    obtain ⟨⟩ := task
    exact acts

namespace Settings

variable {settings : Settings} {parked : Nat} {α : Type}

theorem room_of_full (full : settings.full parked) : settings.room parked 1 = 0 := by
  unfold Settings.full at full
  unfold room
  cases h : settings.maxBuffered with
  | none => simp [h] at full
  | some bound =>
    have reached : bound ≤ parked := by simpa [h] using full
    simp [reached]

theorem room_pos (free : settings.full parked = false) : 0 < settings.room parked 1 := by
  unfold Settings.full at free
  unfold room
  cases h : settings.maxBuffered with
  | none => simp
  | some bound =>
    have below : parked < bound := by simpa [h] using free
    simp only [Option.map_some, Option.getD_some]
    omega

theorem room_after (settings : Settings) (parked : Nat) (first second : List α) :
    let all := settings.room parked (first ++ second).length
    let taken := first.take (settings.room parked first.length)
    first.take all = taken ∧ first.drop all = first.drop (settings.room parked first.length) ∧
    settings.room (parked + taken.length) second.length = all - first.length := by
  unfold room
  cases settings.maxBuffered with
  | none => simp [List.take_of_length_le]
  | some bound =>
    simp only [Option.map_some, Option.getD_some, List.length_take, true_and]
    omega

theorem take_room_append (settings : Settings) (parked : Nat) (first second : List α) :
    (first ++ second).take (settings.room parked (first ++ second).length) =
      first.take (settings.room parked first.length) ++ second.take (settings.room
        (parked + (first.take (settings.room parked first.length)).length) second.length) := by
  obtain ⟨taken, -, left⟩ := room_after settings parked first second
  rw [List.take_append, taken, left]

theorem drop_room_append (settings : Settings) (parked : Nat) (first second : List α) :
    (first ++ second).drop (settings.room parked (first ++ second).length) =
      first.drop (settings.room parked first.length) ++ second.drop (settings.room
        (parked + (first.take (settings.room parked first.length)).length) second.length) := by
  obtain ⟨-, lost, left⟩ := room_after settings parked first second
  rw [List.drop_append, lost, left]

end Settings

namespace Session

/-- What became of channel `b` while something was done on channel `c`. -/
structure Apart (b c : ChannelId) (s : Session) (trace : List Event) (t : Session) : Prop where
  isOpen : t.isOpen b = s.isOpen b
  pool : t.pool.filter (· ≠ c) = s.pool.filter (· ≠ c)
  tags : ∀ tag : String, t.consumers[tag]? = some b ↔ s.consumers[tag]? = some b
  parked : s.isOpen b → (t.queue b).toList = (s.queue b).toList ++
    (arrived b trace).take (s.settings.room (s.queue b).length (arrived b trace).length)
  lost : s.isOpen b → refused b trace =
    (arrived b trace).drop (s.settings.room (s.queue b).length (arrived b trace).length)

namespace Apart

variable {b c : ChannelId} {s t u : Session} {trace events past : List Event} {k : Task}

theorem still (isOpen : t.isOpen b = s.isOpen b)
    (pool : t.pool.filter (· ≠ c) = s.pool.filter (· ≠ c))
    (tags : ∀ tag : String, t.consumers[tag]? = some b ↔ s.consumers[tag]? = some b)
    (queue : t.queue b = s.queue b) (away : ∀ e ∈ trace, e.touches b = false) :
    Apart b c s trace t := by
  have nothing_came : arrived b trace = [] := by
    refine List.filterMap_eq_nil_iff.mpr fun e he => ?_
    have := away e he
    fun_cases Event.arrivedOn b e <;> simp_all [Event.touches]
  have nothing_lost : refused b trace = [] := by
    refine List.filterMap_eq_nil_iff.mpr fun e he => ?_
    have := away e he
    cases e <;> simp_all [Event.touches, Event.refusedOn]
  exact ⟨isOpen, pool, tags, by simp [queue, nothing_came], by simp [nothing_came, nothing_lost]⟩

theorem refl : Apart b c s [] s := still rfl rfl (fun _ => Iff.rfl) rfl (by simp)

theorem trans (first : Apart b c s trace t) (same : t.settings = s.settings)
    (second : Apart b c t events u) : Apart b c s (trace ++ events) u where
  isOpen := second.isOpen.trans first.isOpen
  pool := second.pool.trans first.pool
  tags tag := (second.tags tag).trans (first.tags tag)
  parked opened := by
    have before := first.parked opened
    have length := congrArg List.length before
    simp only [Queue.length_toList, List.length_append] at length
    rw [second.parked (first.isOpen ▸ opened), before, arrived_append, same, length,
      Settings.take_room_append, List.append_assoc]
  lost opened := by
    have length := congrArg List.length (first.parked opened)
    simp only [Queue.length_toList, List.length_append] at length
    rw [refused_append, first.lost opened, second.lost (first.isOpen ▸ opened), arrived_append,
      same, length, Settings.drop_room_append]

theorem of_move_park {wait : Timeout} {f : Frame} {reader : ChannelId} (nonzero : b ≠ .connection)
    (routed : s.route f = .on t) : Apart b c s [.pulled reader wait (.frame f)] t := by
  have same : t = { s with queues := t.queues } := eq_of_route routed
  have pool : t.pool = s.pool := by rw [same]
  have consumers : t.consumers = s.consumers := by rw [same]
  have isOpen := isOpen_of_route routed b
  by_cases here : f.channel = b
  · have came : arrived b [.pulled reader wait (.frame f)] = [f] := by
      simp [arrived, Event.arrivedOn, here]
    have kept : refused b [.pulled reader wait (.frame f)] = [] := rfl
    have room (opened : s.isOpen b) : 0 < s.settings.room (s.queue b).length 1 ∧
        t = s.setQueue b ((s.queue b).push f) := by
      subst here
      rcases route_eq_on routed with ⟨-, nobody⟩ | ⟨-, -, free, parked⟩
      · simp [opened, nonzero] at nobody
      · rw [queueFull_eq, Queue.length_toList] at free
        exact ⟨Settings.room_pos free, parked⟩
    refine ⟨isOpen, by rw [pool], fun tag => by rw [consumers], fun opened => ?_, fun opened => ?_⟩
    · obtain ⟨pos, parked⟩ := room opened
      have fits : [f].take (s.settings.room (s.queue b).length 1) = [f] :=
        List.take_of_length_le pos
      rw [came, List.length_singleton, fits, parked]
      simp
    · obtain ⟨pos, -⟩ := room opened
      rw [came, kept, List.length_singleton, List.drop_of_length_le pos]
  · exact still isOpen (by rw [pool]) (fun tag => by rw [consumers]) (queue_of_route routed here)
      (by simp [Event.touches, here])

theorem of_move_refuse {wait : Timeout} {f : Frame} {reader : ChannelId}
    (routed : s.route f = .full) : Apart b c s [.pulled reader wait (.frame f), .refused f] s := by
  by_cases here : f.channel = b
  · subst here
    obtain ⟨-, -, full⟩ := route_eq_full routed
    rw [queueFull_eq, Queue.length_toList] at full
    have none_fits := Settings.room_of_full full
    refine ⟨rfl, rfl, fun _ => Iff.rfl, fun _ => ?_, fun _ => ?_⟩ <;>
      simp [arrived, refused, Event.arrivedOn, Event.refusedOn, none_fits]
  · exact still rfl rfl (fun _ => Iff.rfl) rfl (by simp [Event.touches, here])

theorem forget (away : c ≠ b) (untouched : ∀ e ∈ trace, e.touches b = false) :
    Apart b c s trace (s.forget c) := by
  refine still (by simp [away]) (by simp [Session.forget]) (fun tag => ?_) (by simp [away]) untouched
  simp only [Session.forget, Consumers.getElem?_dropChannel, Option.filter_eq_some_iff]
  simp [Ne.symm away]

theorem move (step : Move k past s events t) (usable : t.connection = .open) (other : b ≠ k.channel)
    (nonzero : b ≠ .connection) : Apart b k.channel s events t := by
  have away : k.channel ≠ b := Ne.symm other
  cases step with
  | ask => exact still rfl rfl (fun _ => Iff.rfl) rfl (by simp [Event.touches])
  | idle wait answer empty =>
    refine still rfl rfl (fun _ => Iff.rfl) rfl ?_
    cases answer with
    | frame f => exact absurd rfl (empty f)
    | _ => simp [Event.touches]
  | hand wait f own =>
    exact still rfl rfl (fun _ => Iff.rfl) rfl (by simp [Event.touches, own, away])
  | park wait f t foreign routed => exact of_move_park nonzero routed
  | refuse wait f foreign routed => exact of_move_refuse routed
  | alarm wait f m foreign routed =>
    have connection : f.channel ≠ b := by
      rw [(route_eq_close routed).1]
      exact Ne.symm nonzero
    exact still rfl rfl (fun _ => Iff.rfl) rfl (by simp [Event.touches, connection])
  | unpark f rest opened =>
    exact still (isOpen_setQueue_of_isOpen opened b rest) rfl (fun _ => Iff.rfl) (by simp [away])
      (by simp [Event.touches, away])
  | acknowledge | conclude => exact forget away (by simp [Event.touches])
  | abandon =>
    exact still (by simp [away]) rfl (fun _ => Iff.rfl) (by simp [away]) (by simp [Event.touches])
  | shut | surrender => cases usable

theorem moves (steps : Moves k past s trace t) (usable : t.connection = .open)
    (other : b ≠ k.channel) (nonzero : b ≠ .connection) : Apart b k.channel s trace t := by
  -- the connection has been open all along, or everything would have been lost
  induction steps with
  | none => exact refl
  | snoc before step ih =>
    have open_before := (step.connection.resolve_right fun bare => by
      simp [bare.closed] at usable).symm.trans usable
    exact (ih open_before).trans before.settings (move step usable other nonzero)

theorem hold (other : b ≠ c) : Apart b c s [.reserved c] (s.hold c) :=
  still (by simp [Ne.symm other]) rfl (fun _ => Iff.rfl) (by simp [Ne.symm other])
    (by simp [Event.touches])

theorem course {σ : Type} {max : ChannelId} {op : Operation} {o : Outcome σ Reply}
    (course : Course max s op o) (acts : op.ActsOn s o.trace c)
    (usable : o.session.connection = .open)
    (other : b ≠ c) (nonzero : b ≠ .connection) : Apart b c s o.trace o.session := by
  cases course with
  | refused => exact refl
  | found | registered | unregistered | closed => cases acts
  | released d =>
    obtain rfl : d = c := acts
    exact still rfl (by simp) (fun _ => Iff.rfl) rfl (by simp)
  | reused d idle link usable pooled =>
    obtain rfl : d = c := by simpa [Operation.ActsOn, pooled] using acts
    exact still rfl (by simp [pooled]) (fun _ => Iff.rfl) rfl (by simp)
  | reserved d o usable unused free work =>
    obtain rfl : c = d := by
      simpa [Operation.ActsOn, unused, work.moves.unreserved] using acts
    exact (hold other).trans rfl (moves work.moves usable other nonzero)
  | worked op k o task work =>
    obtain rfl := acts.channel task
    exact moves work.moves usable other nonzero

end Apart

section Perform

variable {σ : Type} [Link σ] {op : Operation} {s : Session} {link : σ} {b c : ChannelId}

/-- Whatever is done on a channel, and whether it succeeds or not: as long as the connection is
open afterwards, every other channel is open, idle and registered as it was, the idle ones are in
the order they were in, and what came in for it is parked, in that order, behind what was parked
before, but for the frames that found no more room. -/
theorem apart_perform (acts : op.ActsOn s ((perform op).run s link).trace c)
    (usable : ((perform op).run s link).session.connection = .open) (other : b ≠ c)
    (nonzero : b ≠ .connection) :
    let o := (perform op).run s link
    Apart b c s o.trace o.session ∧ (b ∈ o.session.pool ↔ b ∈ s.pool) := by
  intro o
  have apart : Apart b c s o.trace o.session :=
    Apart.course (course_perform op s link) acts usable other nonzero
  have kept (pool : List ChannelId) : b ∈ pool.filter (· ≠ c) ↔ b ∈ pool := by simp [other]
  refine ⟨apart, ?_⟩
  rw [← kept, apart.pool, kept]

def cramped : Session :=
  ((Run.start ⟨false, .ignore, some 1⟩).performAll
    [(.acquire, { Loopback.start 0 with replies := Loopback.agreeable })]).session

/-- While another channel is opened three frames come in for it. The second one makes the opening
fail, and the third breaks off the wait for the new channel to be closed again. -/
theorem apart_cramped :
    let link := { Loopback.start 0 with
      incoming := [.frame ⟨1, .body [1]⟩, .frame ⟨1, .body [2]⟩, .frame ⟨1, .body [3]⟩] }
    let o := (perform .acquire).run cramped link
    Operation.acquire.ActsOn cramped o.trace 2 ∧ o.session.connection = .open ∧
    (1 : ChannelId) ≠ 2 ∧ (1 : ChannelId) ≠ .connection ∧
    o.result = .error (.bufferFull 1) ∧ (o.session.queue 1).toList = [⟨1, .body [1]⟩] ∧
    refused 1 o.trace = [⟨1, .body [2]⟩, ⟨1, .body [3]⟩] := by
  intro link o
  have acts : Operation.acquire.ActsOn cramped o.trace 2 := .inr (by decide +kernel)
  have usable : o.session.connection = .open := by decide +kernel
  obtain ⟨apart, -⟩ := apart_perform acts usable (by decide : (1 : ChannelId) ≠ 2) (by decide)
  have came : arrived 1 o.trace = [⟨1, .body [1]⟩, ⟨1, .body [2]⟩, ⟨1, .body [3]⟩] := by
    decide +kernel
  have opened : cramped.isOpen 1 := by decide +kernel
  have parked := apart.parked opened
  have lost := apart.lost opened
  rw [came] at parked lost
  refine ⟨acts, usable, by decide, by decide, by decide +kernel, ?_, ?_⟩
  · rw [parked]
    decide +kernel
  · rw [lost]
    decide +kernel

end Perform
end Session
end Multiplex
