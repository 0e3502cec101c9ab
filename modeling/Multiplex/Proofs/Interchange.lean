import Multiplex.Link.Loopback
import Multiplex.Proofs.Session.Reading
import Multiplex.Session.Run

/-! Readers of different channels do not depend on each other's turn. Two of them that read one
after the other could as well have read the other way round: each gets the same frame, and the same
is parked and still to come afterwards. So all orders of their turns come to the same. -/

namespace Multiplex

/-- What became of readers that took turns. -/
structure Served (σ : Type) where
  answers : List (ChannelId × Except SessionError (Option Frame))
  session : Session
  link : σ

namespace Served

variable {σ : Type}

def AllFed (r : Served σ) : Prop := ∀ a ∈ r.answers, ∃ f, a.2 = .ok (some f)

def told (r : Served σ) (c : ChannelId) : List (Except SessionError (Option Frame)) :=
  (r.answers.filter (·.1 = c)).map (·.2)

/-- With an answer in front. -/
def cons (c : ChannelId) (answer : Except SessionError (Option Frame)) (r : Served σ) : Served σ :=
  { r with answers := (c, answer) :: r.answers }

variable {r : Served σ} {c d : ChannelId} {answer : Except SessionError (Option Frame)}

theorem allFed_cons : (r.cons c answer).AllFed ↔ (∃ f, answer = .ok (some f)) ∧ r.AllFed :=
  List.forall_mem_cons

theorem told_cons :
    (r.cons c answer).told d = if c = d then answer :: r.told d else r.told d := by
  by_cases here : c = d <;> simp [told, cons, here]

end Served

namespace Session

/-- Readers of some channels take turns. Each waits for one frame, without a limit. -/
def serve {σ : Type} [Link σ] (s : Session) (link : σ) : List ChannelId → Served σ
  | [] => ⟨[], s, link⟩
  | c :: cs =>
    let o := (next c none).run s link
    (serve o.session o.link cs).cons c o.result

section PutBack

variable {s t u : Session} {c d : ChannelId} {f g : Frame} {rest : Queue Frame}

/-- Put a frame in front of those that are parked. -/
def putBack (s : Session) (c : ChannelId) (f : Frame) : Session :=
  s.setQueue c (.ofList (f :: (s.queue c).toList))

theorem putBack_setQueue {frames : List Frame} (opened : s.isOpen c)
    (queued : (s.queue c).toList = f :: frames) :
    (s.setQueue c (.ofList frames)).putBack c f = s := by
  have same : Queue.ofList (f :: frames) = s.queue c :=
    Queue.ext ((Queue.toList_ofList _).trans queued.symm)
  simp [putBack, setQueue_setQueue, same, setQueue_self opened]

theorem setQueue_putBack (opened : s.isOpen c) : (s.putBack c f).setQueue c (s.queue c) = s := by
  rw [putBack, setQueue_setQueue, setQueue_self opened]

theorem setQueue_putBack_of_ne (other : d ≠ c) :
    (s.putBack c f).setQueue d rest = (s.setQueue d rest).putBack c f := by
  rw [putBack, putBack, queue_setQueue, if_neg other, setQueue_comm (Ne.symm other)]

theorem putBack_of_empty (empty : (s.queue c).toList = []) :
    s.putBack c f = s.setQueue c ((s.queue c).push f) := by
  have same : Queue.ofList (f :: (s.queue c).toList) = (s.queue c).push f :=
    Queue.ext (by simp [empty])
  rw [putBack, same]

@[simp] theorem queue_putBack_of_ne (other : c ≠ d) : (s.putBack c f).queue d = s.queue d := by
  simp [putBack, other]

theorem isOpen_putBack (opened : s.isOpen c) (d : ChannelId) :
    (s.putBack c f).isOpen d = s.isOpen d :=
  isOpen_setQueue_of_isOpen opened d _

theorem route_putBack (opened : s.isOpen c) (unbounded : s.settings.maxBuffered = none)
    (routed : s.route g = .on t) : (s.putBack c f).route g = .on (t.putBack c f) := by
  have isOpen : (s.putBack c f).isOpen g.channel = s.isOpen g.channel :=
    isOpen_putBack opened g.channel
  by_cases control : g.channel = .connection
  · obtain ⟨rfl, passes⟩ := route_of_connection control routed
    exact passes _
  rcases route_eq_on routed with ⟨rfl, nobody⟩ | ⟨-, there, -, rfl⟩
  · have closed := nobody.resolve_left control
    exact route_of_closed control (isOpen.trans closed)
  · have parked : (s.putBack c f).setQueue g.channel (((s.putBack c f).queue g.channel).push g) =
        (s.setQueue g.channel ((s.queue g.channel).push g)).putBack c f := by
      by_cases here : c = g.channel
      · have behind : (Queue.ofList (f :: (s.queue c).toList)).push g =
            .ofList (f :: ((s.queue c).push g).toList) := Queue.ext (by simp)
        simp [← here, putBack, setQueue_setQueue, behind]
      · rw [queue_putBack_of_ne here, setQueue_putBack_of_ne (Ne.symm here)]
    rw [← parked]
    exact route_of_isOpen control (isOpen.trans there) (queueFull_of_unbounded unbounded _)

theorem route_of_putBack (opened : s.isOpen c) (unbounded : s.settings.maxBuffered = none)
    (routed : (s.putBack c f).route g = .on u) : ∃ t, s.route g = .on t ∧ u = t.putBack c f := by
  cases before : s.route g with
  | close m => simp [route_eq_close_of_close before] at routed
  | full => exact absurd before (route_ne_full_of_unbounded unbounded g)
  | on t =>
    rw [route_putBack opened unbounded before] at routed
    exact ⟨t, rfl, (Routing.on.inj routed).symm⟩

end PutBack

variable {σ : Type} [Link σ] {s t u : Session} {link link' link'' : σ} {a b c : ChannelId}
  {f g : Frame}

/-- The reader of a channel gets a frame: it was parked for him, or he pulls it after others that
are none of his. -/
inductive Gets (c : ChannelId) : Session → σ → Frame → Session → σ → Prop
  | parked {s : Session} {link : σ} {f : Frame} (rest : List Frame) (opened : s.isOpen c)
    (queued : (s.queue c).toList = f :: rest) (harmless : f.closing? c = none) :
    Gets c s link f (s.setQueue c (.ofList rest)) link
  | pulled {s : Session} {link link' : σ} {f : Frame} (opened : s.isOpen c)
    (empty : (s.queue c).toList = []) (pull : Link.pull link none = (.frame f, link'))
    (own : f.channel = c) (harmless : f.closing? c = none) : Gets c s link f s link'
  | passed {s t u : Session} {link link' link'' : σ} {f g : Frame} (opened : s.isOpen c)
    (empty : (s.queue c).toList = []) (pull : Link.pull link none = (.frame g, link'))
    (foreign : g.channel ≠ c) (routed : s.route g = .on t) (later : Gets c t link' f u link'') :
    Gets c s link f u link''

namespace Gets

theorem opened (h : Gets c s link f t link') : s.isOpen c := by
  cases h <;> assumption

theorem stays (h : Gets c s link f t link') :
    t = { s with queues := t.queues } ∧ ∀ d, t.isOpen d = s.isOpen d := by
  induction h with
  | parked rest opened => exact ⟨rfl, fun d => isOpen_setQueue_of_isOpen opened d (.ofList rest)⟩
  | pulled => exact ⟨rfl, fun _ => rfl⟩
  | passed opened empty pull foreign routed later ih =>
    obtain ⟨same, isOpen⟩ := ih
    refine ⟨by rw [same, eq_of_route routed], fun d => (isOpen d).trans (isOpen_of_route routed d)⟩

theorem putBack (h : Gets a s link f t link') (other : a ≠ c) (opened : s.isOpen c)
    (unbounded : s.settings.maxBuffered = none) :
    Gets a (s.putBack c g) link f (t.putBack c g) link' := by
  induction h with
  | parked rest there queued harmless =>
    rw [← setQueue_putBack_of_ne other]
    refine parked rest ?_ ?_ harmless
    · rwa [isOpen_putBack opened]
    · rwa [queue_putBack_of_ne (Ne.symm other)]
  | pulled there empty pull own harmless =>
    refine pulled ?_ ?_ pull own harmless
    · rwa [isOpen_putBack opened]
    · rwa [queue_putBack_of_ne (Ne.symm other)]
  | passed there empty pull foreign routed later ih =>
    refine passed ?_ ?_ pull foreign (route_putBack opened unbounded routed) (ih ?_ ?_)
    · rwa [isOpen_putBack opened]
    · rwa [queue_putBack_of_ne (Ne.symm other)]
    · rwa [isOpen_of_route routed]
    · rwa [eq_of_route routed]

theorem of_putBack (h : Gets a (s.putBack c g) link f u link') (other : a ≠ c)
    (opened : s.isOpen c) (unbounded : s.settings.maxBuffered = none) :
    ∃ t, u = t.putBack c g ∧ Gets a s link f t link' := by
  generalize begin : s.putBack c g = s' at h
  induction h generalizing s with
  | parked rest there queued harmless =>
    subst begin
    rw [isOpen_putBack opened] at there
    rw [queue_putBack_of_ne (Ne.symm other)] at queued
    exact ⟨_, setQueue_putBack_of_ne other, parked rest there queued harmless⟩
  | pulled there empty pull own harmless =>
    subst begin
    rw [isOpen_putBack opened] at there
    rw [queue_putBack_of_ne (Ne.symm other)] at empty
    exact ⟨s, rfl, pulled there empty pull own harmless⟩
  | passed there empty pull foreign routed later ih =>
    subst begin
    rw [isOpen_putBack opened] at there
    rw [queue_putBack_of_ne (Ne.symm other)] at empty
    obtain ⟨t, before, rfl⟩ := route_of_putBack opened unbounded routed
    have still_open : t.isOpen c := by rwa [isOpen_of_route before]
    have still_unbounded : t.settings.maxBuffered = none := by rwa [eq_of_route before]
    obtain ⟨u, rfl, alone⟩ := ih still_open still_unbounded rfl
    exact ⟨u, rfl, passed there empty pull foreign before alone⟩

/-- A frame that is at hand is handed over, whatever was done in between on other channels. -/
theorem of_front (opened : s.isOpen c) (harmless : f.closing? c = none) :
    Gets c (s.putBack c f) link f s link := by
  have there : (s.putBack c f).isOpen c := by rwa [isOpen_putBack opened]
  have queued : ((s.putBack c f).queue c).toList = f :: (s.queue c).toList := by
    simp [Session.putBack]
  have same : Queue.ofList (s.queue c).toList = s.queue c := Queue.ext (Queue.toList_ofList _)
  simpa [same, setQueue_putBack opened] using parked _ there queued harmless

theorem eq_of_front (h : Gets c (s.putBack c f) link g t link') (opened : s.isOpen c) :
    g = f ∧ t = s ∧ link' = link ∧ f.closing? c = none := by
  have front : ((s.putBack c f).queue c).toList = f :: (s.queue c).toList := by
    simp [Session.putBack]
  cases h with
  | parked rest there queued harmless =>
    obtain ⟨rfl, same⟩ := List.cons.inj (front.symm.trans queued)
    have same : Queue.ofList rest = s.queue c := Queue.ext (by rw [Queue.toList_ofList, same])
    exact ⟨rfl, same ▸ setQueue_putBack opened, rfl, harmless⟩
  | pulled there empty => simp [front] at empty
  | passed there empty => simp [front] at empty

theorem swap_of_empty (first : Gets a s link f t link') (second : Gets b t link' g u link'')
    (other : a ≠ b) (apart : a ≠ .connection ∧ b ≠ .connection)
    (unbounded : s.settings.maxBuffered = none) (empty : (s.queue b).toList = []) :
    ∃ t' l, Gets b s link g t' l ∧ Gets a t' l f u link'' := by
  have b_open : s.isOpen b := by
    rw [← first.stays.2 b]
    exact second.opened
  induction first with
  | @parked s link f rest opened queued harmless =>
    -- What `a` takes out of the queue might as well stay there while `b` reads.
    have still_open : (s.setQueue a (.ofList rest)).isOpen a := by simp
    have there := second.putBack (g := f) (Ne.symm other) still_open unbounded
    rw [putBack_setQueue opened queued] at there
    exact ⟨_, _, there, of_front (by rwa [second.stays.2]) harmless⟩
  | @pulled s link link' f opened nothing pull own harmless =>
    have routed : s.route f = .on (s.putBack a f) := by
      rw [putBack_of_empty nothing, ← own]
      exact route_of_isOpen (own ▸ apart.1) (own ▸ opened) (queueFull_of_unbounded unbounded _)
    have later := second.putBack (g := f) (Ne.symm other) opened unbounded
    exact ⟨_, _, passed b_open empty pull (own ▸ other) routed later,
      of_front (by rwa [second.stays.2]) harmless⟩
  | @passed s t u link link' link'' f h opened nothing pull foreign routed later ih =>
    by_cases own : h.channel = b
    · -- `a` parks for `b` what `b` pulls when he comes first.
      have parked : t = s.putBack b h := by
        rw [putBack_of_empty empty, ← own]
        rw [route_of_isOpen (own ▸ apart.2) (own ▸ b_open) (queueFull_of_unbounded unbounded _)]
          at routed
        exact (Routing.on.inj routed).symm
      subst parked
      obtain ⟨u, rfl, alone⟩ := later.of_putBack other b_open unbounded
      obtain ⟨rfl, rfl, rfl, harmless⟩ := second.eq_of_front (by rwa [alone.stays.2])
      exact ⟨s, link', pulled b_open empty pull own harmless, alone⟩
    · have still_unbounded : t.settings.maxBuffered = none := by rwa [eq_of_route routed]
      have still_empty : (t.queue b).toList = [] := by rwa [queue_of_route routed own]
      have still_open : t.isOpen b := by rwa [isOpen_of_route routed]
      obtain ⟨t', l, b_first, a_second⟩ := ih second still_unbounded still_empty still_open
      exact ⟨t', l, passed b_open empty pull own routed b_first, a_second⟩

/-- Two readers that get a frame each get the same the other way round. -/
theorem swap (first : Gets a s link f t link') (second : Gets b t link' g u link'') (other : a ≠ b)
    (apart : a ≠ .connection ∧ b ≠ .connection) (unbounded : s.settings.maxBuffered = none) :
    ∃ t' l, Gets b s link g t' l ∧ Gets a t' l f u link'' := by
  cases queued : (s.queue b).toList with
  | nil => exact swap_of_empty first second other apart unbounded queued
  | cons h rest =>
    have b_open : s.isOpen b := by
      rw [← first.stays.2 b]
      exact second.opened
    have still_open : (s.setQueue b (.ofList rest)).isOpen b := by simp
    rw [← putBack_setQueue b_open queued] at first
    obtain ⟨u', rfl, alone⟩ := first.of_putBack other still_open unbounded
    obtain ⟨rfl, rfl, rfl, harmless⟩ := second.eq_of_front (by rwa [alone.stays.2])
    exact ⟨_, link, parked _ b_open queued harmless, alone⟩

theorem run_nextFrame (h : Gets c s link f t link') :
    ∃ trace, (nextFrame c none).run s link = ⟨.ok (some f), trace, t, link'⟩ := by
  induction h with
  | parked rest opened queued harmless =>
    rw [run_nextFrame_of_queued opened queued, run_deliver_of_none harmless]
    exact ⟨_, rfl⟩
  | pulled opened empty pull own harmless =>
    rw [run_nextFrame_of_empty opened empty, pullFor_of_own pull own, run_deliver_of_none harmless]
    exact ⟨_, rfl⟩
  | @passed s t u link link' link'' f g opened empty pull foreign routed later ih =>
    obtain ⟨trace, ran⟩ := ih
    have still_empty : (t.queue c).toList = [] := by rwa [queue_of_route routed foreign]
    rw [run_nextFrame_of_empty later.opened still_empty] at ran
    rw [run_nextFrame_of_empty opened empty, pullFor_of_foreign pull foreign, routed]
    exact ⟨_, congrArg (Outcome.after _) ran⟩

end Gets

theorem gets_of_pullFor (opened : s.isOpen c) (empty : (s.queue c).toList = [])
    (got : (pullFor c none s link).result = .ok (some f)) :
    Gets c s link f (pullFor c none s link).session (pullFor c none s link).link := by
  induction s, link using pullFor_induction (σ := σ) c none with
  | failed s link e link' pulled ran => simp [ran] at got
  | nothing s link link' pulled ran => simp [ran] at got
  | own s link g link' pulled own ran =>
    rw [ran, Outcome.result_after] at got
    have handed := deliver_of_ok got
    rw [ran, handed]
    have same : f = g := by simpa [handed, eq_comm] using got
    exact .pulled opened empty (same ▸ pulled) (same ▸ own) (same ▸ harmless_of_deliver got)
  | closes s link g link' m pulled foreign routed ran =>
    rw [ran, Outcome.result_after] at got
    exact absurd got closedConnection_ne_ok
  | full s link g link' pulled foreign routed ran => simp [ran] at got
  | late s link g link' t pulled foreign routed expired ran => simp [ran] at got
  | passed s link g link' t pulled foreign routed patient ran ih =>
    rw [ran, Outcome.result_after] at got
    rw [ran]
    have still_open : t.isOpen c := by rwa [isOpen_of_route routed]
    have still_empty : (t.queue c).toList = [] := by rwa [queue_of_route routed foreign]
    exact .passed opened empty pulled foreign routed (ih still_open still_empty got)

theorem gets_of_nextFrame (got : ((nextFrame c none).run s link).result = .ok (some f)) :
    Gets c s link f ((nextFrame c none).run s link).session
      ((nextFrame c none).run s link).link := by
  revert got
  refine nextFrame_cases ?_ ?_ ?_
  · intro closed got
    cases got
  · intro g rest opened queued got
    have harmless := harmless_of_deliver got
    rw [run_deliver_of_none harmless] at got ⊢
    cases got
    exact .parked rest opened queued harmless
  · intro opened empty got
    exact gets_of_pullFor opened empty got

section Serve

variable {cs ds : List ChannelId}

theorem gets_of_allFed (usable : s.connection = .open) (fed : (serve s link (c :: cs)).AllFed) :
    ∃ f t l, Gets c s link f t l ∧ (serve t l cs).AllFed ∧
      serve s link (c :: cs) = (serve t l cs).cons c (.ok (some f)) := by
  have same : (next c none).run s link = (nextFrame c none).run s link :=
    Action.run_requireOpen_bind usable _ link
  rw [serve, same, Served.allFed_cons] at fed
  obtain ⟨⟨f, got⟩, later⟩ := fed
  exact ⟨f, _, _, gets_of_nextFrame got, later, by rw [serve, same, got]⟩

theorem serve_of_gets (usable : s.connection = .open) (gets : Gets c s link f t link') :
    serve s link (c :: cs) = (serve t link' cs).cons c (.ok (some f)) := by
  obtain ⟨trace, ran⟩ := gets.run_nextFrame
  have same : (next c none).run s link = _ := (Action.run_requireOpen_bind usable _ link).trans ran
  rw [serve, same]

/-- Readers take turns until each has got a frame. In whatever other order they had come, each would
have got one too, the readers of a channel the same ones in the same order, and all would be left
as it is. -/
theorem serve_of_perm (perm : cs.Perm ds) (usable : s.connection = .open)
    (unbounded : s.settings.maxBuffered = none) (nonzero : ∀ c ∈ cs, c ≠ .connection)
    (fed : (serve s link cs).AllFed) :
    (serve s link ds).AllFed ∧ (∀ c, (serve s link ds).told c = (serve s link cs).told c) ∧
      (serve s link ds).session = (serve s link cs).session ∧
      (serve s link ds).link = (serve s link cs).link := by
  induction perm generalizing s link with
  | nil => exact ⟨fed, fun _ => rfl, rfl, rfl⟩
  | cons c perm ih =>
    obtain ⟨f, t, l, gets, later, served⟩ := gets_of_allFed usable fed
    have still_usable : t.connection = .open := by rwa [gets.stays.1]
    have still_unbounded : t.settings.maxBuffered = none := by rwa [gets.stays.1]
    obtain ⟨all, told, session, link⟩ :=
      ih still_usable still_unbounded (fun d mem => nonzero d (.tail _ mem)) later
    rw [served, serve_of_gets usable gets]
    refine ⟨Served.allFed_cons.mpr ⟨⟨f, rfl⟩, all⟩, fun d => ?_, session, link⟩
    rw [Served.told_cons, Served.told_cons, told d]
  | swap a b cs =>
    by_cases same : a = b
    · subst same
      exact ⟨fed, fun _ => rfl, rfl, rfl⟩
    obtain ⟨f, t, l, first, later, served⟩ := gets_of_allFed usable fed
    have still_usable : t.connection = .open := by rwa [first.stays.1]
    obtain ⟨g, u, l', second, latest, served'⟩ := gets_of_allFed still_usable later
    have apart : b ≠ .connection ∧ a ≠ .connection := ⟨nonzero b (by simp), nonzero a (by simp)⟩
    obtain ⟨t', k, first', second'⟩ := first.swap second (Ne.symm same) apart unbounded
    have usable' : t'.connection = .open := by rwa [first'.stays.1]
    rw [served, served', serve_of_gets usable first', serve_of_gets usable' second']
    refine ⟨?_, fun d => ?_, rfl, rfl⟩
    · exact Served.allFed_cons.mpr ⟨⟨g, rfl⟩, Served.allFed_cons.mpr ⟨⟨f, rfl⟩, latest⟩⟩
    · -- nobody is told both
      have different : ¬ (a = d ∧ b = d) := fun both => same (both.1.trans both.2.symm)
      grind [Served.told_cons]
  | trans perm _ ih ih' =>
    obtain ⟨all, told, session, link⟩ := ih usable unbounded nonzero fed
    obtain ⟨all', told', session', link'⟩ :=
      ih' usable unbounded (fun c mem => nonzero c (perm.mem_iff.mpr mem)) all
    exact ⟨all', fun c => (told' c).trans (told c), session'.trans session, link'.trans link⟩

def pair : Session :=
  ((Run.start ⟨false, .ignore, none⟩).performAll
    (.replicate 2 (.acquire, { Loopback.start 0 with replies := Loopback.agreeable }))).session

/-- Among the frames for channels 1 and 2 are a heartbeat and one for a channel that is not open. -/
theorem serve_pair :
    let link := { Loopback.start 0 with
      incoming := [.frame ⟨2, .body [1]⟩, .frame ⟨0, .heartbeat⟩, .frame ⟨1, .body [2]⟩,
        .frame ⟨7, .body [3]⟩, .frame ⟨1, .body [4]⟩, .frame ⟨2, .body [5]⟩] }
    [(1 : ChannelId), 2, 1].Perm [2, 1, 1] ∧ pair.connection = .open ∧
    pair.settings.maxBuffered = none ∧ (∀ c ∈ [(1 : ChannelId), 2, 1], c ≠ .connection) ∧
    (serve pair link [1, 2, 1]).AllFed ∧ (serve pair link [2, 1, 1]).AllFed ∧
    (serve pair link [2, 1, 1]).told 1 = [.ok (some ⟨1, .body [2]⟩), .ok (some ⟨1, .body [4]⟩)] ∧
    (serve pair link [2, 1, 1]).link.incoming = [.frame ⟨2, .body [5]⟩] := by
  intro link
  have perm : [(1 : ChannelId), 2, 1].Perm [2, 1, 1] := by decide
  have usable : pair.connection = .open := by decide +kernel
  have unbounded : pair.settings.maxBuffered = none := by decide +kernel
  have nonzero : ∀ c ∈ [(1 : ChannelId), 2, 1], c ≠ .connection := by
    simp [ChannelId.connection]
  have fed : (serve pair link [1, 2, 1]).AllFed := by
    have answers : (serve pair link [1, 2, 1]).answers =
        [(1, .ok (some ⟨1, .body [2]⟩)), (2, .ok (some ⟨2, .body [1]⟩)),
          (1, .ok (some ⟨1, .body [4]⟩))] := by decide +kernel
    simp [Served.AllFed, answers]
  obtain ⟨all, told, -, left⟩ := serve_of_perm perm usable unbounded nonzero fed
  refine ⟨perm, usable, unbounded, nonzero, fed, all, (told 1).trans ?_, ?_⟩
  · decide +kernel
  · rw [left]
    decide +kernel

end Serve

end Session
end Multiplex
