import Multiplex.Link.Loopback
import Multiplex.Proofs.Session.Reading
import Multiplex.Session.Run

/-! Who waits on a channel does not notice what comes in for the others. Drop the frames of all
other channels from what is still to come, and he is told the same, sends the same and leaves the
same, the queues of the other channels apart. -/

namespace Multiplex

/-- What an event sends, and how that went. -/
def Event.sent? : Event → Option (ChannelId × Method × Option LinkError)
  | .sent c m failure => some (c, m, failure)
  | .pulled .. | .delivered .. | .refused _ | .reserved _ | .forgotten _ | .abandoned _ | .shut =>
    none

/-- What was sent, in order. -/
def sent (trace : List Event) : List (ChannelId × Method × Option LinkError) :=
  trace.filterMap (·.sent?)

theorem sent_append (trace events : List Event) :
    sent (trace ++ events) = sent trace ++ sent events :=
  List.filterMap_append

/-- Whether the reader of a channel takes notice: of failures and waits that ran out, of his own
frames and of the connection's. -/
def Pulled.concerns (a : ChannelId) : Pulled → Bool
  | .frame f => f.channel = a ∨ f.channel = .connection
  | .nothing | .failed _ => true

/-- Drop what does not concern the reader of a channel. -/
def Loopback.screen (a : ChannelId) (l : Loopback) : Loopback :=
  { l with incoming := l.incoming.filter (·.concerns a) }

/-- What drops from a link, of all that is to come, the frames that do not concern the reader of a
channel. -/
structure Link.Sieve {σ : Type} [Link σ] (a : ChannelId) (sift : σ → σ) : Prop where
  dropped : ∀ link link' wait f, Link.pull link wait = (.frame f, link') →
    (Pulled.frame f).concerns a = false → sift link' = sift link
  kept : ∀ link link' wait p, Link.pull link wait = (p, link') → p.concerns a →
    Link.pull (sift link) wait = (p, sift link')
  sent : ∀ link c m, c = a ∨ c = .connection →
    Link.send (sift link) c m = ((Link.send link c m).1, sift (Link.send link c m).2)

theorem Loopback.sieve (a : ChannelId) : Link.Sieve a (Loopback.screen a) where
  dropped l l' wait f pulled foreign := by
    cases coming : l.incoming with
    | nil => cases wait <;> simp [Link.pull, pull, coming] at pulled
    | cons p rest =>
      obtain ⟨rfl, rfl⟩ : p = .frame f ∧ { l with incoming := rest } = l' := by
        simpa [Link.pull, pull, coming] using pulled
      simp [screen, coming, foreign]
  kept l l' wait p pulled concerned := by
    cases coming : l.incoming with
    | nil =>
      obtain ⟨same, rfl⟩ := Prod.mk.inj (by simpa [Link.pull, pull, coming] using pulled)
      simp [Link.pull, pull, screen, coming, same]
    | cons q rest =>
      obtain ⟨rfl, rfl⟩ : q = p ∧ { l with incoming := rest } = l' := by
        simpa [Link.pull, pull, coming] using pulled
      simp [Link.pull, pull, screen, coming, concerned]
  sent l c m near := by
    have heard (reply : Method) : (Pulled.frame ⟨c, .method reply⟩).concerns a := by
      simpa [Pulled.concerns] using near
    change (l.screen a).send c m = ((l.send c m).1, (l.send c m).2.screen a)
    cases failing : l.sendFailure <;> cases answer : l.replies.lookup m.id <;>
      simp [send, screen, push, failing, answer, heard]

namespace Session

open Multiplex.Action

variable {σ α β : Type} {a : ChannelId} {s s' t u : Session} {f : Frame}

/-- Two sessions are alike to the reader of channel `a`: they differ in nothing but the frames that
are parked for others. -/
structure Alike (a : ChannelId) (s t : Session) : Prop where
  rest : t = { s with queues := t.queues }
  isOpen : ∀ c, t.isOpen c = s.isOpen c
  queue : ∀ c, c = a ∨ c = .connection → t.queue c = s.queue c

namespace Alike

theorem refl (s : Session) : s.Alike a s := ⟨rfl, fun _ => rfl, fun _ _ => rfl⟩

theorem symm (h : s.Alike a t) : t.Alike a s where
  rest := by rw [h.rest]
  isOpen c := (h.isOpen c).symm
  queue c near := (h.queue c near).symm

theorem trans (h : s.Alike a t) (h' : t.Alike a u) : s.Alike a u where
  rest := h'.rest.trans (by rw [h.rest])
  isOpen c := (h'.isOpen c).trans (h.isOpen c)
  queue c near := (h'.queue c near).trans (h.queue c near)

theorem connection (h : s.Alike a t) : t.connection = s.connection := by rw [h.rest]

theorem settings (h : s.Alike a t) : t.settings = s.settings := by rw [h.rest]

theorem forget (h : s.Alike a t) (c : ChannelId) : (s.forget c).Alike a (t.forget c) where
  rest := by
    rw [h.rest]
    rfl
  isOpen d := by simp [h.isOpen]
  queue d near := by simp [h.queue d near]

theorem setQueue (h : s.Alike a t) (frames : Queue Frame) :
    (s.setQueue a frames).Alike a (t.setQueue a frames) where
  rest := by
    rw [h.rest]
    rfl
  isOpen d := by simp [h.isOpen]
  queue d near := by simp [h.queue d near]

theorem shut (h : s.Alike a t) : s.shut.Alike a t.shut where
  rest := by
    rw [h.rest]
    rfl
  isOpen d := by simp
  queue d near := by simp

theorem of_route (h : s.Alike a t) (routed : s.route f = .on s') (foreign : f.channel ≠ a) :
    s'.Alike a t where
  rest := h.rest.trans (by rw [eq_of_route routed])
  isOpen c := (h.isOpen c).trans (isOpen_of_route routed c).symm
  queue c near := by
    rw [h.queue c near]
    rcases near with rfl | rfl
    · exact (queue_of_route routed foreign).symm
    · rcases route_eq_on routed with ⟨rfl, -⟩ | ⟨nonzero, -⟩
      · rfl
      · exact (queue_of_route routed nonzero).symm

end Alike

/-- What becomes of the same thing with one session and link and with others that look the same to
the reader of channel `a`, the frames that do not concern him having been dropped. -/
structure Echo (a : ChannelId) (sift : σ → σ) (o o' : Outcome σ α) : Prop where
  result : o'.result = o.result
  sent : sent o'.trace = sent o.trace
  unbounded : o.session.settings.maxBuffered = none
  session : o.session.Alike a o'.session
  link : o'.link = sift o.link

def Deaf (a : ChannelId) (sift : σ → σ) (x : Action σ α) : Prop :=
  ∀ s t link, s.settings.maxBuffered = none → s.Alike a t →
    Echo a sift (x.run s link) (x.run t (sift link))

section Deaf

variable {sift : σ → σ} {link : σ}

theorem Echo.after {o o' : Outcome σ α} {events events' : List Event} (h : Echo a sift o o')
    (same : Multiplex.sent events' = Multiplex.sent events) :
    Echo a sift (o.after events) (o'.after events') where
  result := h.result
  sent := by simp [sent_append, h.sent, same]
  unbounded := h.unbounded
  session := h.session
  link := h.link

/-- Only one of the two took notice, and nothing was sent for it. -/
theorem Echo.unheard {o o' : Outcome σ α} {events : List Event} (h : Echo a sift o o')
    (quiet : Multiplex.sent events = []) : Echo a sift (o.after events) o' := by
  rw [← o'.after_nil]
  exact h.after quiet.symm

namespace Deaf

theorem ofExcept (r : Except SessionError α) : Deaf a sift (.ofExcept r) :=
  fun _ _ _ unbounded alike => ⟨rfl, rfl, unbounded, alike, rfl⟩

theorem settle {x : Action σ α} {next : Except SessionError α → Action σ β} (first : Deaf a sift x)
    (later : ∀ r, Deaf a sift (next r)) : Deaf a sift (x.settle next) := by
  intro s t link unbounded alike
  have same := first s t link unbounded alike
  rw [run_settle, run_settle, same.result, same.link]
  exact (later _ _ _ _ same.unbounded same.session).after same.sent

theorem bind {x : Action σ α} {next : α → Action σ β} (first : Deaf a sift x)
    (later : ∀ r, Deaf a sift (next r)) : Deaf a sift (x >>= next) := by
  change Deaf a sift (x.andThen next)
  unfold andThen
  refine settle first fun r => ?_
  cases r with
  | ok r => exact later r
  | error e => exact ofExcept _

theorem map {x : Action σ α} (h : Deaf a sift x) (f : α → β) : Deaf a sift (f <$> x) :=
  h.bind fun _ => ofExcept _

theorem session_bind {next : Session → Action σ β}
    (looked : ∀ s t link, s.settings.maxBuffered = none → s.Alike a t →
      Echo a sift ((next s).run s link) ((next t).run t (sift link))) :
    Deaf a sift (session >>= next) := looked

theorem change {f : Session → Session} {events : List Event}
    (settings : ∀ s, (f s).settings = s.settings) (alike : ∀ s t, s.Alike a t → (f s).Alike a (f t)) :
    Deaf a sift (change f events) := by
  intro s t link unbounded h
  exact ⟨rfl, rfl, (congrArg _ (settings s)).trans unbounded, alike s t h, rfl⟩

theorem record (events : List Event) : Deaf a sift (record events) :=
  fun _ _ _ unbounded alike => ⟨rfl, rfl, unbounded, alike, rfl⟩

theorem requireOpen : Deaf a sift requireOpen := by
  intro s t link unbounded alike
  simp only [Action.requireOpen, alike.connection]
  cases s.connection <;> exact ⟨rfl, rfl, unbounded, alike, rfl⟩

end Deaf

variable [Link σ] {c : ChannelId} {m : Method} {context : String}

theorem deaf_send (sieve : Link.Sieve a sift) (near : c = a ∨ c = .connection) :
    Deaf a sift (send c m context) := by
  intro s t link unbounded alike
  simp only [send, sieve.sent link c m near]
  rcases Link.send link c m with ⟨e | _, link'⟩ <;> exact ⟨rfl, rfl, unbounded, alike, rfl⟩

theorem deaf_finishChannel (sieve : Link.Sieve a sift) : Deaf a sift (finishChannel a) := by
  refine .session_bind fun s t link unbounded alike => ?_
  rw [alike.isOpen]
  split
  · exact Deaf.ofExcept _ s t link unbounded alike
  split
  · have erased : Deaf a sift (change (·.forget a) [.forgotten a]) :=
      .change (fun _ => rfl) fun _ _ h => h.forget a
    exact erased.bind (fun _ => deaf_send sieve (.inl rfl)) s t link unbounded alike
  · exact Deaf.ofExcept _ s t link unbounded alike

theorem deaf_finishConnection (sieve : Link.Sieve a sift) : Deaf a sift finishConnection := by
  refine .session_bind fun s t link unbounded alike => ?_
  rw [alike.connection]
  split
  · exact Deaf.ofExcept _ s t link unbounded alike
  · have erased : Deaf a sift (change shut [.shut]) := .change (fun _ => rfl) fun _ _ h => h.shut
    exact erased.bind (fun _ => deaf_send sieve (.inr rfl)) s t link unbounded alike

theorem deaf_closedChannel (sieve : Link.Sieve a sift) :
    Deaf a sift (closedChannel a m context : Action σ α) := by
  refine (deaf_finishChannel sieve).bind fun _ => ?_
  cases CloseReason.decode m.args <;> exact .ofExcept _

theorem deaf_closedConnection (sieve : Link.Sieve a sift) :
    Deaf a sift (closedConnection m context : Action σ α) := by
  have closing : Deaf a sift (change ({ · with connection := .closingRemote }) []) := by
    refine .change (fun _ => rfl) fun s t h => ⟨?_, h.isOpen, h.queue⟩
    rw [h.rest]
  refine closing.bind fun _ => (deaf_finishConnection sieve).bind fun _ => ?_
  cases CloseReason.decode m.args <;> exact .ofExcept _

theorem deaf_checkFrame (sieve : Link.Sieve a sift) : Deaf a sift (checkFrame a f context) := by
  unfold checkFrame
  split
  · split
    · exact deaf_closedChannel sieve
    split
    · exact deaf_closedConnection sieve
    · exact .ofExcept _
  · exact .ofExcept _

theorem deaf_deliver (sieve : Link.Sieve a sift) : Deaf a sift (deliver a f) :=
  (Deaf.record _).bind fun _ => (deaf_checkFrame sieve).bind fun _ => .ofExcept _

theorem echo_pullFor (sieve : Link.Sieve a sift) (unbounded : s.settings.maxBuffered = none)
    (alike : s.Alike a t) :
    Echo a sift (pullFor a none s link) (pullFor a none t (sift link)) := by
  induction s, link using pullFor_induction (σ := σ) a none with
  | failed s link e link' pulled ran =>
    rw [ran, pullFor_of_failed (sieve.kept _ _ _ _ pulled rfl)]
    exact ⟨rfl, rfl, unbounded, alike, rfl⟩
  | nothing s link link' pulled ran =>
    rw [ran, pullFor_of_nothing (sieve.kept _ _ _ _ pulled rfl)]
    exact ⟨rfl, rfl, unbounded, alike, rfl⟩
  | own s link f link' pulled own ran =>
    have concerned : (Pulled.frame f).concerns a := by simp [Pulled.concerns, own]
    rw [ran, pullFor_of_own (sieve.kept _ _ _ _ pulled concerned) own]
    exact (deaf_deliver sieve s t link' unbounded alike).after rfl
  | closes s link f link' m pulled foreign routed ran =>
    have control := (route_eq_close routed).1
    have concerned : (Pulled.frame f).concerns a := by simp [Pulled.concerns, control]
    rw [ran, pullFor_of_foreign (sieve.kept _ _ _ _ pulled concerned) foreign,
      route_eq_close_of_close routed t]
    exact (deaf_closedConnection sieve s t link' unbounded alike).after rfl
  | full s link f link' pulled foreign routed ran =>
    exact absurd routed (route_ne_full_of_unbounded unbounded f)
  | late s link f link' s' pulled foreign routed expired => cases expired
  | passed s link f link' s' pulled foreign routed patient ran ih =>
    by_cases control : f.channel = .connection
    · have concerned : (Pulled.frame f).concerns a := by simp [Pulled.concerns, control]
      obtain ⟨rfl, passes⟩ := route_of_connection control routed
      rw [ran, pullFor_of_foreign (sieve.kept _ _ _ _ pulled concerned) foreign, passes]
      exact (ih unbounded alike).after rfl
    · have dropped : sift link' = sift link :=
        sieve.dropped _ _ _ _ pulled (by simp [Pulled.concerns, foreign, control])
      have still_unbounded : s'.settings.maxBuffered = none := by rwa [eq_of_route routed]
      rw [ran, ← dropped]
      exact (ih still_unbounded (alike.of_route routed foreign)).unheard rfl

theorem deaf_nextFrame (sieve : Link.Sieve a sift) : Deaf a sift (nextFrame a none) := by
  intro s t link unbounded alike
  cases opened : s.isOpen a with
  | false =>
    rw [run_nextFrame_of_closed opened, run_nextFrame_of_closed ((alike.isOpen a).trans opened)]
    exact ⟨rfl, rfl, unbounded, alike, rfl⟩
  | true =>
    have opened' : t.isOpen a := (alike.isOpen a).trans opened
    cases queued : (s.queue a).toList with
    | nil =>
      have queued' : (t.queue a).toList = [] := by rwa [alike.queue a (.inl rfl)]
      rw [run_nextFrame_of_empty opened queued, run_nextFrame_of_empty opened' queued']
      exact echo_pullFor sieve unbounded alike
    | cons f rest =>
      have queued' : (t.queue a).toList = f :: rest := by rwa [alike.queue a (.inl rfl)]
      rw [run_nextFrame_of_queued opened queued, run_nextFrame_of_queued opened' queued']
      exact deaf_deliver sieve _ _ link unbounded (alike.setQueue _)

theorem echo_collect {step : β → Frame → Step β α} {b : β} (sieve : Link.Sieve a sift)
    (unbounded : s.settings.maxBuffered = none) (alike : s.Alike a t) :
    Echo a sift (collect a context step b s link) (collect a context step b t (sift link)) := by
  fun_induction collect a context step b s link generalizing t with
  | case1 b s link e trace s' link' read =>
    have same := deaf_nextFrame sieve s t link unbounded alike
    rw [read] at same
    rw [collect_eq]
    dsimp only
    rw [same.result]
    exact ⟨rfl, same.sent, same.unbounded, same.session, same.link⟩
  | case2 b s link trace s' link' read =>
    have same := deaf_nextFrame sieve s t link unbounded alike
    rw [read] at same
    rw [collect_eq]
    dsimp only
    rw [same.result]
    exact ⟨rfl, same.sent, same.unbounded, same.session, same.link⟩
  | case3 b s link f trace s' link' read ih =>
    have same := deaf_nextFrame sieve s t link unbounded alike
    rw [read] at same
    rw [collect_eq]
    dsimp only
    rw [same.result, same.link]
    refine Echo.after ?_ same.sent
    cases step b f with
    | more b => exact ih b same.unbounded same.session
    | done r => exact ⟨rfl, rfl, same.unbounded, same.session, rfl⟩
    | failed e => exact ⟨rfl, rfl, same.unbounded, same.session, rfl⟩

theorem deaf_awaitReply {expected : List MethodId} (sieve : Link.Sieve a sift) :
    Deaf a sift (awaitReply a context expected) := by
  intro s t link unbounded alike
  simp only [awaitReply, alike.settings]
  exact echo_collect sieve unbounded alike

theorem deaf_call {expected : List MethodId} (sieve : Link.Sieve a sift) :
    Deaf a sift (call a m expected) := by
  refine Deaf.requireOpen.bind fun _ => .session_bind fun s t link unbounded alike => ?_
  rw [alike.isOpen]
  split
  · have asked : Deaf a sift (send a m m.id.name) := deaf_send sieve (.inl rfl)
    refine asked.bind (fun _ => (deaf_awaitReply sieve).settle fun r => ?_) s t link unbounded alike
    cases r <;> exact .ofExcept _
  · exact Deaf.ofExcept _ s t link unbounded alike

theorem deaf_readContent (sieve : Link.Sieve a sift) : Deaf a sift (readContent a) :=
  Deaf.requireOpen.bind fun _ _ _ _ unbounded alike => echo_collect sieve unbounded alike

theorem deaf_readReturned (sieve : Link.Sieve a sift) : Deaf a sift (readReturned a m) := by
  unfold readReturned
  split
  · cases ReturnReason.decode m.args with
    | ok reason => exact (deaf_readContent sieve).bind fun _ => .ofExcept _
    | error e => exact .ofExcept _
  · exact .ofExcept _

theorem deaf_perform {op : Operation} (sieve : Link.Sieve a sift) (listens : op.listensOn? = some a)
    (patient : ∀ wait, op = .next a wait → wait = none) : Deaf a sift (perform op) := by
  cases op with
  | next c wait =>
    obtain rfl : c = a := by simpa [Operation.listensOn?] using listens
    obtain rfl := patient wait rfl
    exact (Deaf.requireOpen.bind fun _ => deaf_nextFrame sieve).map _
  | call c m expected =>
    obtain rfl : c = a := by simpa [Operation.listensOn?] using listens
    exact (deaf_call sieve).map _
  | readContent c =>
    obtain rfl : c = a := by simpa [Operation.listensOn?] using listens
    exact (deaf_readContent sieve).map _
  | readReturned c m =>
    obtain rfl : c = a := by simpa [Operation.listensOn?] using listens
    exact (deaf_readReturned sieve).map _
  | _ => cases listens

end Deaf

/-- Two links that bring the same for the reader of a channel and for the connection, in the same
order, and fail alike, may bring the frames of other channels in between as they please: whoever
waits there for a frame, a reply or a message is told the same and sends the same, and leaves the
same but for what is parked for others. -/
theorem unaffected_perform {op : Operation} {link link' : Loopback}
    (listens : op.listensOn? = some a) (patient : ∀ wait, op = .next a wait → wait = none)
    (unbounded : s.settings.maxBuffered = none) (same : link.screen a = link'.screen a) :
    let o := (perform op).run s link
    let o' := (perform op).run s link'
    o.result = o'.result ∧ sent o.trace = sent o'.trace ∧ o.session.Alike a o'.session ∧
      o.link.screen a = o'.link.screen a := by
  intro o o'
  have deaf : Deaf a (Loopback.screen a) (perform op) :=
    deaf_perform (Loopback.sieve a) listens patient
  have echo := deaf s s link unbounded (.refl s)
  have echo' := deaf s s link' unbounded (.refl s)
  rw [same] at echo
  exact ⟨echo.result.symm.trans echo'.result, echo.sent.symm.trans echo'.sent,
    echo.session.trans echo'.session.symm, echo.link.symm.trans echo'.link⟩

def neighbours : Session :=
  ((Run.start .standard).performAll
    (.replicate 2 (.acquire, { Loopback.start 0 with replies := Loopback.agreeable }))).session

/-- While channel 1 waits for its reply, channel 2 is closed by the broker or gets a frame. -/
theorem unaffected_neighbours :
    let op := Operation.call 1 (.confirmSelect false) [.confirmSelectOk]
    let reply : Frame := ⟨1, .method (.bare .confirmSelectOk)⟩
    let link := { Loopback.start 0 with
      incoming := [.frame ⟨2, .method (.channelClose .normal)⟩, .frame ⟨0, .heartbeat⟩,
        .frame ⟨7, .body [1]⟩, .frame reply, .nothing] }
    let link' := { Loopback.start 0 with
      incoming := [.frame ⟨0, .heartbeat⟩, .frame ⟨2, .body [2]⟩, .frame reply, .nothing] }
    let o := (perform op).run neighbours link
    let o' := (perform op).run neighbours link'
    op.listensOn? = some 1 ∧ (∀ wait, op = .next 1 wait → wait = none) ∧
    neighbours.settings.maxBuffered = none ∧ link.screen 1 = link'.screen 1 ∧
    o'.result = .ok (.method (.bare .confirmSelectOk)) ∧
    sent o'.trace = [(1, .confirmSelect false, none)] ∧ o'.session.isOpen 2 ∧
    (o.session.queue 2).toList = [⟨2, .method (.channelClose .normal)⟩] ∧
    (o'.session.queue 2).toList = [⟨2, .body [2]⟩] := by
  intro op reply link link' o o'
  have listens : op.listensOn? = some 1 := rfl
  have patient : ∀ wait, op = .next 1 wait → wait = none := by simp [op]
  have unbounded : neighbours.settings.maxBuffered = none := by decide +kernel
  have same : link.screen 1 = link'.screen 1 := rfl
  obtain ⟨result, sends, alike, -⟩ := unaffected_perform listens patient unbounded same
  refine ⟨listens, patient, unbounded, same, result.symm.trans ?_, sends.symm.trans ?_,
    (alike.isOpen 2).trans ?_, ?_, ?_⟩ <;> decide +kernel

end Session
end Multiplex
