import Multiplex.Proofs.Session.Books
import Multiplex.Proofs.Session.Reading

/-! How waiting for the frames of a channel ends. Its reader takes what is parked, then what he
pulls, one frame after another. In the end he has what he waited for, or meets a close, or gets
nothing at all, because the link failed or brought nothing or brought a frame that there was no room
for. -/

namespace Multiplex

def Event.Incoming (c : ChannelId) (e : Event) : Prop :=
  (∃ wait f, e = .pulled c wait (.frame f)) ∨ ∃ f, e = .delivered c f

/-- The last that happens to a reader who is told that he gets nothing. -/
inductive Setback (c : ChannelId) (wait : Timeout) : List Event → SessionError → Prop
  | failed (cause : LinkError) :
    Setback c wait [.pulled c wait (.failed cause)] (.link "pull frame" cause)
  | full (f : Frame) (foreign : f.channel ≠ c) :
    Setback c wait [.pulled c wait (.frame f), .refused f] (.bufferFull f.channel)

/-- Whether a reader got nothing in the end: his pull failed or brought nothing, or it brought a
frame that there was no room for. -/
def Event.breaksOff : Event → Bool
  | .pulled _ _ .nothing | .pulled _ _ (.failed _) | .refused _ => true
  | .pulled _ _ (.frame _) | .sent .. | .delivered .. | .reserved _ | .forgotten _ | .abandoned _
  | .shut => false

/-- A reader was left waiting: that he got nothing is the last that happened. -/
def Interrupted (trace : List Event) : Prop := ∃ e, trace.getLast? = some e ∧ e.breaksOff

section Interrupted

variable {c : ChannelId} {wait : Timeout} {trace : List Event} {e : Event}

theorem interrupted_concat (trace : List Event) : Interrupted (trace ++ [e]) ↔ e.breaksOff := by
  simp [Interrupted]

theorem Setback.interrupted {last : List Event} {error : SessionError}
    (h : Setback c wait last error) (before : List Event) : Interrupted (before ++ last) := by
  cases h with
  | failed cause => exact (interrupted_concat before).mpr rfl
  | full f foreign =>
    rw [List.append_cons]
    exact (interrupted_concat _).mpr rfl

theorem Interrupted.append (h : Interrupted trace) (before : List Event) :
    Interrupted (before ++ trace) := by
  obtain ⟨e, last, breaks⟩ := h
  exact ⟨e, by simp [List.getLast?_append, last], breaks⟩

theorem Scope.not_interrupted_settled (x : Scope) (failure : Option LinkError)
    (before : List Event) : ¬ Interrupted (before ++ x.settled failure) := by
  cases x <;> simp [Scope.settled, Interrupted, Event.breaksOff]

end Interrupted

/-- What the reader of a channel can be handed: what was parked before, then what came in. -/
def stream (c : ChannelId) (s : Session) (trace : List Event) : List Frame :=
  (s.queue c).toList ++ arrived c trace

theorem stream_append {c : ChannelId} {s : Session} {trace events : List Event} :
    stream c s (trace ++ events) = stream c s trace ++ arrived c events := by
  simp [stream, arrived_append]

namespace Session

open Multiplex.Action

variable {σ α β : Type} {s t u : Session} {link : σ} {c : ChannelId} {f : Frame} {wait : Timeout}
  {context : String} {frames more : List Frame} {trace events : List Event}

/-- Channel `c` was read undisturbed from `s` to `t`, and its reader was handed `frames`. -/
structure Heard (c : ChannelId) (s : Session) (frames : List Frame) (trace : List Event)
    (t : Session) : Prop where
  incoming : ∀ e ∈ trace, e.Incoming c
  parts : stream c s trace = frames ++ (t.queue c).toList
  handed : delivered c trace = frames
  met : trace.findSome? (·.close?) = frames.findSome? (·.closing? c)
  opened : t.isOpen c
  stays : t.connection = s.connection

namespace Heard

theorem nil (opened : s.isOpen c) : Heard c s [] [] s where
  incoming := by simp
  parts := by simp [stream, arrived]
  handed := rfl
  met := rfl
  opened := opened
  stays := rfl

theorem trans (first : Heard c s frames trace t) (second : Heard c t more events u) :
    Heard c s (frames ++ more) (trace ++ events) u where
  incoming := List.forall_mem_append.mpr ⟨first.incoming, second.incoming⟩
  parts := by
    have goes_on : (t.queue c).toList ++ arrived c events = more ++ (u.queue c).toList :=
      second.parts
    rw [stream_append, first.parts, List.append_assoc, goes_on, List.append_assoc]
  handed := by rw [delivered_append, first.handed, second.handed]
  met := by rw [List.findSome?_append, List.findSome?_append, first.met, second.met]
  opened := second.opened
  stays := second.stays.trans first.stays

theorem unparked {rest : List Frame} (queued : (s.queue c).toList = f :: rest) :
    Heard c s [f] [.delivered c f] (s.setQueue c (.ofList rest)) where
  incoming := by simp [Event.Incoming]
  parts := by simp [stream, arrived, Event.arrivedOn, queued]
  handed := by simp [delivered, Event.deliveredOn]
  met := by simp [Event.close?]
  opened := by simp
  stays := rfl

theorem pulled {wait : Timeout} (opened : s.isOpen c) (own : f.channel = c)
    (empty : (s.queue c).toList = []) :
    Heard c s [f] [.pulled c wait (.frame f), .delivered c f] s where
  incoming := by simp [Event.Incoming]
  parts := by simp [stream, arrived, Event.arrivedOn, own, empty]
  handed := by simp [delivered, Event.deliveredOn]
  met := by cases closing : f.closing? c <;> simp [Event.close?, own, closing]
  opened := opened
  stays := rfl

theorem parked {wait : Timeout} (opened : s.isOpen c) (foreign : f.channel ≠ c)
    (routed : s.route f = .on t) : Heard c s [] [.pulled c wait (.frame f)] t where
  incoming := by simp [Event.Incoming]
  parts := by
    simp [stream, arrived, Event.arrivedOn, foreign, queue_of_route routed foreign]
  handed := by simp [delivered, Event.deliveredOn]
  met := by
    have calm : (Event.pulled c wait (.frame f)).Calm fun _ _ => True :=
      calm_of_route (s := s) foreign (by simp [routed])
    simp [calm.1]
  opened := by rwa [isOpen_of_route routed]
  stays := by rw [eq_of_route routed]

theorem breaksOff_eq_false (h : Heard c s frames trace t) : ∀ e ∈ trace, e.breaksOff = false := by
  intro e he
  rcases h.incoming e he with ⟨wait, f, rfl⟩ | ⟨f, rfl⟩ <;> rfl

theorem close?_eq_none (h : Heard c s frames trace t)
    (harmless : ∀ f ∈ frames, f.closing? c = none) : ∀ e ∈ trace, e.close? = none :=
  List.findSome?_eq_none_iff.mp (h.met.trans (List.findSome?_eq_none_iff.mpr harmless))

end Heard

/-- How the wait for the next frame is cut short: what a reader is told then, and what is left. -/
inductive Obstruction (c : ChannelId) (wait : Timeout) (t : Session) :
    Except SessionError (Option Frame) → List Event → Session → Prop
  | nothing : Obstruction c wait t (.ok none) [.pulled c wait .nothing] t
  | failed (cause : LinkError) :
    Obstruction c wait t (.error (.link "pull frame" cause)) [.pulled c wait (.failed cause)] t
  | full (f : Frame) (foreign : f.channel ≠ c) (nonzero : f.channel ≠ .connection) :
    Obstruction c wait t (.error (.bufferFull f.channel)) [.pulled c wait (.frame f), .refused f] t
  | alarm (f : Frame) (m : Method) (failure : Option LinkError) (foreign : f.channel ≠ c)
    (control : f.channel = .connection) (closing : f.closing? .connection = some (.connection, m)) :
    Obstruction c wait t (.error (Scope.connection.error "next_frame" m failure))
      (.pulled c wait (.frame f) :: Scope.connection.settled failure) t.shut

/-- What comes of reading an open channel once, frame by frame. -/
inductive Catch (c : ChannelId) (wait : Timeout) (s : Session) : Outcome σ (Option Frame) → Prop
  | frame (f : Frame) (before : List Event) (t : Session) (link : σ)
    (heard : Heard c s [f] (before ++ [.delivered c f]) t) (harmless : f.closing? c = none) :
    Catch c wait s ⟨.ok (some f), before ++ [.delivered c f], t, link⟩
  | closed (f : Frame) (x : Scope) (m : Method) (failure : Option LinkError) (trace : List Event)
    (t : Session) (link : σ) (heard : Heard c s [f] trace t)
    (closing : f.closing? c = some (x, m)) :
    Catch c wait s
      ⟨.error (x.error "next_frame" m failure), trace ++ x.settled failure, x.erase t, link⟩
  | obstructed (r : Except SessionError (Option Frame)) (trace last : List Event) (t u : Session)
    (link : σ) (heard : Heard c s [] trace t) (empty : (t.queue c).toList = [])
    (because : Obstruction c wait t r last u) : Catch c wait s ⟨r, trace ++ last, u, link⟩
  | late (trace : List Event) (t : Session) (link : σ) (heard : Heard c s [] trace t)
    (expired : wait.expired) : Catch c wait s ⟨.ok none, trace, t, link⟩

theorem Catch.after {o : Outcome σ (Option Frame)} (first : Heard c s [] trace t)
    (h : Catch c wait t o) : Catch c wait s (o.after trace) := by
  cases h with
  | frame f before u link heard harmless =>
    rw [Outcome.after, ← List.append_assoc]
    exact .frame f (trace ++ before) u link (List.append_assoc .. ▸ first.trans heard) harmless
  | closed f x m failure events u link heard closing =>
    rw [Outcome.after, ← List.append_assoc]
    exact .closed f x m failure (trace ++ events) u link (first.trans heard) closing
  | obstructed r events last u v link heard empty because =>
    rw [Outcome.after, ← List.append_assoc]
    exact .obstructed r (trace ++ events) last u v link (first.trans heard) empty because
  | late events u link heard expired =>
    exact .late (trace ++ events) u link (first.trans heard) expired

/-- Frames that are no closes leave the reader wanting more, who gets from `b` to `b'` with them. -/
inductive Takes (c : ChannelId) (step : β → Frame → Step β α) : β → List Frame → β → Prop
  | nil (b : β) : Takes c step b [] b
  | cons (f : Frame) (b b' b'' : β) (frames : List Frame) (harmless : f.closing? c = none)
    (more : step b f = .more b') (rest : Takes c step b' frames b'') :
    Takes c step b (f :: frames) b''

theorem Takes.harmless {step : β → Frame → Step β α} {b b' : β} (h : Takes c step b frames b') :
    ∀ f ∈ frames, f.closing? c = none := by
  induction h with
  | nil => simp
  | cons f b b' b'' frames harmless more rest ih => exact List.forall_mem_cons.mpr ⟨harmless, ih⟩

theorem Takes.unmet {step : β → Frame → Step β α} {b b' : β} (h : Takes c step b frames b') :
    frames.findSome? (·.closing? c) = none :=
  List.findSome?_eq_none_iff.mpr h.harmless

def shortfall (c : ChannelId) (context : String) :
    Except SessionError (Option Frame) → SessionError
  | .error e => e
  | .ok _ => .emptyReply c context

/-- What comes of reading an open channel until there is enough, frame by frame. -/
inductive Hearing (c : ChannelId) (context : String) (step : β → Frame → Step β α) (b : β)
    (s : Session) : Outcome σ α → Prop
  | done (f : Frame) (a : α) (b' : β) (frames : List Frame) (before : List Event) (t : Session)
    (link : σ) (heard : Heard c s (frames ++ [f]) (before ++ [.delivered c f]) t)
    (takes : Takes c step b frames b') (harmless : f.closing? c = none)
    (took : step b' f = .done a) :
    Hearing c context step b s ⟨.ok a, before ++ [.delivered c f], t, link⟩
  | gaveUp (f : Frame) (e : SessionError) (b' : β) (frames : List Frame) (before : List Event)
    (t : Session) (link : σ) (heard : Heard c s (frames ++ [f]) (before ++ [.delivered c f]) t)
    (takes : Takes c step b frames b') (harmless : f.closing? c = none)
    (took : step b' f = .failed e) :
    Hearing c context step b s ⟨.error e, before ++ [.delivered c f], t, link⟩
  | closed (f : Frame) (x : Scope) (m : Method) (failure : Option LinkError) (b' : β)
    (frames : List Frame) (trace : List Event) (t : Session) (link : σ)
    (heard : Heard c s (frames ++ [f]) trace t) (takes : Takes c step b frames b')
    (closing : f.closing? c = some (x, m)) :
    Hearing c context step b s
      ⟨.error (x.error "next_frame" m failure), trace ++ x.settled failure, x.erase t, link⟩
  | obstructed (r : Except SessionError (Option Frame)) (b' : β) (frames : List Frame)
    (trace last : List Event) (t u : Session) (link : σ) (heard : Heard c s frames trace t)
    (takes : Takes c step b frames b') (empty : (t.queue c).toList = [])
    (because : Obstruction c none t r last u) :
    Hearing c context step b s ⟨.error (shortfall c context r), trace ++ last, u, link⟩

theorem Hearing.after {step : β → Frame → Step β α} {b b' : β} {o : Outcome σ α}
    (first : Heard c s [f] trace t) (harmless : f.closing? c = none) (took : step b f = .more b')
    (h : Hearing c context step b' t o) : Hearing c context step b s (o.after trace) := by
  have takes {more b''} (rest : Takes c step b' more b'') : Takes c step b (f :: more) b'' :=
    .cons f b b' b'' more harmless took rest
  cases h with
  | done g a b'' frames before u link heard rest harmless' took' =>
    rw [Outcome.after, ← List.append_assoc]
    exact .done g a b'' (f :: frames) _ u link (List.append_assoc .. ▸ first.trans heard)
      (takes rest) harmless' took'
  | gaveUp g e b'' frames before u link heard rest harmless' took' =>
    rw [Outcome.after, ← List.append_assoc]
    exact .gaveUp g e b'' (f :: frames) _ u link (List.append_assoc .. ▸ first.trans heard)
      (takes rest) harmless' took'
  | closed g x m failure b'' frames events u link heard rest closing =>
    rw [Outcome.after, ← List.append_assoc]
    exact .closed g x m failure b'' (f :: frames) _ u link (first.trans heard) (takes rest) closing
  | obstructed r b'' frames events last u v link heard rest empty because =>
    rw [Outcome.after, ← List.append_assoc]
    exact .obstructed r b'' (f :: frames) _ last u v link (first.trans heard) (takes rest) empty
      because

inductive Receipt (c : ChannelId) (wait : Timeout) (s : Session) :
    Outcome σ (Option Frame) → Prop
  | frame (f : Frame) (before : List Event) (t : Session) (link : σ)
    (incoming : ∀ e ∈ before, e.Incoming c) (opened : t.isOpen c)
    (stays : t.connection = s.connection) :
    Receipt c wait s ⟨.ok (some f), before ++ [.delivered c f], t, link⟩
  | nothing (before : List Event) (t : Session) (link : σ)
    (incoming : ∀ e ∈ before, e.Incoming c) (opened : t.isOpen c)
    (stays : t.connection = s.connection) :
    Receipt c wait s ⟨.ok none, before ++ [.pulled c wait .nothing], t, link⟩
  | late (before : List Event) (t : Session) (link : σ) (expired : wait.expired)
    (incoming : ∀ e ∈ before, e.Incoming c) (opened : t.isOpen c) :
    Receipt c wait s ⟨.ok none, before, t, link⟩
  | setback (e : SessionError) (before last : List Event) (t : Session) (link : σ)
    (incoming : ∀ e ∈ before, e.Incoming c) (opened : t.isOpen c)
    (stays : t.connection = s.connection) (because : Setback c wait last e) :
    Receipt c wait s ⟨.error e, before ++ last, t, link⟩
  | closed (x : Scope) (close : Method) (failure : Option LinkError) (before : List Event)
    (t : Session) (link : σ) (incoming : ∀ e ∈ before, e.Incoming c)
    (reach : x = .connection ∨ x = .channel c ∧ c ≠ .connection) :
    Receipt c wait s ⟨.error (x.error "next_frame" close failure), before ++ x.settled failure,
      x.erase t, link⟩

theorem Catch.receipt {o : Outcome σ (Option Frame)} (h : Catch c wait s o) :
    Receipt c wait s o := by
  cases h with
  | frame f before t link heard =>
    exact .frame f before t link (List.forall_mem_append.mp heard.incoming).1 heard.opened
      heard.stays
  | closed f x m failure trace t link heard closing =>
    exact .closed x m failure trace t link heard.incoming (Frame.reach_of_closing? closing)
  | late trace t link heard expired =>
    exact .late trace t link expired heard.incoming heard.opened
  | obstructed r trace last t u link heard empty because =>
    cases because with
    | nothing => exact .nothing trace t link heard.incoming heard.opened heard.stays
    | failed cause =>
      exact .setback _ trace _ t link heard.incoming heard.opened heard.stays (.failed cause)
    | full f foreign =>
      exact .setback _ trace _ t link heard.incoming heard.opened heard.stays (.full f foreign)
    | alarm f m failure =>
      rw [List.append_cons]
      refine .closed .connection m failure _ t link ?_ (.inl rfl)
      exact List.forall_mem_append.mpr ⟨heard.incoming, by simp [Event.Incoming]⟩

inductive Gathering (c : ChannelId) (context : String) (step : β → Frame → Step β α)
    (s : Session) : Outcome σ α → Prop
  | got (f : Frame) (b : β) (a : α) (before : List Event) (t : Session) (link : σ)
    (incoming : ∀ e ∈ before, e.Incoming c) (took : step b f = .done a) (opened : t.isOpen c)
    (stays : t.connection = s.connection) :
    Gathering c context step s ⟨.ok a, before ++ [.delivered c f], t, link⟩
  | gaveUp (f : Frame) (b : β) (e : SessionError) (before : List Event) (t : Session) (link : σ)
    (incoming : ∀ e ∈ before, e.Incoming c) (took : step b f = .failed e) (opened : t.isOpen c) :
    Gathering c context step s ⟨.error e, before ++ [.delivered c f], t, link⟩
  | nothing (before : List Event) (t : Session) (link : σ)
    (incoming : ∀ e ∈ before, e.Incoming c) (opened : t.isOpen c)
    (stays : t.connection = s.connection) :
    Gathering c context step s
      ⟨.error (.emptyReply c context), before ++ [.pulled c none .nothing], t, link⟩
  | setback (e : SessionError) (before last : List Event) (t : Session) (link : σ)
    (incoming : ∀ e ∈ before, e.Incoming c) (opened : t.isOpen c)
    (stays : t.connection = s.connection) (because : Setback c none last e) :
    Gathering c context step s ⟨.error e, before ++ last, t, link⟩
  | closed (x : Scope) (close : Method) (failure : Option LinkError) (before : List Event)
    (t : Session) (link : σ) (incoming : ∀ e ∈ before, e.Incoming c)
    (reach : x = .connection ∨ x = .channel c ∧ c ≠ .connection) :
    Gathering c context step s ⟨.error (x.error "next_frame" close failure),
      before ++ x.settled failure, x.erase t, link⟩

theorem Hearing.gathering {step : β → Frame → Step β α} {b : β} {o : Outcome σ α}
    (h : Hearing c context step b s o) : Gathering c context step s o := by
  cases h with
  | done f a b' frames before t link heard takes harmless took =>
    exact .got f b' a before t link (List.forall_mem_append.mp heard.incoming).1 took heard.opened
      heard.stays
  | gaveUp f e b' frames before t link heard takes harmless took =>
    exact .gaveUp f b' e before t link (List.forall_mem_append.mp heard.incoming).1 took
      heard.opened
  | closed f x m failure b' frames trace t link heard takes closing =>
    exact .closed x m failure trace t link heard.incoming (Frame.reach_of_closing? closing)
  | obstructed r b' frames trace last t u link heard takes empty because =>
    cases because with
    | nothing => exact .nothing trace t link heard.incoming heard.opened heard.stays
    | failed cause =>
      exact .setback _ trace _ t link heard.incoming heard.opened heard.stays (.failed cause)
    | full f foreign =>
      exact .setback _ trace _ t link heard.incoming heard.opened heard.stays (.full f foreign)
    | alarm f m failure =>
      rw [List.append_cons]
      refine .closed .connection m failure _ t link ?_ (.inl rfl)
      exact List.forall_mem_append.mpr ⟨heard.incoming, by simp [Event.Incoming]⟩

variable [Link σ]

theorem catch_deliver (events : List Event)
    (heard : Heard c s [f] (events ++ [.delivered c f]) t) :
    Catch c wait s (((deliver c f).run t link).after events) := by
  cases closing : f.closing? c with
  | none =>
    rw [run_deliver_of_none closing]
    exact .frame f events t link heard closing
  | some p =>
    obtain ⟨x, m⟩ := p
    obtain ⟨failure, link', settles⟩ := deliver_settles (fun _ => heard.opened) closing link
    rw [settles, Outcome.after, List.append_cons]
    exact .closed f x m failure _ t link' heard closing

theorem catch_pullFor (opened : s.isOpen c) (empty : (s.queue c).toList = []) :
    Catch c wait s (pullFor c wait s link) := by
  induction s, link using pullFor_induction (σ := σ) c wait with
  | failed s link e link' pulled ran =>
    rw [ran]
    exact .obstructed _ [] _ s s link' (.nil opened) empty (.failed e)
  | nothing s link link' pulled ran =>
    rw [ran]
    exact .obstructed _ [] _ s s link' (.nil opened) empty .nothing
  | own s link f link' pulled own ran =>
    rw [ran]
    exact catch_deliver [_] (.pulled opened own empty)
  | closes s link f link' m pulled foreign routed ran =>
    obtain ⟨control, method, id⟩ := route_eq_close routed
    have closing : f.closing? .connection = some (.connection, m) := by
      simp [Frame.closing?_connection, method, id]
    obtain ⟨failure, link', settles⟩ :=
      closedConnection_settles (α := Option Frame) m "next_frame" s link'
    rw [ran, settles]
    exact .obstructed _ [] _ s s.shut link' (.nil opened) empty
      (.alarm f m failure foreign control closing)
  | full s link f link' pulled foreign routed ran =>
    rw [ran]
    exact .obstructed _ [] _ s s link' (.nil opened) empty
      (.full f foreign (route_eq_full routed).1)
  | late s link f link' t pulled foreign routed expired ran =>
    rw [ran]
    exact .late _ t link' (.parked opened foreign routed) expired
  | passed s link f link' t pulled foreign routed patient ran ih =>
    rw [ran]
    refine (ih ?_ ?_).after (.parked opened foreign routed)
    · rwa [isOpen_of_route routed]
    · rw [queue_of_route routed foreign, empty]

theorem catch_nextFrame (opened : s.isOpen c) :
    Catch c wait s ((nextFrame c wait).run s link) := by
  refine nextFrame_cases (fun closed => ?_) (fun f rest _ queued => ?_) fun _ empty => ?_
  · simp [closed] at opened
  · exact catch_deliver [] (.unparked queued)
  · exact catch_pullFor opened empty

theorem receipt_nextFrame (opened : s.isOpen c) :
    Receipt c wait s ((nextFrame c wait).run s link) :=
  (catch_nextFrame opened).receipt

theorem hearing_collect {step : β → Frame → Step β α} {b : β} (opened : s.isOpen c) :
    Hearing c context step b s (collect c context step b s link) := by
  fun_induction collect c context step b s link with
  | case1 b s link e trace t link' read =>
    have caught : Catch c none s ((nextFrame c none).run s link) := catch_nextFrame opened
    rw [read] at caught
    cases caught with
    | closed f x m failure trace t _ heard closing =>
      exact .closed f x m failure b [] trace _ link' heard (.nil b) closing
    | obstructed _ trace last t u _ heard empty because =>
      exact .obstructed _ b [] trace last t _ link' heard (.nil b) empty because
  | case2 b s link trace t link' read =>
    have caught : Catch c none s ((nextFrame c none).run s link) := catch_nextFrame opened
    rw [read] at caught
    cases caught with
    | obstructed _ trace last t u _ heard empty because =>
      exact .obstructed _ b [] trace last t _ link' heard (.nil b) empty because
    | late _ _ _ _ expired => cases expired
  | case3 b s link f trace t link' read ih =>
    have caught : Catch c none s ((nextFrame c none).run s link) := catch_nextFrame opened
    rw [read] at caught
    cases caught with
    | frame _ before _ _ heard harmless =>
      cases took : step b f with
      | more b' => exact .after heard harmless took (ih b' heard.opened)
      | done a =>
        simpa [Outcome.after] using
          Hearing.done f a b [] before t link' heard (.nil b) harmless took
      | failed e =>
        simpa [Outcome.after] using
          Hearing.gaveUp f e b [] before t link' heard (.nil b) harmless took
    | obstructed _ _ _ _ _ _ _ _ because => cases because

theorem gathering_collect {step : β → Frame → Step β α} {b : β} (opened : s.isOpen c) :
    Gathering c context step s (collect c context step b s link) :=
  (hearing_collect opened).gathering

end Session
end Multiplex
