import Multiplex.Proofs.Bookkeeping
import Multiplex.Proofs.Decision
import Multiplex.Proofs.LostChannel
import Multiplex.Proofs.LostConnection

/-! What becomes of a close that this side begins. Whatever else is under way is thrown off until
the answer comes, or a close of the peer's in its place, or until there is nothing more to be had
from the link. The first of these decides. -/

namespace Multiplex

/-- What puts an end to the wait for the answer to a close. -/
inductive Upshot
  | answered
  | crossed (x : Scope) (close : Method)
  | brokenOff

/-- Whether an event ends the wait on channel `c` for the answer to a close, and how. -/
def Event.upshot? (c : ChannelId) (answer : MethodId) (e : Event) : Option Upshot :=
  match e.close? with
  | some (x, m) => some (.crossed x m)
  | none =>
    if e.breaksOff then some .brokenOff
    else if (e.deliveredOn c).any (·.isMethod answer) then some .answered
    else none

/-- Whether a frame ends the wait on channel `c` for the answer to a close. -/
def Frame.concludes (answer : MethodId) (c : ChannelId) (f : Frame) : Bool :=
  (f.closing? c).isSome || f.isMethod answer

section Upshot

variable {c : ChannelId} {answer : MethodId} {e : Event} {f : Frame} {x : Scope} {m : Method}

theorem Event.upshot?_of_close? (met : e.close? = some (x, m)) :
    e.upshot? c answer = some (.crossed x m) := by
  simp [upshot?, met]

theorem Event.upshot?_delivered (harmless : f.closing? c = none) (answers : f.isMethod answer) :
    (Event.delivered c f).upshot? c answer = some .answered := by
  simp [upshot?, close?, harmless, breaksOff, deliveredOn, answers]

theorem Event.upshot?_eq_none (unmet : e.close? = none) (goes_on : e.breaksOff = false)
    (unanswered : ∀ f, e.deliveredOn c = some f → f.isMethod answer = false) :
    e.upshot? c answer = none := by
  cases handed : e.deliveredOn c with
  | none => simp [upshot?, unmet, goes_on, handed]
  | some f => simp [upshot?, unmet, goes_on, handed, unanswered f handed]

theorem Frame.isMethod_eq_false_of_closing? (closing : f.closing? c = some (x, m))
    (plain : answer ≠ .channelClose ∧ answer ≠ .connectionClose) : f.isMethod answer = false := by
  unfold closing? at closing
  unfold isMethod methodId?
  grind

end Upshot

namespace Session

open Multiplex.Action

variable {σ : Type} {s t : Session} {c : ChannelId} {answer : MethodId} {context : String}
  {frames : List Frame} {trace : List Event} {f : Frame} {x : Scope} {m : Method}

theorem conclusive_dropUntil :
    conclusive c (dropUntil answer) = Frame.concludes answer c := by
  funext f
  unfold conclusive dropUntil Frame.concludes
  cases f.isMethod answer <;> simp

theorem Takes.unanswered {b b' : Unit} (h : Takes c (dropUntil answer) b frames b') :
    ∀ f ∈ frames, f.isMethod answer = false := by
  induction h with
  | nil => simp
  | cons f b b' b'' frames harmless more rest ih =>
    refine List.forall_mem_cons.mpr ⟨?_, ih⟩
    unfold dropUntil at more
    simpa using more

namespace Heard

theorem ends_eq_false (h : Heard c s frames trace t) (d : ChannelId) :
    ∀ e ∈ trace, e.ends d = false := by
  intro e he
  rcases h.incoming e he with ⟨wait, f, rfl⟩ | ⟨f, rfl⟩ <;> rfl

theorem upshot?_eq_none (h : Heard c s frames trace t) {e : Event} (mem : e ∈ trace)
    (unmet : e.close? = none)
    (unanswered : ∀ f, e.deliveredOn c = some f → f.isMethod answer = false) :
    e.upshot? c answer = none :=
  Event.upshot?_eq_none unmet (h.breaksOff_eq_false e mem) unanswered

theorem mem_of_deliveredOn (h : Heard c s frames trace t) {e : Event} (mem : e ∈ trace)
    (handed : e.deliveredOn c = some f) : f ∈ frames := by
  rw [← h.handed]
  exact List.mem_filterMap.mpr ⟨e, mem, handed⟩

theorem findSome?_upshot?_eq_none (h : Heard c s frames trace t)
    (harmless : ∀ f ∈ frames, f.closing? c = none)
    (unanswered : ∀ f ∈ frames, f.isMethod answer = false) :
    trace.findSome? (·.upshot? c answer) = none := by
  refine List.findSome?_eq_none_iff.mpr fun e mem => ?_
  exact h.upshot?_eq_none mem (h.close?_eq_none harmless e mem) fun f handed =>
    unanswered f (h.mem_of_deliveredOn mem handed)

theorem findSome?_upshot?_of_closing (h : Heard c s frames trace t)
    (unanswered : ∀ f ∈ frames, f.isMethod answer = false)
    (closing : frames.findSome? (·.closing? c) = some (x, m)) :
    trace.findSome? (·.upshot? c answer) = some (.crossed x m) := by
  obtain ⟨early, e, late, split, met, unmet⟩ :=
    List.findSome?_eq_some_iff.mp (h.met.trans closing)
  refine List.findSome?_eq_some_iff.mpr
    ⟨early, e, late, split, Event.upshot?_of_close? met, fun d before => ?_⟩
  have mem : d ∈ trace := split ▸ List.mem_append_left _ before
  exact h.upshot?_eq_none mem (unmet d before) fun f handed =>
    unanswered f (h.mem_of_deliveredOn mem handed)

theorem findSome?_upshot?_of_answer
    (h : Heard c s (frames ++ [f]) (trace ++ [.delivered c f]) t)
    (harmless : ∀ g ∈ frames ++ [f], g.closing? c = none)
    (unanswered : ∀ g ∈ frames, g.isMethod answer = false) (answers : f.isMethod answer) :
    (trace ++ [Event.delivered c f]).findSome? (·.upshot? c answer) = some .answered := by
  have handed : delivered c trace = frames := by
    simpa [delivered_append, delivered_cons, Event.deliveredOn] using h.handed
  have nothing_before : trace.findSome? (·.upshot? c answer) = none := by
    refine List.findSome?_eq_none_iff.mpr fun e mem => ?_
    have mem' : e ∈ trace ++ [.delivered c f] := List.mem_append_left _ mem
    refine h.upshot?_eq_none mem' (h.close?_eq_none harmless e mem') fun g here => ?_
    exact unanswered g (handed ▸ List.mem_filterMap.mpr ⟨e, mem, here⟩)
  have last := Event.upshot?_delivered (harmless f (by simp)) answers
  simp [List.findSome?_append, nothing_before, last]

end Heard

/-- An obstructed wait met the connection's close, or it is broken off and nothing is lost. -/
theorem Obstruction.alarm_or {r : Except SessionError (Option Frame)} {last : List Event}
    {u : Session} (h : Obstruction c none t r last u) (context : String) (answer : MethodId) :
    (∃ e m failure, r = .error (Scope.connection.error "next_frame" m failure) ∧
      last = e :: Scope.connection.settled failure ∧ u = t.shut ∧ attempted [e] = [] ∧
      e.close? = some (.connection, m)) ∨
    (shortfall c context r).isPeerClose = false ∧ u = t ∧ attempted last = [] ∧
      (∀ d, ∀ e ∈ last, e.ends d = false) ∧
      last.findSome? (·.upshot? c answer) = some .brokenOff := by
  cases h with
  | alarm f m failure foreign control closing =>
    refine .inl ⟨_, m, failure, rfl, rfl, rfl, rfl, ?_⟩
    simp [Event.close?, control, closing]
  | full f foreign nonzero =>
    refine .inr ⟨rfl, rfl, rfl, by simp [Event.ends], ?_⟩
    simp [Event.upshot?, Event.close?, Event.breaksOff, Event.deliveredOn, foreign, nonzero]
  | nothing => exact .inr ⟨rfl, rfl, rfl, by simp [Event.ends], rfl⟩
  | failed cause => exact .inr ⟨rfl, rfl, rfl, by simp [Event.ends], rfl⟩

/-- What comes of waiting on channel `c` for the answer to a close. -/
inductive Awaited (c : ChannelId) (answer : MethodId) : Outcome σ Unit → Prop
  | answered (trace : List Event) (t : Session) (link : σ) (silent : attempted trace = [])
    (first : trace.findSome? (·.upshot? c answer) = some .answered) :
    Awaited c answer ⟨.ok (), trace, t, link⟩
  | crossed (x : Scope) (m : Method) (failure : Option LinkError) (trace : List Event)
    (t : Session) (link : σ) (reach : x = .connection ∨ x = .channel c ∧ c ≠ .connection)
    (tries : attempted trace = [x.acknowledgement])
    (succeeds : .sent x.acknowledgement.1 x.acknowledgement.2 none ∈ trace ↔ failure = none)
    (first : trace.findSome? (·.upshot? c answer) = some (.crossed x m)) :
    Awaited c answer ⟨.error (x.error "next_frame" m failure), trace, x.erase t, link⟩
  | brokenOff (e : SessionError) (trace : List Event) (t : Session) (link : σ)
    (silent : attempted trace = []) (unended : ∀ d, ∀ e ∈ trace, e.ends d = false)
    (own_fault : e.isPeerClose = false) (opened : t.isOpen c)
    (first : trace.findSome? (·.upshot? c answer) = some .brokenOff) :
    Awaited c answer ⟨.error e, trace, t, link⟩

theorem awaited_settled (m : Method) (failure : Option LinkError) (t : Session) (link : σ)
    (silent : attempted trace = []) (reach : x = .connection ∨ x = .channel c ∧ c ≠ .connection)
    (first : trace.findSome? (·.upshot? c answer) = some (.crossed x m)) :
    Awaited c answer
      ⟨.error (x.error "next_frame" m failure), trace ++ x.settled failure, x.erase t, link⟩ := by
  refine .crossed x m failure _ t link reach ?_ ?_ (by simp [List.findSome?_append, first])
  · rw [attempted_append, silent, attempted_settled, List.nil_append]
  · have unsent : .sent x.acknowledgement.1 x.acknowledgement.2 none ∉ trace := fun mem => by
      have tried := mem_attempted mem
      rw [silent] at tried
      cases tried
    cases x <;> simp only [Scope.acknowledgement] at unsent ⊢ <;>
      simp [Scope.settled, unsent, eq_comm]

theorem Hearing.awaited {o : Outcome σ Unit}
    (h : Hearing c context (dropUntil answer) () s o)
    (plain : answer ≠ .channelClose ∧ answer ≠ .connectionClose) : Awaited c answer o := by
  cases h with
  | done f a b frames before t link heard takes harmless took =>
    have calm : ∀ g ∈ frames ++ [f], g.closing? c = none :=
      List.forall_mem_append.mpr ⟨takes.harmless, by simpa using harmless⟩
    exact .answered _ t link heard.attempted_eq_nil
      (heard.findSome?_upshot?_of_answer calm takes.unanswered (isMethod_of_dropUntil took))
  | gaveUp f e b frames before t link heard takes harmless took =>
    exact absurd took dropUntil_ne_failed
  | closed f x m failure b frames trace t link heard takes closing =>
    refine awaited_settled m failure t link heard.attempted_eq_nil (Frame.reach_of_closing? closing)
      (heard.findSome?_upshot?_of_closing ?_ ?_)
    · exact List.forall_mem_append.mpr ⟨takes.unanswered,
        by simpa using Frame.isMethod_eq_false_of_closing? closing plain⟩
    · simp [List.findSome?_append, takes.unmet, closing]
  | obstructed r b frames trace last t u link heard takes empty because =>
    have nothing_before := heard.findSome?_upshot?_eq_none takes.harmless takes.unanswered
    rcases because.alarm_or context answer with
      ⟨e, m, failure, rfl, rfl, rfl, unsent, met⟩ | ⟨own_fault, rfl, unsent, unended, first⟩
    · rw [List.append_cons]
      refine awaited_settled m failure t link ?_ (.inl rfl) ?_
      · rw [attempted_append, heard.attempted_eq_nil, unsent]
        rfl
      · simp [List.findSome?_append, nothing_before, Event.upshot?_of_close? met]
    · refine .brokenOff _ _ u link ?_ (fun d => ?_) own_fault heard.opened ?_
      · rw [attempted_append, heard.attempted_eq_nil, unsent]
        rfl
      · exact List.forall_mem_append.mpr ⟨heard.ends_eq_false d, unended d⟩
      · rw [List.findSome?_append, nothing_before, first]
        rfl

section Exchange

variable {close : Method} {wait o : Outcome σ Unit}

/-- A close went out on channel `c`, and after the wait for the answer only the bookkeeping was
left. -/
structure Exchange (c : ChannelId) (close : Method) (answer : MethodId) (s : Session)
    (wait o : Outcome σ Unit) : Prop where
  hearing : ∃ context, Hearing c context (dropUntil answer) () s wait
  encloses : ∃ tail, o.trace = .sent c close none :: (wait.trace ++ tail) ∧
    ∀ e ∈ tail, e = .forgotten c ∨ e = .shut

namespace Exchange

theorem filterMap_trace {α : Type} (h : Exchange c close answer s wait o) (read : Event → Option α)
    (forgotten : read (.forgotten c) = none) (shut : read .shut = none) :
    o.trace.filterMap read = (read (.sent c close none)).toList ++ wait.trace.filterMap read := by
  obtain ⟨tail, split, plain⟩ := h.encloses
  have nothing : tail.filterMap read = [] := by
    refine List.filterMap_eq_nil_iff.mpr fun e mem => ?_
    rcases plain e mem with rfl | rfl
    · exact forgotten
    · exact shut
  rw [split]
  cases first : read (.sent c close none) <;> simp [first, nothing]

theorem stream_eq (h : Exchange c close answer s wait o) :
    stream c s o.trace = stream c s wait.trace :=
  congrArg ((s.queue c).toList ++ ·) (h.filterMap_trace _ rfl rfl)

theorem attempted_eq (h : Exchange c close answer s wait o) :
    attempted o.trace = (c, close) :: attempted wait.trace :=
  congrArg (List.map _) (h.filterMap_trace _ rfl rfl)

theorem handed (h : Exchange c close answer s wait o) :
    delivered c o.trace = (stream c s o.trace).take
      ((stream c s o.trace).findIdx (·.concludes answer c) + 1) := by
  obtain ⟨context, hearing⟩ := h.hearing
  have handed : delivered c o.trace = delivered c wait.trace := h.filterMap_trace _ rfl rfl
  rw [handed, hearing.handed.1, conclusive_dropUntil, h.stream_eq]

theorem awaited (h : Exchange c close answer s wait o)
    (plain : answer ≠ .channelClose ∧ answer ≠ .connectionClose) : Awaited c answer wait := by
  obtain ⟨context, hearing⟩ := h.hearing
  exact hearing.awaited plain

theorem findSome?_upshot? (h : Exchange c close answer s wait o) {first : Upshot}
    (decided : wait.trace.findSome? (·.upshot? c answer) = some first) :
    o.trace.findSome? (·.upshot? c answer) = some first := by
  obtain ⟨tail, split, -⟩ := h.encloses
  have nothing : (Event.sent c close none).upshot? c answer = none := rfl
  simp [split, nothing, List.findSome?_append, decided]

theorem mem_sent (h : Exchange c close answer s wait o) {d : ChannelId} {m : Method}
    (other : m.id ≠ close.id) : .sent d m none ∈ o.trace ↔ .sent d m none ∈ wait.trace := by
  obtain ⟨tail, split, plain⟩ := h.encloses
  have not_first : Event.sent d m none ≠ .sent c close none := fun same =>
    other (congrArg Method.id (Event.sent.inj same).2.1)
  have not_last : .sent d m none ∉ tail := fun mem => by
    rcases plain _ mem with same | same <;> cases same
  simp [split, not_first, not_last]

end Exchange
end Exchange

/-- What whoever closes a channel is told in the end of an error met meanwhile. -/
def concede (c : ChannelId) : SessionError → Except SessionError Unit
  | .channelClosedByPeer d reason context =>
    if d = c then .ok () else .error (.channelClosedByPeer d reason context)
  | e => .error e

section Concede

variable {failure : Option LinkError} {e : SessionError}

theorem concede_of_isPeerClose (own_fault : e.isPeerClose = false) : concede c e = .error e := by
  cases e with
  | channelClosedByPeer => cases own_fault
  | _ => rfl

theorem concede_connection :
    concede c (Scope.connection.error context m failure) =
      .error (Scope.connection.error context m failure) := by
  unfold Scope.error
  cases failure with
  | some cause => rfl
  | none => cases CloseReason.decode m.args <;> rfl

theorem concede_channel : concede c ((Scope.channel c).error context m failure) = .ok () ↔
    failure = none ∧ ∃ reason, CloseReason.decode m.args = .ok reason := by
  unfold Scope.error
  cases failure with
  | some cause => simp [concede]
  | none => cases CloseReason.decode m.args <;> simp [concede, Scope.closedByPeer]

end Concede

section CloseRegardless

variable {failure : Option LinkError} {e : SessionError} {link : σ}

end CloseRegardless

section Handshakes

variable [Link σ] {link : σ}

theorem run_closeChannel_of_ok (usable : s.connection = .open) (nonzero : c ≠ .connection)
    (opened : s.isOpen c) (goes_out : (Link.send link c (.channelClose .normal)).1 = .ok ()) :
    let wait := (awaitChannelCloseOk c).run s (Link.send link c (.channelClose .normal)).2
    (closeChannel c).run s link =
      .after (.sent c (.channelClose .normal) none :: wait.trace) (match wait.result with
        | .ok () => ⟨.ok (), [.forgotten c], wait.session.forget c, wait.link⟩
        | .error e => ⟨concede c e, [], wait.session, wait.link⟩) := by
  have sent := run_send_of_ok goes_out "channel.close" s
  rw [run_closeChannel usable nonzero opened, run_bind_of_ok (congrArg Outcome.result sent), sent,
    run_settle, Outcome.after_after]
  dsimp only
  generalize (awaitChannelCloseOk c).run s (Link.send link c (.channelClose .normal)).2 = wait
  cases wait.result with
  | ok _ => rfl
  | error e =>
    cases e with
    | channelClosedByPeer d reason context =>
      dsimp only [concede]
      split <;> rfl
    | _ => rfl

theorem run_closeChannel_of_error (usable : s.connection = .open) (nonzero : c ≠ .connection)
    (opened : s.isOpen c) {cause : LinkError}
    (fails : (Link.send link c (.channelClose .normal)).1 = .error cause) :
    (closeChannel c).run s link = ⟨.error (.link "channel.close" cause),
      [.sent c (.channelClose .normal) (some cause)], s,
      (Link.send link c (.channelClose .normal)).2⟩ := by
  have sent := run_send_of_error fails "channel.close" s
  rw [run_closeChannel usable nonzero opened, run_bind_of_error (congrArg Outcome.result sent),
    sent]

theorem exchange_closeChannel (usable : s.connection = .open) (nonzero : c ≠ .connection)
    (opened : s.isOpen c) (goes_out : (Link.send link c (.channelClose .normal)).1 = .ok ()) :
    Exchange c (.channelClose .normal) .channelCloseOk s
      ((awaitChannelCloseOk c).run s (Link.send link c (.channelClose .normal)).2)
      ((closeChannel c).run s link) where
  hearing := ⟨"channel.close", hearing_collect opened⟩
  encloses := by
    rw [run_closeChannel_of_ok usable nonzero opened goes_out]
    cases ((awaitChannelCloseOk c).run s (Link.send link c (.channelClose .normal)).2).result with
    | ok _ => exact ⟨_, rfl, by simp⟩
    | error e => exact ⟨_, rfl, by simp⟩

/-- What becomes of a channel that is closed, over all that it brings. If its close does not go out
nothing has changed. If it does, whatever comes first decides. -/
theorem closes_closeChannel (usable : s.connection = .open) (nonzero : c ≠ .connection)
    (opened : s.isOpen c) (link : σ) :
    let close := Method.channelClose .normal
    let o := (closeChannel c).run s link
    let frames := stream c s o.trace
    let decided := frames.findIdx (·.concludes .channelCloseOk c)
    let first : Option Upshot := o.trace.findSome? (·.upshot? c .channelCloseOk)
    (∀ cause, (Link.send link c close).1 = .error cause →
      o.result = .error (.link "channel.close" cause) ∧ o.session = s ∧
      o.trace = [.sent c close (some cause)]) ∧
    ((Link.send link c close).1 = .ok () →
      delivered c o.trace = frames.take (decided + 1) ∧
      match first with
      | some .answered =>
        o.result = .ok () ∧ attempted o.trace = [(c, close)] ∧ o.session.Erased c
      | some (.crossed (.channel d) m) =>
        d = c ∧ attempted o.trace = [(c, close), (c, .channelCloseOk)] ∧ o.session.Erased c ∧
        (o.result = .ok () ↔ .sent c .channelCloseOk none ∈ o.trace ∧
          ∃ reason, CloseReason.decode m.args = .ok reason)
      | some (.crossed .connection _) =>
        (∃ e, o.result = .error e) ∧ o.session.connection = .closed
      | some .brokenOff =>
        (∃ e, o.result = .error e) ∧ o.session.isOpen c ∧
        o.session = { s with queues := o.session.queues }
      | none => False) := by
  intro close o frames decided first
  refine ⟨fun cause fails => ?_, fun goes_out => ?_⟩
  · have refused : o = _ := run_closeChannel_of_error usable nonzero opened fails
    rw [refused]
    exact ⟨rfl, rfl, rfl⟩
  have ran : o = _ := run_closeChannel_of_ok usable nonzero opened goes_out
  have exchange : Exchange c close .channelCloseOk s _ o :=
    exchange_closeChannel usable nonzero opened goes_out
  have moves : Moves (closing c) [] s o.trace o.session := (conduct_closeChannel rfl).moves
  refine ⟨exchange.handed, ?_⟩
  have attempts := exchange.attempted_eq
  have awaited := exchange.awaited (by decide)
  generalize (awaitChannelCloseOk c).run s (Link.send link c close).2 = wait at *
  cases awaited with
  | answered trace t link silent came =>
    have first_eq : first = some .answered := exchange.findSome?_upshot? came
    rw [first_eq, attempts, ran]
    exact ⟨rfl, congrArg _ silent, erased_forget t c⟩
  | crossed x m failure trace t link reach tries succeeds came =>
    have first_eq : first = some (.crossed x m) := exchange.findSome?_upshot? came
    rw [first_eq]
    rcases reach with rfl | ⟨rfl, -⟩
    · dsimp only
      rw [ran]
      exact ⟨⟨_, concede_connection⟩, rfl⟩
    · have acknowledged : .sent c .channelCloseOk none ∈ o.trace ↔ failure = none :=
        (exchange.mem_sent (by decide)).trans succeeds
      dsimp only
      rw [acknowledged, attempts, ran]
      exact ⟨rfl, congrArg _ tries, erased_forget t c, concede_channel⟩
  | brokenOff e trace t link silent unended own_fault there came =>
    have first_eq : first = some .brokenOff := exchange.findSome?_upshot? came
    rw [first_eq]
    refine ⟨⟨e, ?_⟩, ?_, moves.eq_of_unended fun d => ?_⟩ <;> rw [ran]
    · exact concede_of_isPeerClose own_fault
    · exact there
    · simpa [Event.ends] using unended d

/-- Channel 1 is idle, with a tag and a frame that is parked for it. -/
def leaving : List (Operation × Loopback) :=
  refusing ++ [(.next 0 (some 0), (Loopback.start 0).push [.frame ⟨1, .body [1]⟩])]

/-- The broker closes the channel at the same time. -/
theorem closes_leaving :
    let s := ((Run.start .standard).performAll leaving).session
    let close := Method.channelClose .normal
    let link := (Loopback.start 0).push [.frame ⟨0, .heartbeat⟩, .frame ⟨1, .method refusal⟩]
    let o := (closeChannel 1).run s link
    s.connection = .open ∧ (1 : ChannelId) ≠ .connection ∧ s.isOpen 1 ∧ s.pool = [1] ∧
    (Link.send link 1 close).1 = .ok () ∧
    delivered 1 o.trace = [⟨1, .body [1]⟩, ⟨1, .method refusal⟩] ∧
    attempted o.trace = [(1, close), (1, .channelCloseOk)] ∧ o.result = .ok () ∧
    o.session.Erased 1 := by
  intro s close link o
  have usable : s.connection = .open := by decide +kernel
  have nonzero : (1 : ChannelId) ≠ .connection := by decide
  have opened : s.isOpen 1 := by decide +kernel
  have goes_out : (Link.send link 1 close).1 = .ok () := by decide +kernel
  have trace : o.trace = [.sent 1 close none, .delivered 1 ⟨1, .body [1]⟩,
      .pulled 1 none (.frame ⟨0, .heartbeat⟩), .pulled 1 none (.frame ⟨1, .method refusal⟩),
      .delivered 1 ⟨1, .method refusal⟩, .forgotten 1, .sent 1 .channelCloseOk none] := by
    decide +kernel
  have first : o.trace.findSome? (·.upshot? 1 .channelCloseOk) =
      some (.crossed (.channel 1) refusal) := by
    rw [trace]
    rfl
  have settles := ((closes_closeChannel usable nonzero opened link).2 goes_out).2
  rw [first] at settles
  obtain ⟨-, attempts, erased, ok⟩ := settles
  have acknowledged : .sent 1 .channelCloseOk none ∈ o.trace := by
    rw [trace]
    simp
  refine ⟨usable, nonzero, opened, by decide +kernel, goes_out, ?_, attempts,
    ok.mpr ⟨acknowledged, _, rfl⟩, erased⟩
  rw [trace]
  rfl

end Handshakes
end Session

namespace Run

open Multiplex.Session

variable {σ : Type} [Link σ]

end Run
end Multiplex
