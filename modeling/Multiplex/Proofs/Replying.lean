import Multiplex.Link.Loopback
import Multiplex.Proofs.Upcoming

/-! What a request comes to. Of the frames that are parked for its channel or come in while it
waits, the first one that settles the matter decides: a close, a reply that was asked for, or any
frame at all where no others are suffered. -/

namespace Multiplex

/-- Whether a frame settles what becomes of a request on channel `c`. -/
def Frame.decides (policy : UnexpectedReply) (expected : List MethodId) (c : ChannelId)
    (f : Frame) : Bool :=
  (f.closing? c).isSome || expected.any f.isMethod || policy = .fail

namespace Session

open Multiplex.Action

variable {σ : Type} {s : Session} {link : σ} {c : ChannelId} {f : Frame} {m r : Method}
  {policy : UnexpectedReply} {context : String} {expected : List MethodId}

section TakeReply

theorem any_isMethod : expected.any f.isMethod = f.method?.any (·.id ∈ expected) := by
  unfold Frame.isMethod Frame.methodId?
  cases f.method? with
  | none => simp
  | some n =>
    rw [Bool.eq_iff_iff]
    simp

theorem takeReply_eq_done : takeReply policy c context expected () f = .done r ↔
    f.method? = some r ∧ r.id ∈ expected := by
  unfold takeReply
  grind

theorem takeReply_fail (unexpected : ∀ id ∈ expected, f.isMethod id = false) :
    takeReply .fail c context expected () f = .failed (match f.method? with
      | some n => .unexpectedMethod c n.id context
      | none => .unexpectedFrame c .method f.kind) := by
  have unawaited : f.method?.any (·.id ∈ expected) = false := by
    rw [← any_isMethod]
    simpa using unexpected
  unfold takeReply
  cases method : f.method? with
  | none => rfl
  | some n => simp_all

theorem takeReply_failed {e : SessionError} (fails : takeReply policy c context expected () f =
    .failed e) : policy = .fail ∧ ∀ id ∈ expected, f.isMethod id = false := by
  have unawaited : f.method?.any (·.id ∈ expected) = false ∧ policy = .fail := by
    unfold takeReply at fails
    grind
  rw [← any_isMethod] at unawaited
  exact ⟨unawaited.2, by simpa using unawaited.1⟩

theorem conclusive_takeReply :
    conclusive c (takeReply policy c context expected) = Frame.decides policy expected c := by
  funext f
  unfold conclusive takeReply Frame.decides
  rw [any_isMethod]
  cases policy <;> grind

/-- Before the frame that decides come none but what the request does not care for. -/
theorem undecided_iff {earlier : List Frame} :
    (∀ g ∈ earlier, g.decides policy expected c = false) ↔
      (∀ g ∈ earlier, g.closing? c = none) ∧
      (policy = .ignore → ∀ g ∈ earlier, ∀ id ∈ expected, g.isMethod id = false) ∧
      (policy = .fail → earlier = []) := by
  unfold Frame.decides
  cases policy with
  | ignore => simp [forall_and]
  | fail =>
    cases earlier with
    | nil => simp
    | cons g earlier => exact iff_of_false (fun all => by simpa using all g (.head _)) (by simp)

end TakeReply

section Requested

variable {wait o : Outcome σ Method}

/-- What a request comes to when it has gone out, given what its waiting came to. -/
structure Requested (s : Session) (c : ChannelId) (m : Method) (expected : List MethodId)
    (wait o : Outcome σ Method) : Prop where
  hearing : Hearing c m.id.name
    (takeReply s.settings.unexpectedReply c m.id.name expected) () s wait
  result : o.result = wait.result.mapError (·.asRejection m.id.name)
  trace : o.trace = .sent c m none :: wait.trace
  session : o.session = wait.session

namespace Requested

theorem stream_eq (h : Requested s c m expected wait o) :
    stream c s o.trace = stream c s wait.trace := by
  simp [h.trace, stream, arrived, Event.arrivedOn]

theorem ok_iff (h : Requested s c m expected wait o) :
    o.result = .ok r ↔ wait.result = .ok r := by
  rw [h.result]
  cases wait.result with
  | ok _ => exact Iff.rfl
  | error e => exact iff_of_false nofun nofun

theorem first_iff (h : Requested s c m expected wait o) :
    (stream c s wait.trace).find? (conclusive c
        (takeReply s.settings.unexpectedReply c m.id.name expected)) = some f ↔
      f.decides s.settings.unexpectedReply expected c ∧ ∃ earlier later,
        stream c s o.trace = earlier ++ f :: later ∧
        ∀ g ∈ earlier, g.decides s.settings.unexpectedReply expected c = false := by
  rw [conclusive_takeReply, ← h.stream_eq, List.find?_eq_some_iff_append]
  simp

theorem reply_iff (h : Requested s c m expected wait o) : o.result = .ok r ↔
    ∃ earlier f later, stream c s o.trace = earlier ++ f :: later ∧ f.method? = some r ∧
      r.id ∈ expected ∧ f.closing? c = none ∧
      ∀ g ∈ earlier, g.decides s.settings.unexpectedReply expected c = false := by
  rw [h.ok_iff, h.hearing.ok_iff]
  constructor
  · rintro ⟨f, first, harmless, took⟩
    obtain ⟨-, earlier, later, split, undecided⟩ := h.first_iff.mp first
    obtain ⟨method, awaited⟩ := takeReply_eq_done.mp took
    exact ⟨earlier, f, later, split, method, awaited, harmless, undecided⟩
  · rintro ⟨earlier, f, later, split, method, awaited, harmless, undecided⟩
    have decides : f.decides s.settings.unexpectedReply expected c := by
      simp [Frame.decides, any_isMethod, method, awaited]
    exact ⟨f, h.first_iff.mpr ⟨decides, earlier, later, split, undecided⟩, harmless,
      takeReply_eq_done.mpr ⟨method, awaited⟩⟩

theorem unobstructed (h : Requested s c m expected wait o) (answered : o.result = .ok r) :
    ∀ e ∈ o.trace, e.obstructs = false := by
  rw [h.trace]
  refine List.forall_mem_cons.mpr ⟨rfl, fun e mem => ?_⟩
  exact (h.hearing.undisturbed (h.ok_iff.mp answered) e mem).2

/-- Where no other frame is suffered, the first one that comes is the last one that is read. -/
theorem error_of_unexpected (h : Requested s c m expected wait o) {later : List Frame}
    (fails : s.settings.unexpectedReply = .fail) (first : stream c s o.trace = f :: later)
    (harmless : f.closing? c = none) (unexpected : ∀ id ∈ expected, f.isMethod id = false) :
    o.result = .error (match f.method? with
      | some n => .unexpectedMethod c n.id m.id.name
      | none => .unexpectedFrame c .method f.kind) := by
  have decides : f.decides s.settings.unexpectedReply expected c := by
    simp [Frame.decides, fails]
  have gaveUp := h.hearing.error_of_failed
    (h.first_iff.mpr ⟨decides, [], later, first, by simp⟩) harmless
    (fails ▸ takeReply_fail unexpected)
  rw [h.result, gaveUp]
  cases f.method? <;> rfl

theorem because (h : Requested s c m expected wait o) {e : SessionError}
    (failed : o.result = .error e) :
    (∃ x ∈ o.trace, x.close?.isSome ∨ x.obstructs) ∨
      s.settings.unexpectedReply = .fail ∧ ∃ f later, stream c s o.trace = f :: later ∧
        f.closing? c = none ∧ ∀ id ∈ expected, f.isMethod id = false := by
  obtain ⟨e', outcome⟩ : ∃ e', wait.result = .error e' := by
    cases outcome : wait.result with
    | ok r => simp [h.ok_iff.mpr outcome] at failed
    | error e' => exact ⟨e', rfl⟩
  rcases h.hearing.because outcome with
    ⟨x, mem, ends⟩ | ⟨earlier, f, later, b, split, takes, harmless, fails⟩
  · exact .inl ⟨x, h.trace ▸ .tail _ mem, ends⟩
  obtain ⟨policy, unexpected⟩ := takeReply_failed fails
  have unread : ∀ g ∈ earlier, g.decides s.settings.unexpectedReply expected c = false := by
    rw [← conclusive_takeReply]
    exact takes.inconclusive
  obtain rfl := (undecided_iff.mp unread).2.2 policy
  exact .inr ⟨policy, f, later, h.stream_eq.trans split, harmless, unexpected⟩

theorem handed (h : Requested s c m expected wait o) :
    let frames := stream c s o.trace
    let decided := frames.findIdx (·.decides s.settings.unexpectedReply expected c)
    delivered c o.trace = frames.take (decided + 1) ∧
      (o.session.connection = .open → o.session.isOpen c →
        (o.session.queue c).toList = frames.drop (decided + 1)) := by
  have handed := h.hearing.handed
  rw [conclusive_takeReply, ← h.stream_eq, ← h.session] at handed
  rw [h.trace] at handed ⊢
  exact handed

theorem attempted_eq (h : Requested s c m expected wait o) : attempted o.trace =
    (c, m) :: (o.trace.findSome? (·.close?)).toList.map (·.1.acknowledgement) := by
  have goes_on : attempted (.sent c m none :: wait.trace) = (c, m) :: attempted wait.trace := rfl
  rw [h.trace, goes_on, h.hearing.attempted_eq]
  rfl

end Requested
end Requested

variable [Link σ]

theorem requested_call (usable : s.connection = .open) (opened : s.isOpen c)
    (goes_out : (Link.send link c m).1 = .ok ()) (expected : List MethodId) :
    Requested s c m expected ((awaitReply c m.id.name expected).run s (Link.send link c m).2)
      ((call c m expected).run s link) := by
  have sent := run_send_of_ok goes_out m.id.name s
  rw [run_call usable opened, run_bind_of_ok (congrArg Outcome.result sent), sent, run_settle]
  have hearing : Hearing c m.id.name (takeReply s.settings.unexpectedReply c m.id.name expected) ()
    s ((awaitReply c m.id.name expected).run s (Link.send link c m).2) := hearing_collect opened
  dsimp only
  generalize (awaitReply c m.id.name expected).run s (Link.send link c m).2 = wait at *
  rw [run_orRejected]
  exact ⟨hearing, rfl, by simp, rfl⟩

theorem upcoming_call (usable : s.connection = .open) (opened : s.isOpen c)
    (goes_out : (Link.send link c m).1 = .ok ()) (expected : List MethodId) :
    Upcoming c s (Link.send link c m).2 (arrived c ((call c m expected).run s link).trace) := by
  rw [(requested_call usable opened goes_out expected).trace]
  exact upcoming_collect opened

theorem call_of_upcoming {own earlier later : List Frame} (usable : s.connection = .open)
    (opened : s.isOpen c) (goes_out : (Link.send link c m).1 = .ok ())
    (coming : Upcoming c s (Link.send link c m).2 own)
    (split : (s.queue c).toList ++ own = earlier ++ f :: later) (method : f.method? = some r)
    (awaited : r.id ∈ expected) (harmless : f.closing? c = none)
    (undecided : ∀ g ∈ earlier, g.decides s.settings.unexpectedReply expected c = false) :
    ((call c m expected).run s link).result = .ok r := by
  have deciding : conclusive c (takeReply s.settings.unexpectedReply c m.id.name expected) =
      Frame.decides s.settings.unexpectedReply expected c := conclusive_takeReply
  rw [← deciding] at undecided
  have took : takeReply s.settings.unexpectedReply c m.id.name expected () f = .done r :=
    takeReply_eq_done.mpr ⟨method, awaited⟩
  have made := (takes_of_inconclusive undecided).digest_append (f :: later)
  rw [← split, digest, harmless, took] at made
  exact (requested_call usable opened goes_out expected).ok_iff.mpr
    (collect_of_upcoming coming opened made)

/-- What comes of a request that goes out, over all that its channel brings. It gets the reply `r`
if and only if `r` is the first frame that was asked for and no close, with none but frames of no
account before it, or none at all where no others are suffered; and if the wait was not cut short
before. Such a reply is got whenever it is still to come. A frame that was not asked for fails the
request where no others are suffered, and never where they are ignored: whoever gets no reply met
such a frame, or a close, or had his waiting cut short. What comes behind the frame that decides
stays where it is. And nothing is sent but the request and the answer to a close that was met. -/
theorem replies_call (usable : s.connection = .open) (opened : s.isOpen c)
    (goes_out : (Link.send link c m).1 = .ok ()) (expected : List MethodId) :
    let o := (call c m expected).run s link
    let policy := s.settings.unexpectedReply
    let frames := stream c s o.trace
    let decided := frames.findIdx (·.decides policy expected c)
    (∀ r, o.result = .ok r ↔ ∃ earlier f later, frames = earlier ++ f :: later ∧
      f.method? = some r ∧ r.id ∈ expected ∧ f.closing? c = none ∧
      (∀ g ∈ earlier, g.closing? c = none) ∧
      (policy = .ignore → ∀ g ∈ earlier, ∀ id ∈ expected, g.isMethod id = false) ∧
      (policy = .fail → earlier = []) ∧
      ∀ past e future, o.trace = past ++ e :: future → e.obstructs →
        (earlier ++ [f]) <+: stream c s past) ∧
    Upcoming c s (Link.send link c m).2 (arrived c o.trace) ∧
    (∀ own earlier f later r, Upcoming c s (Link.send link c m).2 own →
      (s.queue c).toList ++ own = earlier ++ f :: later → f.method? = some r → r.id ∈ expected →
      f.closing? c = none → (∀ g ∈ earlier, g.decides policy expected c = false) →
      o.result = .ok r) ∧
    (policy = .fail → ∀ f later, frames = f :: later → f.closing? c = none →
      (∀ id ∈ expected, f.isMethod id = false) →
      o.result = .error (match f.method? with
        | some n => .unexpectedMethod c n.id m.id.name
        | none => .unexpectedFrame c .method f.kind)) ∧
    (∀ e, o.result = .error e → (∃ x ∈ o.trace, x.close?.isSome ∨ x.obstructs) ∨
      policy = .fail ∧ ∃ f later, frames = f :: later ∧ f.closing? c = none ∧
        ∀ id ∈ expected, f.isMethod id = false) ∧
    delivered c o.trace = frames.take (decided + 1) ∧
    (o.session.connection = .open → o.session.isOpen c →
      (o.session.queue c).toList = frames.drop (decided + 1)) ∧
    attempted o.trace =
      (c, m) :: (o.trace.findSome? (·.close?)).toList.map (·.1.acknowledgement) := by
  intro o policy frames decided
  have requested := requested_call usable opened goes_out expected
  obtain ⟨handed, left⟩ := requested.handed
  refine ⟨fun r => ⟨fun answered => ?_, ?_⟩, upcoming_call usable opened goes_out expected,
    fun own earlier f later r coming split method awaited harmless undecided =>
      call_of_upcoming usable opened goes_out coming split method awaited harmless undecided,
    fun fails _ _ => requested.error_of_unexpected fails, fun _ => requested.because, handed, left,
    requested.attempted_eq⟩
  · obtain ⟨earlier, f, later, split, method, awaited, harmless, undecided⟩ :=
      requested.reply_iff.mp answered
    obtain ⟨unmet, ignored, first⟩ := undecided_iff.mp undecided
    refine ⟨earlier, f, later, split, method, awaited, harmless, unmet, ignored, first, ?_⟩
    intro past e future cut obstructs
    have mem : e ∈ o.trace := by
      rw [cut]
      simp
    simp [requested.unobstructed answered e mem] at obstructs
  · rintro ⟨earlier, f, later, split, method, awaited, harmless, unmet, ignored, first, -⟩
    exact requested.reply_iff.mpr ⟨earlier, f, later, split, method, awaited, harmless,
      undecided_iff.mpr ⟨unmet, ignored, first⟩⟩

def attended : Session :=
  let broker := { Loopback.start 0 with replies := Loopback.agreeable }
  ((Run.start .standard).performAll [(.acquire, broker), (.acquire, broker),
    (.next 2 (some 0), (Loopback.start 0).push [.frame ⟨1, .body [1]⟩])]).session

/-- The reply comes after frames that nobody waits for and before one that is left where it is. -/
theorem replies_attended :
    let flow : Method := ⟨.channelFlow, [1]⟩
    let reply : Method := ⟨.channelFlowOk, [1]⟩
    let link := (Loopback.start 0).push [.frame ⟨2, .method reply⟩, .frame ⟨1, .method flow⟩,
      .frame ⟨1, .method reply⟩, .frame ⟨1, .body [2]⟩]
    let o := (call 1 flow [.channelFlowOk]).run attended link
    attended.connection = .open ∧ attended.isOpen 1 ∧ (Link.send link 1 flow).1 = .ok () ∧
    o.result = .ok reply ∧ attempted o.trace = [(1, flow)] ∧
    delivered 1 o.trace = [⟨1, .body [1]⟩, ⟨1, .method flow⟩, ⟨1, .method reply⟩] := by
  intro flow reply link o
  have usable : attended.connection = .open := by decide +kernel
  have opened : attended.isOpen 1 := by decide +kernel
  have goes_out : (Link.send link 1 flow).1 = .ok () := by decide +kernel
  obtain ⟨replies, -, -, -, -, handed, -, attempts⟩ :=
    replies_call usable opened goes_out [.channelFlowOk]
  have came : stream 1 attended o.trace =
      [⟨1, .body [1]⟩, ⟨1, .method flow⟩] ++ [⟨1, .method reply⟩] := by decide +kernel
  have quiet : ∀ e ∈ o.trace, e.obstructs = false := by decide +kernel
  have unmet : o.trace.findSome? (·.close?) = none :=
    List.findSome?_eq_none_iff.mpr (by decide +kernel)
  have policy : attended.settings.unexpectedReply = .ignore := by decide +kernel
  rw [policy] at replies handed
  refine ⟨usable, opened, goes_out, ?_, ?_, ?_⟩
  · refine (replies reply).mpr ⟨_, _, [], came, rfl, by decide, by decide, by decide, by decide,
      by decide, fun past e future cut obstructs => ?_⟩
    simp [quiet e (cut ▸ by simp)] at obstructs
  · rw [attempts, unmet]
    rfl
  · rw [handed, came]
    decide

end Session
end Multiplex
