import Multiplex.Proofs.Decision

/-! What is still to come for a channel: the frames that the link has for it, up to where something
would end the waiting. A reader who waits without a limit goes on through these behind the ones that
are parked, and what they make for him is what he is told. -/

namespace Multiplex
namespace Session

open Multiplex.Action

variable {σ α β : Type} [Link σ] {s t : Session} {link : σ} {c : ChannelId} {f : Frame}
  {own rest : List Frame} {context : String} {b : β} {step : β → Frame → Step β α}

/-- Pulls without a limit bring channel `c` these frames. The link does not fail and brings
something each time, and what it brings for others finds its place and closes nothing. -/
inductive Upcoming (c : ChannelId) : Session → σ → List Frame → Prop
  | nil (s : Session) (link : σ) : Upcoming c s link []
  | own {s : Session} {link link' : σ} {f : Frame} {frames : List Frame}
    (pulled : Link.pull link none = (.frame f, link')) (own : f.channel = c)
    (later : Upcoming c s link' frames) : Upcoming c s link (f :: frames)
  | foreign {s t : Session} {link link' : σ} {f : Frame} {frames : List Frame}
    (pulled : Link.pull link none = (.frame f, link')) (foreign : f.channel ≠ c)
    (routed : s.route f = .on t) (later : Upcoming c t link' frames) : Upcoming c s link frames

section Queue

omit [Link σ] in
theorem route_setQueue_of_foreign (foreign : f.channel ≠ c) (routed : s.route f = .on t)
    (frames : Queue Frame) : (s.setQueue c frames).route f = .on (t.setQueue c frames) := by
  rcases route_eq_on routed with ⟨rfl, control | closed⟩ | ⟨nonzero, opened, room, rfl⟩
  · exact (route_of_connection control routed).2 _
  · by_cases control : f.channel = .connection
    · exact (route_of_connection control routed).2 _
    · exact route_of_closed control (by simp [closed, foreign.symm])
  · have same : (s.setQueue c frames).queue f.channel = s.queue f.channel := by
      simp [foreign.symm]
    rw [route_of_isOpen nonzero (by simp [opened]) (same ▸ room), same,
      setQueue_comm foreign.symm]

/-- What is parked for a channel has no part in what comes for it. -/
theorem Upcoming.setQueue (h : Upcoming c s link own) (frames : Queue Frame) :
    Upcoming c (s.setQueue c frames) link own := by
  induction h with
  | nil s link => exact .nil _ link
  | own pulled own _ ih => exact .own pulled own ih
  | foreign pulled foreign routed _ ih =>
    exact .foreign pulled foreign (route_setQueue_of_foreign foreign routed frames) ih

theorem upcoming_setQueue_iff (opened : s.isOpen c) (frames : Queue Frame) :
    Upcoming c (s.setQueue c frames) link own ↔ Upcoming c s link own := by
  refine ⟨fun h => ?_, fun h => h.setQueue frames⟩
  have back := h.setQueue (s.queue c)
  rwa [setQueue_setQueue, setQueue_self opened] at back

end Queue

section Read

theorem pullFor_of_upcoming (h : Upcoming c s link (f :: rest)) (opened : s.isOpen c)
    (empty : (s.queue c).toList = []) (harmless : f.closing? c = none) :
    ∃ trace t link', pullFor c none s link = ⟨.ok (some f), trace, t, link'⟩ ∧ t.isOpen c ∧
      (t.queue c).toList = [] ∧ Upcoming c t link' rest := by
  generalize coming : f :: rest = frames at h
  induction h with
  | nil => cases coming
  | @own s link link' g frames pulled own later =>
    obtain ⟨rfl, rfl⟩ := List.cons.inj coming
    have ran := pullFor_of_own (s := s) pulled own
    rw [run_deliver_of_none harmless] at ran
    exact ⟨_, s, link', ran, opened, empty, later⟩
  | @foreign s t link link' g frames pulled foreign routed later ih =>
    obtain ⟨trace, u, link'', ran, still, nothing, coming⟩ :=
      ih (isOpen_of_route routed c ▸ opened) (queue_of_route routed foreign ▸ empty) coming
    refine ⟨.pulled c none (.frame g) :: trace, u, link'', ?_, still, nothing, coming⟩
    rw [pullFor_of_foreign pulled foreign, routed]
    exact congrArg (Outcome.after [.pulled c none (.frame g)]) ran

theorem nextFrame_of_upcoming (h : Upcoming c s link own) (opened : s.isOpen c)
    (first : (s.queue c).toList ++ own = f :: rest) (harmless : f.closing? c = none) :
    ∃ trace t link' own', (nextFrame c none).run s link = ⟨.ok (some f), trace, t, link'⟩ ∧
      t.isOpen c ∧ Upcoming c t link' own' ∧ (t.queue c).toList ++ own' = rest := by
  cases parked : (s.queue c).toList with
  | nil =>
    obtain rfl : own = f :: rest := by simpa [parked] using first
    obtain ⟨trace, t, link', ran, still, nothing, coming⟩ :=
      pullFor_of_upcoming h opened parked harmless
    refine ⟨trace, t, link', rest, ?_, still, coming, by rw [nothing, List.nil_append]⟩
    rw [run_nextFrame_of_empty opened parked, ran]
  | cons g more =>
    obtain ⟨rfl, rfl⟩ : g = f ∧ more ++ own = rest := by simpa [parked] using first
    have ran : (nextFrame c none).run s link = _ := run_nextFrame_of_queued opened parked link
    rw [run_deliver_of_none harmless] at ran
    exact ⟨_, _, link, own, ran, by simp, h.setQueue _, by simp⟩

/-- What is parked and what comes settles what a reader without a limit is told. -/
theorem collect_of_upcoming {r : Except SessionError α} (h : Upcoming c s link own)
    (opened : s.isOpen c)
    (made : digest c step b ((s.queue c).toList ++ own) = some (r, rest)) :
    (collect c context step b s link).result = r := by
  -- on the parked frames and those to come as one list, since either may hold the next one
  generalize all : (s.queue c).toList ++ own = frames at made
  induction frames generalizing b s link own with
  | nil => cases made
  | cons f frames ih =>
    have harmless : f.closing? c = none := by
      cases closes : f.closing? c with
      | none => rfl
      | some _ => simp [digest, closes] at made
    obtain ⟨trace, t, link', own', read, still, coming, all⟩ :=
      nextFrame_of_upcoming h opened all harmless
    rw [collect_eq, read]
    cases took : step b f with
    | more b' =>
      have made : digest c step b' frames = some (r, rest) := by
        simpa [digest, harmless, took] using made
      simpa [took] using ih coming still all made
    | done a =>
      obtain ⟨rfl, -⟩ : .ok a = r ∧ _ := by simpa [digest, harmless, took] using made
      simp [took]
    | failed e =>
      obtain ⟨rfl, -⟩ : .error e = r ∧ _ := by simpa [digest, harmless, took] using made
      simp [took]

end Read

section Arrived

theorem arrived_deliver (opened : s.isOpen c) (f : Frame) (link : σ) :
    arrived c ((deliver c f).run s link).trace = [] := by
  cases closing : f.closing? c with
  | none =>
    rw [run_deliver_of_none closing]
    rfl
  | some p =>
    obtain ⟨x, m⟩ := p
    obtain ⟨failure, link', settles⟩ := deliver_settles (fun _ => opened) closing link
    rw [settles]
    exact arrived_settled x failure

theorem arrived_closedConnection (m : Method) (context : String) (s : Session) (link : σ) :
    arrived c ((closedConnection m context : Action σ α).run s link).trace = [] := by
  obtain ⟨failure, link', settles⟩ := closedConnection_settles (α := α) m context s link
  rw [settles]
  exact arrived_settled .connection failure

/-- What was pulled for the channel had been to come, and what comes after a frame that was read
comes behind it. -/
theorem upcoming_pullFor (opened : s.isOpen c) :
    let o := pullFor c none s link
    Upcoming c s link (arrived c o.trace) ∧ ∀ f, o.result = .ok (some f) → ∀ own,
      Upcoming c o.session o.link own → Upcoming c s link (arrived c o.trace ++ own) := by
  induction s, link using pullFor_induction (σ := σ) c none with
  | failed s link e link' pulled ran => simp [ran, arrived, Event.arrivedOn, Upcoming.nil]
  | nothing s link link' pulled ran => simp [ran, arrived, Event.arrivedOn, Upcoming.nil]
  | own s link f link' pulled own ran =>
    have comes : arrived c (pullFor c none s link).trace = [f] := by
      rw [ran, Outcome.trace_after, arrived_append, arrived_deliver opened]
      simp [arrived, Event.arrivedOn, own]
    dsimp only
    rw [comes]
    refine ⟨.own pulled own (.nil s link'), fun g got rest later => .own pulled own ?_⟩
    rw [ran, Outcome.result_after] at got
    rwa [ran, deliver_of_ok got] at later
  | closes s link f link' m pulled foreign routed ran =>
    have comes : arrived c (pullFor c none s link).trace = [] := by
      rw [ran, Outcome.trace_after, arrived_append, arrived_closedConnection]
      simp [arrived, Event.arrivedOn, foreign]
    dsimp only
    rw [comes]
    refine ⟨.nil s link, fun g got => ?_⟩
    rw [ran, Outcome.result_after] at got
    exact absurd got closedConnection_ne_ok
  | full s link f link' pulled foreign routed ran =>
    simp [ran, arrived, Event.arrivedOn, foreign, Upcoming.nil]
  | late s link f link' t pulled foreign routed expired ran => cases expired
  | passed s link f link' t pulled foreign routed patient ran ih =>
    obtain ⟨came, goes_on⟩ := ih (isOpen_of_route routed c ▸ opened)
    have comes : arrived c (pullFor c none s link).trace =
        arrived c (pullFor c none t link').trace := by
      rw [ran, Outcome.trace_after, arrived_append]
      simp [arrived, Event.arrivedOn, foreign]
    dsimp only
    rw [comes, ran]
    exact ⟨.foreign pulled foreign routed came, fun g got own later =>
      .foreign pulled foreign routed (goes_on g got own later)⟩

theorem upcoming_nextFrame (opened : s.isOpen c) (link : σ) :
    let o := (nextFrame c none).run s link
    Upcoming c s link (arrived c o.trace) ∧ ∀ f, o.result = .ok (some f) → ∀ own,
      Upcoming c o.session o.link own → Upcoming c s link (arrived c o.trace ++ own) := by
  refine nextFrame_cases (fun closed => ?_) (fun f rest _ queued => ?_) fun _ empty => ?_
  · simp [closed] at opened
  · dsimp only
    rw [arrived_deliver (by simp)]
    refine ⟨.nil s link, fun g got own later => ?_⟩
    rw [deliver_of_ok got] at later
    exact (upcoming_setQueue_iff opened _).mp later
  · exact upcoming_pullFor opened

theorem upcoming_collect (opened : s.isOpen c) :
    Upcoming c s link (arrived c (collect c context step b s link).trace) := by
  fun_induction collect c context step b s link with
  | case1 b s link e trace t link' read =>
    simpa [read] using (upcoming_nextFrame opened link).1
  | case2 b s link trace t link' read =>
    simpa [read] using (upcoming_nextFrame opened link).1
  | case3 b s link f trace t link' read ih =>
    obtain ⟨came, goes_on⟩ := upcoming_nextFrame opened link
    have caught : Catch c none s ((nextFrame c none).run s link) := catch_nextFrame opened
    have still : t.isOpen c := by
      rw [read] at caught
      cases caught with
      | frame _ before _ _ heard harmless => exact heard.opened
      | obstructed _ _ _ _ _ _ _ _ because => cases because
    rw [read] at came goes_on
    cases took : step b f with
    | more b' =>
      rw [Outcome.trace_after, arrived_append]
      exact goes_on f rfl _ (ih b' still)
    | done a => simpa [Outcome.after] using came
    | failed e => simpa [Outcome.after] using came

end Arrived

end Session
end Multiplex
