import Multiplex.Proofs.Noninterference

/-! Polling. Whoever looks in again and again without waiting gets in the end what he would have got
by waiting, and leaves everything as he would have left it; each time he takes no more than one
frame off the link. -/

namespace Multiplex

def Event.isPull : Event → Bool
  | .pulled .. => true
  | .sent .. | .delivered .. | .refused _ | .reserved _ | .forgotten _ | .abandoned _ | .shut =>
    false

/-- The same event to a reader who waits without a limit. -/
def Event.patient : Event → Event
  | .pulled reader _ answer => .pulled reader none answer
  | e => e

@[simp] theorem Event.patient_pulled (reader : ChannelId) (wait : Timeout) (answer : Pulled) :
    (Event.pulled reader wait answer).patient = .pulled reader none answer := rfl

theorem map_patient {trace : List Event} (unpulled : trace.countP (·.isPull) = 0) :
    trace.map (·.patient) = trace := by
  have same : ∀ e ∈ trace, e.patient = e := fun e mem => by
    have other : ¬ e.isPull := List.countP_eq_zero.mp unpulled e mem
    cases e with
    | pulled => exact absurd rfl other
    | _ => rfl
  rw [List.map_congr_left same, List.map_id']

namespace Session

open Multiplex.Action

/-- So many looks at a channel, one after another. -/
def polls {σ : Type} [Link σ] (c : ChannelId) : Nat → Session → σ → List (Outcome σ (Option Frame))
  | 0, _, _ => []
  | n + 1, s, link =>
    let o := (next c (some 0)).run s link
    o :: polls c n o.session o.link

variable {s t : Session} {c : ChannelId} {f g : Frame} {m : Method}

section Pulls

variable {σ : Type} [Link σ] {link : σ} {wait : Timeout}

structure Unserved (c : ChannelId) (s : Session) : Prop where
  usable : s.connection = .open
  opened : s.isOpen c
  empty : (s.queue c).toList = []

theorem Unserved.next_eq (h : Unserved c s) (wait : Timeout) (link : σ) :
    (next c wait).run s link = pullFor c wait s link := by
  unfold next
  rw [run_requireOpen_bind h.usable, run_nextFrame_of_empty h.opened h.empty]

omit [Link σ] in
theorem Unserved.route (h : Unserved c s) (foreign : g.channel ≠ c) (routed : s.route g = .on t) :
    Unserved c t where
  usable := by rw [eq_of_route routed, h.usable]
  opened := by rw [isOpen_of_route routed, h.opened]
  empty := by rw [queue_of_route routed foreign, h.empty]

theorem pulls_deliver (opened : s.isOpen c) (link : σ) :
    ((deliver c f).run s link).trace.countP (·.isPull) = 0 := by
  cases closing : f.closing? c with
  | none =>
    rw [run_deliver_of_none closing]
    rfl
  | some p =>
    obtain ⟨x, m⟩ := p
    obtain ⟨failure, link', settles⟩ := deliver_settles (fun _ => opened) closing link
    rw [settles]
    cases x <;> rfl

theorem pulls_pullFor (opened : s.isOpen c) (expired : wait.expired) :
    (pullFor c wait s link).trace.countP (·.isPull) = 1 := by
  induction s, link using pullFor_induction (σ := σ) c wait with
  | own s link f link' pulled own ran =>
    rw [ran, Outcome.trace_after, List.countP_append, pulls_deliver opened link']
    rfl
  | closes s link f link' m pulled foreign routed ran =>
    obtain ⟨failure, link', settles⟩ :=
      closedConnection_settles (α := Option Frame) m "next_frame" s link'
    rw [ran, settles]
    rfl
  | passed s link f link' t pulled foreign routed patient => exact absurd expired patient
  | failed s link e link' pulled ran => rw [ran]; rfl
  | nothing s link link' pulled ran => rw [ran]; rfl
  | full s link f link' pulled foreign routed ran => rw [ran]; rfl
  | late s link f link' t pulled foreign routed expired ran => rw [ran]; rfl

theorem pulls_next_le (s : Session) (link : σ) :
    ((next c (some 0)).run s link).trace.countP (·.isPull) ≤ 1 := by
  by_cases usable : s.connection = .open
  · unfold next
    rw [run_requireOpen_bind usable]
    refine nextFrame_cases (fun _ => Nat.zero_le _) (fun f rest _ _ => ?_) fun opened _ => ?_
    · rw [pulls_deliver (by simp) link]
      exact Nat.zero_le _
    · exact Nat.le_of_eq (pulls_pullFor opened rfl)
  · obtain ⟨e, barred, -⟩ : ∃ e, (next c (some 0)).run s link = ⟨.error e, [], s, link⟩ ∧ _ :=
      run_requireOpen_bind_of_not usable _ link
    rw [barred]
    exact Nat.zero_le _

end Pulls

/-- What goes past the reader of a channel: frames of the others, none of which closes the
connection. -/
def Passes (c : ChannelId) (g : Frame) : Prop :=
  g.channel ≠ c ∧ ¬ (g.channel = .connection ∧ g.isMethod .connectionClose)

instance : Decidable (Passes c g) :=
  inferInstanceAs (Decidable (_ ∧ ¬ (_ ∧ _)))

theorem Passes.routed (h : Passes c g) (unbounded : s.settings.maxBuffered = none) :
    ∃ t, s.route g = .on t := by
  cases routed : s.route g with
  | on t => exact ⟨t, rfl⟩
  | full => exact absurd routed (route_ne_full_of_unbounded unbounded g)
  | close m =>
    obtain ⟨control, method, id⟩ := route_eq_close routed
    refine absurd ⟨control, ?_⟩ h.2
    simp [Frame.isMethod, Frame.methodId?, method, id]

section Loopback

variable {l : Loopback} {rest : List Pulled} {passing : List Frame}

theorem pull_of_coming {p : Pulled} (coming : l.incoming = p :: rest) (wait : Timeout) :
    Link.pull l wait = (p, { l with incoming := rest }) := by
  simp [Link.pull, Loopback.pull, coming]

/-- The reader who does not wait is told that nothing came, and the one who waits goes on. -/
theorem next_of_passing (h : Unserved c s) (foreign : g.channel ≠ c) (routed : s.route g = .on t)
    (coming : l.incoming = .frame g :: rest) :
    (next c (some 0)).run s l =
      ⟨.ok none, [.pulled c (some 0) (.frame g)], t, { l with incoming := rest }⟩ ∧
    (next c none).run s l =
      ((next c none).run t { l with incoming := rest }).after [.pulled c none (.frame g)] := by
  rw [h.next_eq, h.next_eq, (h.route foreign routed).next_eq,
    pullFor_of_foreign (pull_of_coming coming (some 0)) foreign,
    pullFor_of_foreign (pull_of_coming coming none) foreign, routed]
  exact ⟨rfl, rfl⟩

theorem next_of_own (h : Unserved c s) (own : f.channel = c)
    (coming : l.incoming = .frame f :: rest) (wait : Timeout) :
    (next c wait).run s l = ((deliver c f).run s { l with incoming := rest }).after
      [.pulled c wait (.frame f)] := by
  rw [h.next_eq, pullFor_of_own (pull_of_coming coming wait) own]

/-- What looking in again and again comes to, against waiting: only the last look gets the frame. -/
structure Agreement (c : ChannelId) (f : Frame) (l : Loopback)
    (early : List (Outcome Loopback (Option Frame)))
    (last waited : Outcome Loopback (Option Frame)) : Prop where
  nothing : ∀ o ∈ early, o.result = .ok none
  brings : ∃ t : Session, t.isOpen c ∧
    last = ((deliver c f).run t l).after [.pulled c (some 0) (.frame f)]
  result : last.result = waited.result
  session : last.session = waited.session
  link : last.link = waited.link
  trace : ((early ++ [last]).flatMap (·.trace)).map (·.patient) = waited.trace

theorem polls_passing (unserved : Unserved c s) (unbounded : s.settings.maxBuffered = none)
    (passes : ∀ g ∈ passing, Passes c g) (own : f.channel = c)
    (coming : l.incoming = passing.map .frame ++ .frame f :: rest) :
    ∃ early last, polls c (passing.length + 1) s l = early ++ [last] ∧
      early.length = passing.length ∧
      Agreement c f { l with incoming := rest } early last ((next c none).run s l) := by
  induction passing generalizing s l with
  | nil =>
    have looked := next_of_own unserved own coming (some 0)
    have waited := next_of_own unserved own coming none
    have unpulled := map_patient (pulls_deliver (f := f) unserved.opened { l with incoming := rest })
    refine ⟨[], _, rfl, rfl, by simp, ⟨s, unserved.opened, looked⟩, ?_, ?_, ?_, ?_⟩ <;>
      rw [looked, waited]
    · rfl
    · rfl
    · rfl
    · simp [unpulled]
  | cons g passing ih =>
    obtain ⟨here, later⟩ := List.forall_mem_cons.mp passes
    obtain ⟨t, routed⟩ := here.routed unbounded
    rw [List.map_cons, List.cons_append] at coming
    obtain ⟨looked, waited⟩ := next_of_passing unserved here.1 routed coming
    have unbounded' : t.settings.maxBuffered = none := by rw [eq_of_route routed, unbounded]
    obtain ⟨early, last, polled, length, agreed⟩ :=
      ih (l := { l with incoming := passing.map .frame ++ .frame f :: rest })
        (unserved.route here.1 routed) unbounded' later rfl
    refine ⟨(next c (some 0)).run s l :: early, last, ?_, congrArg _ length, ?_⟩
    · rw [List.length_cons, polls, looked]
      exact congrArg _ polled
    · rw [looked, waited]
      exact
        { nothing := List.forall_mem_cons.mpr ⟨rfl, agreed.nothing⟩
          brings := agreed.brings
          result := agreed.result
          session := agreed.session
          link := agreed.link
          trace := congrArg (_ :: ·) agreed.trace }

/-- Looking in once for each frame that goes past, and once more, comes to the same as waiting. All
looks but the last bring nothing; the last brings the frame, or the close that it is, as waiting
does, and leaves everything as it is left then; and the same has happened, in the same order. No
look ever takes more than one frame off the link. -/
theorem polls_agree (usable : s.connection = .open) (unbounded : s.settings.maxBuffered = none)
    (opened : s.isOpen c) (empty : (s.queue c).toList = []) (passing : List Frame)
    (passes : ∀ g ∈ passing, Passes c g) (own : f.channel = c)
    (coming : l.incoming = passing.map .frame ++ .frame f :: rest) :
    let waited := (next c none).run s l
    (∃ early last, polls c (passing.length + 1) s l = early ++ [last] ∧
      early.length = passing.length ∧ (∀ o ∈ early, o.result = .ok none) ∧
      last.result = waited.result ∧ last.session = waited.session ∧ last.link = waited.link ∧
      ((early ++ [last]).flatMap (·.trace)).map (·.patient) = waited.trace ∧
      match f.closing? c with
      | none => last.result = .ok (some f) ∧ last.link.incoming = rest
      | some (x, m) => ∃ failure, last.result = .error (x.error "next_frame" m failure) ∧
        last.trace = .pulled c (some 0) (.frame f) :: .delivered c f :: x.settled failure) ∧
    ∀ (d : ChannelId) (t : Session) (link : Loopback),
      ((next d (some 0)).run t link).trace.countP (·.isPull) ≤ 1 := by
  intro waited
  obtain ⟨early, last, polled, length, agreed⟩ :=
    polls_passing ⟨usable, opened, empty⟩ unbounded passes own coming
  refine ⟨⟨early, last, polled, length, agreed.nothing, agreed.result, agreed.session, agreed.link,
    agreed.trace, ?_⟩, fun d t link => pulls_next_le t link⟩
  obtain ⟨t, there, brings⟩ := agreed.brings
  cases closing : f.closing? c with
  | none =>
    rw [brings, run_deliver_of_none closing]
    exact ⟨rfl, rfl⟩
  | some p =>
    obtain ⟨x, m⟩ := p
    obtain ⟨failure, link', settles⟩ :=
      deliver_settles (fun _ => there) closing { l with incoming := rest }
    rw [brings, settles]
    exact ⟨failure, rfl, rfl⟩

/-- What goes past is for channel 2, for nobody, and for the connection. Then the broker closes
channel 1. -/
theorem polls_neighbours :
    let passing : List Frame := [⟨2, .body [1]⟩, ⟨9, .body [2]⟩, ⟨0, .heartbeat⟩]
    let gone : CloseReason := ⟨404, "gone", 60, 20⟩
    let f : Frame := ⟨1, .method (.channelClose gone)⟩
    let l := (Loopback.start 0).push (passing.map .frame ++ [.frame f])
    let waited := (next 1 none).run neighbours l
    neighbours.connection = .open ∧ neighbours.settings.maxBuffered = none ∧
    neighbours.isOpen 1 ∧ (neighbours.queue 1).toList = [] ∧ (∀ g ∈ passing, Passes 1 g) ∧
    f.channel = 1 ∧ waited.result = .error (.channelClosedByPeer 1 gone "next_frame") ∧
    ∃ early last, polls 1 4 neighbours l = early ++ [last] ∧ early.length = 3 ∧
      (∀ o ∈ early, o.result = .ok none) ∧ last.result = waited.result ∧
      last.session = waited.session := by
  intro passing gone f l waited
  have usable : neighbours.connection = .open := by decide +kernel
  have unbounded : neighbours.settings.maxBuffered = none := by decide +kernel
  have opened : neighbours.isOpen 1 := by decide +kernel
  have empty : (neighbours.queue 1).toList = [] := by decide +kernel
  have passes : ∀ g ∈ passing, Passes 1 g := by decide
  obtain ⟨⟨early, last, polled, length, nothing, result, session, -⟩, -⟩ :=
    polls_agree usable unbounded opened empty passing passes (f := f) (l := l) rfl rfl
  exact ⟨usable, unbounded, opened, empty, passes, rfl, by decide +kernel, early, last, polled,
    length, nothing, result, session⟩

end Loopback

end Session
end Multiplex
