import Multiplex.Proofs.Noninterference
import Multiplex.Proofs.Session.Waiting

/-! What decides a wait on a channel. Its reader takes what is parked, then what he pulls, one frame
after another up to the first that is a close or makes up his mind, unless the waiting itself is cut
short first. -/

namespace Multiplex

/-- What somebody tried to send, in order. -/
def attempted (trace : List Event) : List (ChannelId × Method) :=
  (sent trace).map fun attempt => (attempt.1, attempt.2.1)

/-- Whether the reader of a channel gets nothing more after this: the connection's close came in, or
his waiting was broken off. -/
def Event.obstructs (e : Event) : Bool :=
  e.breaksOff || e.close?.any fun met => match met.1 with
    | .connection => true
    | .channel _ => false

/-- The answer that a close calls for, and where it goes. -/
def Scope.acknowledgement : Scope → ChannelId × Method
  | channel c => (c, .channelCloseOk)
  | connection => (.connection, .connectionCloseOk)

section Settled

variable {c : ChannelId} {trace events : List Event}

@[simp] theorem arrived_settled (x : Scope) (failure : Option LinkError) :
    arrived c (x.settled failure) = [] := by
  cases x <;> rfl

@[simp] theorem delivered_settled (x : Scope) (failure : Option LinkError) :
    delivered c (x.settled failure) = [] := by
  cases x <;> rfl

theorem attempted_append : attempted (trace ++ events) = attempted trace ++ attempted events := by
  simp [attempted, sent_append]

theorem mem_attempted {d : ChannelId} {m : Method} {failure : Option LinkError}
    (mem : .sent d m failure ∈ trace) : (d, m) ∈ attempted trace :=
  List.mem_map.mpr ⟨(d, m, failure), List.mem_filterMap.mpr ⟨_, mem, rfl⟩, rfl⟩

@[simp] theorem attempted_settled (x : Scope) (failure : Option LinkError) :
    attempted (x.settled failure) = [x.acknowledgement] := by
  cases x <;> rfl

end Settled

namespace Session

open Multiplex.Action

variable {σ α β : Type} {s t u : Session} {c : ChannelId} {f : Frame} {x : Scope} {m : Method}
  {wait : Timeout} {context : String} {frames : List Frame} {trace : List Event}

section Effect

variable {r : Except SessionError (Option Frame)} {last : List Event} {step : β → Frame → Step β α}
  {b : β} {o : Outcome σ α}

theorem Heard.attempted_eq_nil (h : Heard c s frames trace t) : attempted trace = [] := by
  refine List.map_eq_nil_iff.mpr (List.filterMap_eq_nil_iff.mpr fun e he => ?_)
  rcases h.incoming e he with ⟨wait, f, rfl⟩ | ⟨f, rfl⟩ <;> rfl

namespace Obstruction

theorem arrived_eq_nil (h : Obstruction c wait t r last u) : arrived c last = [] := by
  cases h with
  | full f foreign => simp [arrived, Event.arrivedOn, foreign]
  | alarm f m failure foreign =>
    have nothing : arrived c [.pulled c wait (.frame f)] = [] := by
      simp [arrived, Event.arrivedOn, foreign]
    rw [← List.singleton_append, arrived_append, nothing, arrived_settled, List.nil_append]
  | _ => rfl

theorem delivered_eq_nil (h : Obstruction c wait t r last u) : delivered c last = [] := by
  cases h with
  | alarm f m failure => simp [delivered_cons, Event.deliveredOn]
  | _ => rfl

theorem queue_eq_nil (h : Obstruction c wait t r last u) (empty : (t.queue c).toList = []) :
    (u.queue c).toList = [] := by
  cases h with
  | alarm => simp
  | _ => exact empty

theorem obstructs (h : Obstruction c wait t r last u) : ∃ x ∈ last, x.obstructs := by
  cases h with
  | alarm f m failure foreign control closing =>
    exact ⟨_, .head _, by simp [Event.obstructs, Event.close?, control, closing]⟩
  | full => exact ⟨_, .tail _ (.head _), rfl⟩
  | _ => exact ⟨_, .head _, rfl⟩

theorem attempted_eq (h : Obstruction c wait t r last u) :
    attempted last = (last.findSome? (·.close?)).toList.map (·.1.acknowledgement) := by
  cases h with
  | alarm f m failure foreign control closing =>
    have met : (Event.pulled c wait (.frame f)).close? = some (.connection, m) := by
      simp [Event.close?, control, closing]
    rw [← List.singleton_append, attempted_append, attempted_settled, List.findSome?_append]
    simp [met, attempted, sent, Event.sent?]
  | full f foreign nonzero => simp [attempted, sent, Event.sent?, Event.close?, foreign, nonzero]
  | _ => rfl

end Obstruction

/-- Nothing goes out while a channel is read, but the answer to a close that is met. -/
theorem Hearing.attempted_eq (h : Hearing c context step b s o) :
    attempted o.trace = (o.trace.findSome? (·.close?)).toList.map (·.1.acknowledgement) := by
  cases h with
  | done f a b' frames before t link heard takes harmless =>
    simp [heard.attempted_eq_nil, heard.met, takes.unmet, harmless, List.findSome?_append]
  | gaveUp f e b' frames before t link heard takes harmless =>
    simp [heard.attempted_eq_nil, heard.met, takes.unmet, harmless, List.findSome?_append]
  | closed f x m failure b' frames trace t link heard takes closing =>
    simp [attempted_append, heard.attempted_eq_nil, List.findSome?_append, heard.met, takes.unmet,
      closing]
  | obstructed r b' frames trace last t u link heard takes empty because =>
    simp [attempted_append, heard.attempted_eq_nil, List.findSome?_append, heard.met, takes.unmet,
      because.attempted_eq]

theorem Heard.undisturbed (h : Heard c s frames trace t)
    (harmless : ∀ f ∈ frames, f.closing? c = none) :
    ∀ x ∈ trace, x.close? = none ∧ x.obstructs = false := by
  intro x mem
  have unmet := h.close?_eq_none harmless x mem
  exact ⟨unmet, by simp [Event.obstructs, unmet, h.breaksOff_eq_false x mem]⟩

theorem Hearing.undisturbed (h : Hearing c context step b s o) {a : α} (got : o.result = .ok a) :
    ∀ x ∈ o.trace, x.close? = none ∧ x.obstructs = false := by
  cases h with
  | done f a b' frames before t link heard takes harmless =>
    exact heard.undisturbed (List.forall_mem_append.mpr ⟨takes.harmless, by simpa using harmless⟩)
  | _ => cases got

/-- Whoever gets nothing gave up himself over a frame, met a close, or had his waiting cut short. -/
theorem Hearing.because (h : Hearing c context step b s o) {e : SessionError}
    (failed : o.result = .error e) :
    (∃ x ∈ o.trace, x.close?.isSome ∨ x.obstructs) ∨
      ∃ frames f later b', stream c s o.trace = frames ++ f :: later ∧ Takes c step b frames b' ∧
        f.closing? c = none ∧ step b' f = .failed e := by
  cases h with
  | done => cases failed
  | gaveUp f e' b' frames before t link heard takes harmless took =>
    obtain rfl : e' = e := by simpa using failed
    exact .inr ⟨frames, f, (t.queue c).toList, b', by simp [heard.parts], takes, harmless, took⟩
  | closed f x m failure b' frames trace t link heard takes closing =>
    have met : trace.findSome? (·.close?) = some (x, m) := by
      simp [heard.met, List.findSome?_append, takes.unmet, closing]
    obtain ⟨e, mem, closes⟩ := List.exists_of_findSome?_eq_some met
    exact .inl ⟨e, List.mem_append_left _ mem, .inl (by simp [closes])⟩
  | obstructed r b' frames trace last t u link heard takes empty because =>
    obtain ⟨x, mem, obstructs⟩ := because.obstructs
    exact .inl ⟨x, List.mem_append_right _ mem, .inr obstructs⟩

end Effect

section Verdict

variable {step : Unit → Frame → Step Unit α} {b b' : Unit} {o : Outcome σ α}

/-- Whether a reader who carries nothing from frame to frame reads no further than this one. -/
def conclusive (c : ChannelId) (step : Unit → Frame → Step Unit α) (f : Frame) : Bool :=
  (f.closing? c).isSome || match step () f with
    | .more _ => false
    | .done _ | .failed _ => true

theorem conclusive_of_closing (closing : f.closing? c = some (x, m)) : conclusive c step f := by
  simp [conclusive, closing]

theorem conclusive_of_done {a : α} (took : step () f = .done a) : conclusive c step f := by
  simp [conclusive, took]

theorem conclusive_of_failed {e : SessionError} (took : step () f = .failed e) :
    conclusive c step f := by
  simp [conclusive, took]

theorem Takes.inconclusive (h : Takes c step b frames b') :
    ∀ f ∈ frames, conclusive c step f = false := by
  induction h with
  | nil => simp
  | cons f b b' b'' frames harmless more rest ih =>
    exact List.forall_mem_cons.mpr ⟨by simp [conclusive, harmless, more], ih⟩

theorem takes_of_inconclusive (undecided : ∀ f ∈ frames, conclusive c step f = false) :
    Takes c step () frames () := by
  induction frames with
  | nil => exact .nil ()
  | cons f frames ih =>
    obtain ⟨first, others⟩ := List.forall_mem_cons.mp undecided
    obtain ⟨harmless, undecided⟩ := Bool.or_eq_false_iff.mp first
    have harmless : f.closing? c = none := by simpa using harmless
    cases took : step () f with
    | more => exact .cons f () () () frames harmless took (ih others)
    | _ => simp [took] at undecided

theorem Heard.find?_concat (heard : Heard c s (frames ++ [f]) trace t)
    (takes : Takes c step b frames b') (last : conclusive c step f) :
    (stream c s trace).find? (conclusive c step) = some f := by
  have none_before : frames.find? (conclusive c step) = none :=
    List.find?_eq_none.mpr fun g hg => by simp [takes.inconclusive g hg]
  simp [heard.parts, List.find?_append, none_before, last]

theorem Heard.find?_all (heard : Heard c s frames trace t) (empty : (t.queue c).toList = [])
    (takes : Takes c step b frames b') :
    (stream c s trace).find? (conclusive c step) = none := by
  rw [heard.parts, empty, List.append_nil]
  exact List.find?_eq_none.mpr fun g hg => by simp [takes.inconclusive g hg]

theorem Heard.upTo_concat (heard : Heard c s (frames ++ [f]) trace t)
    (takes : Takes c step b frames b') (last : conclusive c step f) :
    let decided := (stream c s trace).findIdx (conclusive c step)
    delivered c trace = (stream c s trace).take (decided + 1) ∧
      (t.queue c).toList = (stream c s trace).drop (decided + 1) := by
  have undecided : frames.findIdx (conclusive c step) = frames.length :=
    List.findIdx_eq_length.mpr takes.inconclusive
  have decided : (frames ++ [f] ++ (t.queue c).toList).findIdx (conclusive c step) =
      frames.length := by
    simp [List.findIdx_append, undecided, List.findIdx_cons, last]
  rw [heard.parts, heard.handed, decided]
  exact ⟨(List.take_left' (by simp)).symm, (List.drop_left' (by simp)).symm⟩

theorem Heard.upTo_all (heard : Heard c s frames trace t) (empty : (t.queue c).toList = [])
    (takes : Takes c step b frames b') :
    let decided := (stream c s trace).findIdx (conclusive c step)
    delivered c trace = (stream c s trace).take (decided + 1) ∧
      (stream c s trace).drop (decided + 1) = [] := by
  have undecided : frames.findIdx (conclusive c step) = frames.length :=
    List.findIdx_eq_length.mpr takes.inconclusive
  rw [heard.parts, empty, List.append_nil, heard.handed, undecided]
  exact ⟨(List.take_of_length_le (by simp)).symm, List.drop_of_length_le (by simp)⟩

theorem Hearing.handed (h : Hearing c context step () s o) :
    let frames := stream c s o.trace
    let decided := frames.findIdx (conclusive c step)
    delivered c o.trace = frames.take (decided + 1) ∧
      (o.session.connection = .open → o.session.isOpen c →
        (o.session.queue c).toList = frames.drop (decided + 1)) := by
  cases h with
  | done f a b' frames before t link heard takes harmless took =>
    obtain ⟨handed, left⟩ := heard.upTo_concat takes (conclusive_of_done took)
    exact ⟨handed, fun _ _ => left⟩
  | gaveUp f e b' frames before t link heard takes harmless took =>
    obtain ⟨handed, left⟩ := heard.upTo_concat takes (conclusive_of_failed took)
    exact ⟨handed, fun _ _ => left⟩
  | closed f x m failure b' frames trace t link heard takes closing =>
    obtain ⟨handed, -⟩ := heard.upTo_concat takes (conclusive_of_closing closing)
    simp only [stream_append, delivered_append, arrived_settled, delivered_settled, List.append_nil]
    refine ⟨handed, fun usable opened => ?_⟩
    -- with the close the queue has gone
    rcases Frame.reach_of_closing? closing with rfl | ⟨rfl, -⟩
    · cases usable
    · simp [Scope.erase] at opened
  | obstructed r b' frames trace last t u link heard takes empty because =>
    obtain ⟨handed, nothing_left⟩ := heard.upTo_all empty takes
    simp only [stream_append, delivered_append, because.arrived_eq_nil, because.delivered_eq_nil,
      List.append_nil]
    exact ⟨handed, fun _ _ => (because.queue_eq_nil empty).trans nothing_left.symm⟩

theorem Hearing.ok_iff (h : Hearing c context step () s o) {a : α} : o.result = .ok a ↔
    ∃ f, (stream c s o.trace).find? (conclusive c step) = some f ∧ f.closing? c = none ∧
      step () f = .done a := by
  cases h with
  | done f a' b' frames before t link heard takes harmless took =>
    have found := heard.find?_concat takes (conclusive_of_done took)
    simp [found, harmless, took]
  | gaveUp f e b' frames before t link heard takes harmless took =>
    have found := heard.find?_concat takes (conclusive_of_failed took)
    simp [found, took]
  | closed f x m failure b' frames trace t link heard takes closing =>
    have found := heard.find?_concat takes (conclusive_of_closing closing)
    simp [stream_append, found, closing]
  | obstructed r b' frames trace last t u link heard takes empty because =>
    have none_found := heard.find?_all empty takes
    simp [stream_append, because.arrived_eq_nil, none_found]

theorem Hearing.error_of_failed (h : Hearing c context step () s o) {e : SessionError}
    (first : (stream c s o.trace).find? (conclusive c step) = some f)
    (harmless : f.closing? c = none) (took : step () f = .failed e) : o.result = .error e := by
  cases h with
  | done g a b' frames before t link heard takes harmless' took' =>
    obtain rfl := Option.some.inj
      ((heard.find?_concat takes (conclusive_of_done took')).symm.trans first)
    simp [took] at took'
  | gaveUp g e' b' frames before t link heard takes harmless' took' =>
    obtain rfl := Option.some.inj
      ((heard.find?_concat takes (conclusive_of_failed took')).symm.trans first)
    obtain rfl : e' = e := by simpa [took'] using took
    rfl
  | closed g x m failure b' frames trace t link heard takes closing =>
    have found := heard.find?_concat takes (conclusive_of_closing closing)
    simp only [stream_append, arrived_settled, List.append_nil, found] at first
    obtain rfl := Option.some.inj first
    simp [closing] at harmless
  | obstructed r b' frames trace last t u link heard takes empty because =>
    have none_found := heard.find?_all empty takes
    simp [stream_append, because.arrived_eq_nil, none_found] at first

end Verdict

section Digest

variable {step : β → Frame → Step β α} {b b' : β} {o : Outcome σ α}

/-- What a reader makes of the frames that are there for him, and what he leaves of them. Nothing,
if a close comes first or there are too few. -/
def digest (c : ChannelId) (step : β → Frame → Step β α) :
    β → List Frame → Option (Except SessionError α × List Frame)
  | _, [] => none
  | b, f :: rest =>
    if (f.closing? c).isSome then none
    else
      match step b f with
      | .more b' => digest c step b' rest
      | .done a => some (.ok a, rest)
      | .failed e => some (.error e, rest)

theorem Takes.digest_append (h : Takes c step b frames b') (more : List Frame) :
    digest c step b (frames ++ more) = digest c step b' more := by
  induction h with
  | nil => rfl
  | cons f b b' b'' frames harmless took rest ih => simp [digest, harmless, took, ih]

theorem Hearing.of_ok (h : Hearing c context step b s o) {a : α} (got : o.result = .ok a) :
    ∃ frames f b', Takes c step b frames b' ∧ step b' f = .done a ∧
      delivered c o.trace = frames ++ [f] ∧
      stream c s o.trace = delivered c o.trace ++ (o.session.queue c).toList := by
  cases h with
  | done f a' b' frames before t link heard takes harmless took =>
    obtain rfl : a' = a := by simpa using got
    exact ⟨frames, f, b', takes, took, heard.handed, by rw [heard.parts, heard.handed]⟩
  | _ => cases got

end Digest

end Session
end Multiplex
