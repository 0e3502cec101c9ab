import Multiplex.Proofs.Session.Move

/-! The books of a channel, kept from the history alone: its lifetimes one after another, and for
each what came in and what its readers were handed. -/

namespace Multiplex

/-- The events of one lifetime of a channel after another, those of the present one apart. -/
structure Lifetimes where
  ended : List (List Event)
  present : Option (List Event)

/-- What came in for a channel in one of its lifetimes. -/
structure Intake where
  kept : List Frame
  lost : List Frame
  handed : Nat

/-- The frame that an event hands to the reader of a channel. -/
def Event.deliveredOn (c : ChannelId) : Event → Option Frame
  | .delivered d f => if d = c then some f else none
  | .sent .. | .pulled .. | .refused _ | .reserved _ | .forgotten _ | .abandoned _ | .shut => none

/-- The frame of a channel that an event brings in, whoever reads. -/
def Event.arrivedOn (c : ChannelId) : Event → Option Frame
  | .pulled _ _ (.frame f) => if f.channel = c then some f else none
  | .pulled _ _ .nothing | .pulled _ _ (.failed _) => none
  | .sent .. | .delivered .. | .refused _ | .reserved _ | .forgotten _ | .abandoned _ | .shut =>
    none

def Event.refusedOn (c : ChannelId) : Event → Option Frame
  | .refused f => if f.channel = c then some f else none
  | .sent .. | .pulled .. | .delivered .. | .reserved _ | .forgotten _ | .abandoned _ | .shut =>
    none

section Lifetime

variable (c : ChannelId)

def Lifetimes.record (l : Lifetimes) (e : Event) : Lifetimes :=
  if e = .reserved c then ⟨l.ended ++ l.present.toList, some []⟩
  else if e.ends c then ⟨l.ended ++ l.present.toList, none⟩
  else ⟨l.ended, l.present.map (· ++ [e])⟩

def lifetimes (history : List Event) : Lifetimes := history.foldl (.record c) ⟨[], none⟩

def delivered (life : List Event) : List Frame := life.filterMap (·.deliveredOn c)

def arrived (life : List Event) : List Frame := life.filterMap (·.arrivedOn c)

def refused (life : List Event) : List Frame := life.filterMap (·.refusedOn c)

def Settings.full (settings : Settings) (parked : Nat) : Bool :=
  settings.maxBuffered.any (· ≤ parked)

def Intake.record (settings : Settings) (i : Intake) : Event → Intake
  | .pulled reader _ (.frame f) =>
    if f.channel ≠ c then i
    else if reader ≠ c ∧ settings.full (i.kept.length - i.handed) then
      { i with lost := i.lost ++ [f] }
    else { i with kept := i.kept ++ [f] }
  | .delivered d _ => if d = c then { i with handed := i.handed + 1 } else i
  | .pulled _ _ .nothing | .pulled _ _ (.failed _) => i
  | .sent .. | .refused _ | .reserved _ | .forgotten _ | .abandoned _ | .shut => i

def intake (settings : Settings) (life : List Event) : Intake :=
  life.foldl (.record c settings) ⟨[], [], 0⟩

end Lifetime

def Event.touches (c : ChannelId) : Event → Bool
  | .pulled _ _ (.frame f) | .refused f => f.channel = c
  | .delivered d _ => d = c
  | .pulled _ _ .nothing | .pulled _ _ (.failed _) => false
  | .sent .. | .reserved _ | .forgotten _ | .abandoned _ | .shut => false

section Ledger

variable {c : ChannelId} {settings : Settings} {history life events : List Event}

theorem lifetimes_append :
    lifetimes c (history ++ events) = events.foldl (.record c) (lifetimes c history) :=
  List.foldl_append

theorem foldl_record_of_unended {l : Lifetimes}
    (plain : ∀ e ∈ events, e ≠ .reserved c ∧ e.ends c = false) :
    events.foldl (.record c) l = ⟨l.ended, l.present.map (· ++ events)⟩ := by
  induction events generalizing l with
  | nil => simp
  | cons e events ih =>
    obtain ⟨unreserved, unended⟩ := plain e (.head _)
    rw [List.foldl_cons, ih fun d hd => plain d (.tail _ hd)]
    simp [Lifetimes.record, unreserved, unended, Function.comp_def]

/-- Once a lifetime has ended, nothing happens in one until the next reservation. -/
theorem foldl_record_of_ended {l : Lifetimes} (gone : l.present = none)
    (plain : ∀ e ∈ events, e ≠ .reserved c) : events.foldl (.record c) l = l := by
  induction events generalizing l with
  | nil => rfl
  | cons e events ih =>
    have same : l.record c e = l := by
      have unreserved := plain e (.head _)
      cases l
      cases ending : e.ends c <;> simp_all [Lifetimes.record]
    rw [List.foldl_cons, same, ih gone fun d hd => plain d (.tail _ hd)]

theorem handed_foldl_record {i : Intake} :
    (life.foldl (.record c settings) i).handed = i.handed + (delivered c life).length := by
  induction life generalizing i with
  | nil => rfl
  | cons e life ih =>
    rw [List.foldl_cons, ih]
    unfold Intake.record delivered
    grind [Event.deliveredOn]

theorem foldl_record_of_untouched {i : Intake} (away : ∀ e ∈ events, e.touches c = false) :
    events.foldl (.record c settings) i = i := by
  induction events with
  | nil => rfl
  | cons e events ih =>
    have same : i.record c settings e = i := by
      have := away e (.head _)
      fun_cases Intake.record c settings i e <;> simp_all [Event.touches]
    rw [List.foldl_cons, same, ih fun d hd => away d (.tail _ hd)]

@[simp] theorem delivered_nil : delivered c [] = [] := rfl

@[simp] theorem refused_nil : refused c [] = [] := rfl

theorem delivered_cons {e : Event} :
    delivered c (e :: life) = (e.deliveredOn c).toList ++ delivered c life := by
  cases h : e.deliveredOn c <;> simp [delivered, h]

theorem refused_cons {e : Event} :
    refused c (e :: life) = (e.refusedOn c).toList ++ refused c life := by
  cases h : e.refusedOn c <;> simp [refused, h]

theorem delivered_append : delivered c (life ++ events) = delivered c life ++ delivered c events :=
  List.filterMap_append

theorem refused_append : refused c (life ++ events) = refused c life ++ refused c events :=
  List.filterMap_append

theorem arrived_append : arrived c (life ++ events) = arrived c life ++ arrived c events :=
  List.filterMap_append

theorem intake_append : intake c settings (life ++ events) =
    events.foldl (.record c settings) (intake c settings life) :=
  List.foldl_append

theorem handed_intake : (intake c settings life).handed = (delivered c life).length := by
  rw [intake, handed_foldl_record, Nat.zero_add]

end Ledger

theorem Session.queueFull_eq (s : Session) (frames : Queue Frame) :
    s.queueFull frames = s.settings.full frames.toList.length := by
  unfold queueFull Settings.full
  cases s.settings.maxBuffered <;> simp

/-- The books of a lifetime are right, so many frames being parked. -/
structure Balanced (c : ChannelId) (settings : Settings) (life : List Event)
    (parked : List Frame) : Prop where
  kept : delivered c life ++ parked = (intake c settings life).kept
  lost : refused c life = (intake c settings life).lost

namespace Balanced

variable {c reader : ChannelId} {settings : Settings} {life events : List Event}
  {parked : List Frame} {wait : Timeout} {f : Frame}

theorem nil : Balanced c settings [] [] := ⟨rfl, rfl⟩

theorem waiting (h : Balanced c settings life parked) :
    (intake c settings life).kept.length - (intake c settings life).handed = parked.length := by
  rw [← h.kept, handed_intake, List.length_append]
  omega

theorem untouched (h : Balanced c settings life parked)
    (away : ∀ e ∈ events, e.touches c = false) :
    Balanced c settings (life ++ events) parked := by
  have nothing_delivered : delivered c events = [] := by
    refine List.filterMap_eq_nil_iff.mpr fun e he => ?_
    have := away e he
    cases e <;> simp_all [Event.touches, Event.deliveredOn]
  have nothing_refused : refused c events = [] := by
    refine List.filterMap_eq_nil_iff.mpr fun e he => ?_
    have := away e he
    cases e <;> simp_all [Event.touches, Event.refusedOn]
  have nothing_in : events.foldl (.record c settings) (intake c settings life) =
      intake c settings life := foldl_record_of_untouched away
  constructor
  · simpa [delivered_append, nothing_delivered, intake_append, nothing_in] using h.kept
  · simpa [refused_append, nothing_refused, intake_append, nothing_in] using h.lost

theorem hand (h : Balanced c settings life []) (own : f.channel = c) :
    Balanced c settings (life ++ [.pulled c wait (.frame f), .delivered c f]) [] := by
  have kept := h.kept
  rw [List.append_nil] at kept
  constructor
  · simp [delivered_append, delivered_cons, Event.deliveredOn, intake_append, Intake.record, own,
      kept]
  · simp [refused_append, refused_cons, Event.refusedOn, intake_append, Intake.record, own, h.lost]

theorem park (h : Balanced c settings life parked) (own : f.channel = c)
    (room : settings.full parked.length = false) :
    Balanced c settings (life ++ [.pulled reader wait (.frame f)]) (parked ++ [f]) := by
  have taken : intake c settings (life ++ [.pulled reader wait (.frame f)]) =
      { intake c settings life with kept := (intake c settings life).kept ++ [f] } := by
    simp [intake_append, Intake.record, own, h.waiting, room]
  constructor <;> rw [taken]
  · simp [delivered_append, delivered_cons, Event.deliveredOn, ← h.kept]
  · simpa [refused_append, refused_cons, Event.refusedOn] using h.lost

theorem refuse (h : Balanced c settings life parked) (own : f.channel = c) (foreign : reader ≠ c)
    (full : settings.full parked.length) :
    Balanced c settings (life ++ [.pulled reader wait (.frame f), .refused f]) parked := by
  have taken : intake c settings (life ++ [.pulled reader wait (.frame f), .refused f]) =
      { intake c settings life with lost := (intake c settings life).lost ++ [f] } := by
    simp [intake_append, Intake.record, own, foreign, h.waiting, full]
  constructor <;> rw [taken]
  · simpa [delivered_append, delivered_cons, Event.deliveredOn] using h.kept
  · simp [refused_append, refused_cons, Event.refusedOn, own, h.lost]

theorem unpark (h : Balanced c settings life (f :: parked)) :
    Balanced c settings (life ++ [.delivered c f]) parked := by
  constructor
  · simp [delivered_append, delivered_cons, Event.deliveredOn, intake_append, Intake.record,
      ← h.kept]
  · simp [refused_append, refused_cons, Event.refusedOn, intake_append, Intake.record, h.lost]

end Balanced

end Multiplex
