import Multiplex.Link.Loopback
import Multiplex.Proofs.Session.Books
import Multiplex.Proofs.Session.Course

/-! Every frame finds its reader. While a channel is open, what its readers are handed, followed by
what is parked for it, is what came in for it, in that order; only what finds its queue full while
another channel is read is lost. -/

namespace Multiplex

namespace Session

/-- The books of a channel are right: of each lifetime that has ended, and of the present one, if
the channel is open, with what is parked now. -/
structure Tally (c : ChannelId) (history : List Event) (s : Session) : Prop where
  isOpen : s.isOpen c = (lifetimes c history).present.isSome
  present : ∀ life ∈ (lifetimes c history).present,
    Balanced c s.settings life (s.queue c).toList
  ended : ∀ life ∈ (lifetimes c history).ended, ∃ parked, Balanced c s.settings life parked

namespace Tally

variable {c d : ChannelId} {history events : List Event} {s t : Session}

theorem start (settings : Settings) (nonzero : c ≠ .connection) : Tally c [] (.start settings) where
  isOpen := by simpa [lifetimes] using nonzero
  present := by simp [lifetimes]
  ended := by simp [lifetimes]

theorem goesOn (h : Tally c history s) (settings : t.settings = s.settings)
    (isOpen : t.isOpen c = s.isOpen c)
    (plain : ∀ e ∈ events, e ≠ .reserved c ∧ e.ends c = false)
    (balanced : ∀ life, s.isOpen c → Balanced c s.settings life (s.queue c).toList →
      Balanced c s.settings (life ++ events) (t.queue c).toList) :
    Tally c (history ++ events) t := by
  have lives : lifetimes c (history ++ events) = ⟨(lifetimes c history).ended,
      (lifetimes c history).present.map (· ++ events)⟩ := by
    rw [lifetimes_append, foldl_record_of_unended plain]
  constructor <;> rw [lives]
  · simp [isOpen, h.isOpen]
  · intro life hlife
    obtain ⟨life, present, rfl⟩ := Option.map_eq_some_iff.mp hlife
    rw [settings]
    exact balanced life (by rw [h.isOpen, present]; rfl) (h.present life present)
  · rw [settings]
    exact h.ended

theorem same (h : Tally c history s) (settings : t.settings = s.settings)
    (queues : t.queues = s.queues) : Tally c history t := by
  have queue : t.queue c = s.queue c := by rw [queue, queue, queues]
  have goes_on : Tally c (history ++ []) t :=
    h.goesOn settings (by rw [Session.isOpen, Session.isOpen, queues]) (by simp)
      fun life _ balanced => by simpa [queue] using balanced
  simpa using goes_on

theorem stops {e : Event} (h : Tally c history s) (settings : t.settings = s.settings)
    (gone : t.isOpen c = false) (ends : e.ends c) (plain : ∀ e ∈ events, e ≠ .reserved c) :
    Tally c (history ++ e :: events) t := by
  have unreserved : e ≠ .reserved c := by
    rintro rfl
    simp [Event.ends] at ends
  have lives : lifetimes c (history ++ e :: events) =
      ⟨(lifetimes c history).ended ++ (lifetimes c history).present.toList, none⟩ := by
    rw [lifetimes_append, List.foldl_cons, Lifetimes.record, if_neg unreserved, if_pos ends,
      foldl_record_of_ended rfl plain]
  constructor <;> rw [lives]
  · simpa using gone
  · simp
  · intro life hlife
    rw [settings]
    rcases List.mem_append.mp hlife with ended | present
    · exact h.ended life ended
    · exact ⟨_, h.present life (by simpa using present)⟩

theorem hold (h : Tally c history s) (free : s.isOpen d = false) :
    Tally c (history ++ [.reserved d]) (s.hold d) := by
  by_cases same : d = c
  · subst same
    have gone : (lifetimes d history).present = none := by
      simpa [free] using h.isOpen
    have lives : lifetimes d (history ++ [.reserved d]) =
        ⟨(lifetimes d history).ended, some []⟩ := by
      simp [lifetimes_append, Lifetimes.record, gone]
    constructor <;> rw [lives]
    · simp
    · rintro _ ⟨⟩
      simpa using Balanced.nil
    · exact h.ended
  · refine h.goesOn rfl (by simp [same]) (by simp [same, Event.ends]) fun life _ balanced => ?_
    have untouched : Balanced c s.settings (life ++ [.reserved d]) (s.queue c).toList :=
      balanced.untouched (by simp [Event.touches])
    simpa [same] using untouched

variable {k : Task} {past trace : List Event} {max : ChannelId} {op : Operation}

theorem elsewhere (h : Tally c history s) (settings : t.settings = s.settings)
    (isOpen : t.isOpen c = s.isOpen c) (queue : t.queue c = s.queue c)
    (plain : ∀ e ∈ events, e ≠ .reserved c ∧ e.ends c = false ∧ e.touches c = false) :
    Tally c (history ++ events) t := by
  refine h.goesOn settings isOpen (fun e he => ⟨(plain e he).1, (plain e he).2.1⟩)
    fun life _ balanced => ?_
  rw [queue]
  exact balanced.untouched fun e he => (plain e he).2.2

theorem move (h : Tally c history s) (nonzero : c ≠ .connection)
    (move : Move k past s events t) : Tally c (history ++ events) t := by
  have settings := move.settings
  cases move with
  | ask => exact h.elsewhere rfl rfl rfl (by simp [Event.ends, Event.touches])
  | idle wait answer empty =>
    refine h.elsewhere rfl rfl rfl ?_
    cases answer with
    | frame f => exact absurd rfl (empty f)
    | _ => simp [Event.ends, Event.touches]
  | hand wait f own opened empty =>
    by_cases here : k.channel = c
    · subst here
      refine h.goesOn rfl rfl (by simp [Event.ends]) fun life _ balanced => ?_
      rw [empty] at balanced ⊢
      exact balanced.hand own
    · exact h.elsewhere rfl rfl rfl (by simp [Event.ends, Event.touches, own, here])
  | park wait f t foreign routed =>
    by_cases here : f.channel = c
    · subst here
      rcases route_eq_on routed with ⟨rfl, nobody⟩ | ⟨-, opened, room, rfl⟩
      · have closed := nobody.resolve_left nonzero
        refine h.goesOn rfl rfl (by simp [Event.ends]) fun life opened _ => ?_
        simp [closed] at opened
      · refine h.goesOn rfl (by simp [opened]) (by simp [Event.ends]) fun life _ balanced => ?_
        rw [queueFull_eq] at room
        simpa using balanced.park rfl room
    · exact h.elsewhere settings (isOpen_of_route routed c) (queue_of_route routed here)
        (by simp [Event.ends, Event.touches, here])
  | refuse wait f foreign routed =>
    by_cases here : f.channel = c
    · subst here
      obtain ⟨-, -, full⟩ := route_eq_full routed
      rw [queueFull_eq] at full
      exact h.goesOn rfl rfl (by simp [Event.ends]) fun life _ balanced =>
        balanced.refuse rfl (Ne.symm foreign) full
    · exact h.elsewhere rfl rfl rfl (by simp [Event.ends, Event.touches, here])
  | alarm wait f m foreign routed =>
    have connection : f.channel ≠ c := by
      rw [(route_eq_close routed).1]
      exact Ne.symm nonzero
    exact h.elsewhere rfl rfl rfl (by simp [Event.ends, Event.touches, connection])
  | unpark f rest opened queued =>
    by_cases here : k.channel = c
    · subst here
      refine h.goesOn rfl (isOpen_setQueue_of_isOpen opened _ _) (by simp [Event.ends])
        fun life _ balanced => ?_
      rw [queued] at balanced
      simpa using balanced.unpark
    · exact h.elsewhere rfl (isOpen_setQueue_of_isOpen opened _ _) (by simp [here])
        (by simp [Event.ends, Event.touches, here])
  | acknowledge | conclude | abandon =>
    by_cases here : k.channel = c
    · subst here
      exact h.stops rfl (by simp) (by simp [Event.ends]) (by simp)
    · exact h.elsewhere rfl (by simp [here]) (by simp [here])
        (by simp [Event.ends, Event.touches, here])
  | shut | surrender => exact h.stops rfl (by simpa using nonzero) rfl (by simp)

theorem moves (h : Tally c history s) (nonzero : c ≠ .connection)
    (moves : Moves k past s trace t) : Tally c (history ++ trace) t :=
  moves.keeps (P := fun trace t => Tally c (history ++ trace) t) (by simpa using h)
    fun held step => by simpa using held.move nonzero step

theorem course {σ : Type} {o : Outcome σ Reply} (h : Tally c history s)
    (nonzero : c ≠ .connection) (unbounded : max ≠ 0) (course : Course max s op o) :
    Tally c (history ++ o.trace) o.session := by
  cases course with
  | refused | found | registered | unregistered | released | reused =>
    rw [List.append_nil]
    exact h.same rfl rfl
  | reserved d o usable idle free work ready =>
    have held := h.hold (reservable_eq_some unbounded free).2.1
    simpa using held.moves nonzero work.moves
  | worked op k o task work => exact h.moves nonzero work.moves
  | closed o usable work shut =>
    have closing : Tally c history { s with connection := .closingLocal } := h.same rfl rfl
    exact closing.moves nonzero work

end Tally

/-- Nothing of a channel is thrown off, and nobody is told that its queue is full. -/
structure Quiet (c : ChannelId) {σ α : Type} (o : Outcome σ α) : Prop where
  kept : refused c o.trace = []
  untold : o.result ≠ .error (.bufferFull c)

section Quiet

open Multiplex.Action

variable {σ α β : Type} {c reader : ChannelId} {s : Session} {link : σ} {m : Method}
  {context : String}

theorem Quiet.after {o : Outcome σ α} {events : List Event} (h : Quiet c o)
    (plain : refused c events = []) : Quiet c (o.after events) where
  kept := by simp [refused_append, plain, h.kept]
  untold := h.untold

theorem Quiet.bind {x : Action σ α} {next : α → Action σ β} (first : Quiet c (x.run s link))
    (second : ∀ a s link, Quiet c ((next a).run s link)) : Quiet c ((x >>= next).run s link) := by
  cases h : (x.run s link).result with
  | error e =>
    rw [run_bind_of_error h]
    exact ⟨first.kept, by simpa [h] using first.untold⟩
  | ok a =>
    rw [run_bind_of_ok h]
    exact (second a _ _).after first.kept

theorem quiet_ofExcept {r : Except SessionError α} (h : r ≠ .error (.bufferFull c)) :
    Quiet c ((ofExcept r : Action σ α).run s link) := ⟨rfl, h⟩

/-- A reader throws off a frame of a channel just when he is told that its queue is full. -/
def Told (c : ChannelId) {σ α : Type} (o : Outcome σ α) : Prop :=
  refused c o.trace ≠ [] ↔ o.result = .error (.bufferFull c)

theorem Quiet.told {o : Outcome σ α} (h : Quiet c o) : Told c o := by
  simp [Told, h.kept, h.untold]

theorem Told.after {o : Outcome σ α} {events : List Event} (h : Told c o)
    (plain : refused c events = []) : Told c (o.after events) := by
  simpa [Told, refused_append, plain] using h

variable [Link σ]

theorem quiet_send : Quiet c ((send reader m context).run s link) := by
  rcases run_send reader m context s link with ⟨link', h⟩ | ⟨e, link', h⟩ <;> rw [h] <;>
    exact ⟨rfl, by simp⟩

theorem quiet_finishChannel : Quiet c ((finishChannel reader).run s link) := by
  unfold finishChannel
  rw [run_session_bind]
  split
  · exact quiet_ofExcept (by simp)
  · split
    · rw [run_change_bind]
      exact quiet_send.after rfl
    · exact quiet_ofExcept (by simp)

theorem quiet_closedChannel :
    Quiet c ((closedChannel reader m context : Action σ α).run s link) := by
  refine quiet_finishChannel.bind fun _ _ _ => ?_
  cases CloseReason.decode m.args <;> exact quiet_ofExcept (by simp)

theorem quiet_closedConnection :
    Quiet c ((closedConnection m context : Action σ α).run s link) := by
  rw [run_closedConnection]
  refine Quiet.after (quiet_send.bind fun _ _ _ => ?_) rfl
  cases CloseReason.decode m.args <;> exact quiet_ofExcept (by simp)

theorem quiet_deliver {f : Frame} : Quiet c ((deliver reader f).run s link) := by
  have checked {s : Session} {link : σ} :
      Quiet c ((checkFrame reader f "next_frame").run s link) := by
    unfold checkFrame
    split
    · split
      · exact quiet_closedChannel
      · split
        · exact quiet_closedConnection
        · exact quiet_ofExcept (by simp)
    · exact quiet_ofExcept (by simp)
  unfold deliver
  rw [run_record_bind]
  exact (checked.bind fun _ _ _ => quiet_ofExcept (by simp)).after rfl

theorem told_pullFor {wait : Timeout} : Told c (pullFor reader wait s link) := by
  induction s, link using pullFor_induction (σ := σ) reader wait with
  | failed s link e link' pulled ran =>
    rw [ran]
    exact Quiet.told ⟨rfl, by simp⟩
  | nothing s link link' pulled ran =>
    rw [ran]
    exact Quiet.told ⟨rfl, by simp⟩
  | own s link f link' pulled own ran =>
    rw [ran]
    exact quiet_deliver.told.after rfl
  | closes s link f link' m pulled foreign routed ran =>
    rw [ran]
    exact quiet_closedConnection.told.after rfl
  | full s link f link' pulled foreign routed ran =>
    by_cases here : f.channel = c <;>
      simp [ran, Told, refused_cons, Event.refusedOn, here]
  | late s link f link' t pulled foreign routed expired ran =>
    rw [ran]
    exact Quiet.told ⟨rfl, by simp⟩
  | passed s link f link' t pulled foreign routed patient ran ih =>
    rw [ran]
    exact ih.after rfl

theorem told_nextFrame {wait : Timeout} : Told c ((nextFrame reader wait).run s link) := by
  refine nextFrame_cases (fun _ => ?_) (fun f rest _ _ => ?_) fun _ _ => ?_
  · exact Quiet.told ⟨rfl, by simp⟩
  · exact quiet_deliver.told
  · exact told_pullFor

end Quiet

end Session

namespace Run

variable {σ : Type} [Link σ]

theorem tally_performAll (settings : Settings) (calls : List (Operation × σ)) {c : ChannelId}
    (nonzero : c ≠ .connection) :
    Session.Tally c ((start settings).performAll calls).history
      ((start settings).performAll calls).session := by
  have initial : Session.Tally c (start settings).history (start settings).session :=
    .start settings nonzero
  refine performAll_induction (P := fun r => Session.Tally c r.history r.session) initial
    fun r op link _ tally => ?_
  rw [history_perform]
  have course := Session.course_perform op r.session link
  exact tally.course nonzero (ChannelId.bound_ne_zero _) course

/-- A channel is open from its reservation on until something ends it. What its readers were
handed in one such lifetime is, in order, what was pulled for it in that time, up to what is
parked still, and except for just the frames that met a full queue. -/
theorem demultiplexes (settings : Settings) (calls : List (Operation × σ)) {c : ChannelId}
    (nonzero : c ≠ .connection) :
    let r := (start settings).performAll calls
    let lives := lifetimes c r.history
    r.session.isOpen c = lives.present.isSome ∧
    (∀ life ∈ lives.present,
      delivered c life ++ (r.session.queue c).toList = (intake c settings life).kept ∧
      refused c life = (intake c settings life).lost) ∧
    (∀ life ∈ lives.ended,
      delivered c life <+: (intake c settings life).kept ∧
      refused c life = (intake c settings life).lost) ∧
    ∀ reader wait s (link : σ), Session.Told c ((Session.nextFrame reader wait).run s link) := by
  intro r lives
  have tally : Session.Tally c r.history r.session := tally_performAll settings calls nonzero
  have same : r.session.settings = settings := settings_performAll (start settings) calls
  rw [← same]
  refine ⟨tally.isOpen, fun life present => ?_, fun life ended => ?_,
    fun reader wait s link => Session.told_nextFrame⟩
  · exact ⟨(tally.present life present).kept, (tally.present life present).lost⟩
  · obtain ⟨parked, balanced⟩ := tally.ended life ended
    exact ⟨⟨parked, balanced.kept⟩, balanced.lost⟩

/-- Two channels with room for one frame each, of which the first is read now and then. -/
def crowded : List (Operation × Loopback) :=
  let broker incoming := { Loopback.start 2 with replies := Loopback.agreeable, incoming }
  [(.acquire, broker []), (.acquire, broker []),
   (.next 2 (some 0), broker [.frame ⟨1, .body [1]⟩]),
   (.next 2 none, broker [.frame ⟨1, .body [2]⟩]),
   (.next 1 none, broker []),
   (.next 1 none, broker [.frame ⟨1, .body [3]⟩]),
   (.next 2 (some 0), broker [.frame ⟨1, .body [4]⟩])]

theorem demultiplexes_crowded :
    (1 : ChannelId) ≠ .connection ∧
    let settings : Settings := ⟨false, .ignore, some 1⟩
    let r := (start settings).performAll crowded
    ∃ life, (lifetimes 1 r.history).present = some life ∧
      delivered 1 life = [⟨1, .method (.bare .channelOpenOk)⟩, ⟨1, .body [1]⟩, ⟨1, .body [3]⟩] ∧
      (intake 1 settings life).kept = [⟨1, .method (.bare .channelOpenOk)⟩, ⟨1, .body [1]⟩,
        ⟨1, .body [3]⟩, ⟨1, .body [4]⟩] ∧
      (intake 1 settings life).lost = [⟨1, .body [2]⟩] := by
  refine ⟨by decide, ?_⟩
  intro settings r
  have present : (lifetimes 1 r.history).present =
      some ((lifetimes 1 r.history).present.getD []) := by decide +kernel
  have nonzero : (1 : ChannelId) ≠ .connection := by decide
  obtain ⟨-, books, -, -⟩ := demultiplexes settings crowded nonzero
  obtain ⟨kept, lost⟩ := books _ present
  refine ⟨_, present, by decide +kernel, ?_, ?_⟩
  · rw [← kept]
    decide +kernel
  · rw [← lost]
    decide +kernel

end Run
end Multiplex
