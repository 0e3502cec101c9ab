import Multiplex.Queue
import Multiplex.Session.Consumers

/-! The bookkeeping of a session: which channels are open, the frames parked for each, the idle
channels in order of release, and how far the connection has been closed. A channel is open
exactly when it has a queue. -/

namespace Multiplex

inductive ConnectionState
  | open | closingLocal | closingRemote | closed
  deriving DecidableEq

/-- What a request does about frames that are not its reply. -/
inductive UnexpectedReply
  | ignore | fail
  deriving DecidableEq

structure Settings where
  confirmSelect : Bool
  unexpectedReply : UnexpectedReply
  /-- How many frames may be parked for one channel; `none` is no bound. -/
  maxBuffered : Option Nat
  deriving DecidableEq

def Settings.standard : Settings := ⟨true, .ignore, none⟩

abbrev Queues := Std.ExtTreeMap ChannelId (Queue Frame)

structure Session where
  settings : Settings
  queues : Queues
  /-- Idle channels, first released first. -/
  pool : List ChannelId
  consumers : Consumers
  /-- The number handed out last; the search for the next one starts behind it. -/
  lastId : ChannelId
  connection : ConnectionState

namespace Session

def start (settings : Settings) : Session where
  settings := settings
  queues := (∅ : Queues).insert .connection .empty
  pool := []
  consumers := ∅
  lastId := 0
  connection := .open

def isOpen (s : Session) (channel : ChannelId) : Bool := s.queues.contains channel

/-- The open channels, the connection's own left out. -/
def openCount (s : Session) : Nat := s.queues.size - 1

def queue (s : Session) (channel : ChannelId) : Queue Frame := s.queues[channel]?.getD .empty

theorem isOpen_eq_isSome (s : Session) (c : ChannelId) : s.isOpen c = s.queues[c]?.isSome :=
  Std.ExtTreeMap.contains_eq_isSome_getElem?

theorem isOpen_of_getElem?_queues {s : Session} {c : ChannelId} {frames : Queue Frame}
    (h : s.queues[c]? = some frames) : s.isOpen c ∧ s.queue c = frames := by
  simp [isOpen_eq_isSome, queue, h]

theorem getElem?_queues_of_isOpen {s : Session} {c : ChannelId} (h : s.isOpen c) :
    s.queues[c]? = some (s.queue c) := by
  obtain ⟨frames, there⟩ := Option.isSome_iff_exists.mp (s.isOpen_eq_isSome c ▸ h)
  rw [there, (isOpen_of_getElem?_queues there).2]

theorem getElem?_queues_of_closed {s : Session} {c : ChannelId} (h : s.isOpen c = false) :
    s.queues[c]? = none := by
  rw [isOpen_eq_isSome, Option.isSome_eq_false_iff] at h
  exact Option.isNone_iff_eq_none.mp h

def buffered (s : Session) (channel : ChannelId) : Except SessionError Nat :=
  match s.queues[channel]? with
  | some frames => .ok frames.length
  | none => .error (.channelNotFound channel)

def setQueue (s : Session) (channel : ChannelId) (frames : Queue Frame) : Session :=
  { s with queues := s.queues.insert channel frames }

@[simp] theorem queue_setQueue (s : Session) (a b : ChannelId) (frames : Queue Frame) :
    (s.setQueue a frames).queue b = if a = b then frames else s.queue b := by
  simp only [queue, setQueue, Std.ExtTreeMap.getElem?_insert,
    Std.LawfulEqCmp.compare_eq_iff_eq]
  split <;> rfl

@[simp] theorem isOpen_setQueue (s : Session) (a b : ChannelId) (frames : Queue Frame) :
    (s.setQueue a frames).isOpen b = (decide (a = b) || s.isOpen b) := by
  simp only [isOpen, setQueue, Std.ExtTreeMap.contains_insert]
  by_cases h : a = b <;> simp [h]

theorem isOpen_setQueue_of_isOpen {s : Session} {a : ChannelId} (h : s.isOpen a) (b : ChannelId)
    (frames : Queue Frame) : (s.setQueue a frames).isOpen b = s.isOpen b := by
  rw [isOpen_setQueue]
  by_cases hab : a = b
  · subst hab
    simp [h]
  · simp [hab]

theorem eq_of_queues {s t : Session} (rest : t = { s with queues := t.queues })
    (queues : ∀ k : ChannelId, t.queues[k]? = s.queues[k]?) : t = s := by
  rw [rest, Std.ExtTreeMap.ext_getElem? fun {k} => queues k]

theorem setQueue_setQueue (s : Session) (a : ChannelId) (first second : Queue Frame) :
    (s.setQueue a first).setQueue a second = s.setQueue a second := by
  refine eq_of_queues rfl fun k => ?_
  simp only [setQueue, Std.ExtTreeMap.getElem?_insert]
  split <;> rfl

theorem setQueue_comm {a b : ChannelId} (h : a ≠ b) (s : Session) (first second : Queue Frame) :
    (s.setQueue a first).setQueue b second = (s.setQueue b second).setQueue a first := by
  refine eq_of_queues rfl fun k => ?_
  simp only [setQueue, Std.ExtTreeMap.getElem?_insert, Std.LawfulEqCmp.compare_eq_iff_eq]
  grind

theorem setQueue_self {s : Session} {a : ChannelId} (h : s.isOpen a) :
    s.setQueue a (s.queue a) = s := by
  refine eq_of_queues rfl fun k => ?_
  simp only [setQueue, Std.ExtTreeMap.getElem?_insert, Std.LawfulEqCmp.compare_eq_iff_eq]
  split
  · rename_i here
    rw [← here, getElem?_queues_of_isOpen h]
  · rfl

theorem openCount_setQueue_of_isOpen {s : Session} {c : ChannelId} (h : s.isOpen c)
    (frames : Queue Frame) : (s.setQueue c frames).openCount = s.openCount := by
  have held : c ∈ s.queues := h
  simp [openCount, setQueue, Std.ExtTreeMap.size_insert, held]

def queueFull (s : Session) (frames : Queue Frame) : Bool :=
  match s.settings.maxBuffered with
  | some bound => bound ≤ frames.length
  | none => false

theorem queueFull_of_unbounded {s : Session} (h : s.settings.maxBuffered = none)
    (frames : Queue Frame) : s.queueFull frames = false := by
  simp [queueFull, h]

/-- Where a frame goes that another channel's reader pulled. -/
inductive Routing
  | close (m : Method)
  /-- The queue it belongs to is full. -/
  | full
  /-- It is parked, or of no interest to anyone. -/
  | on (s : Session)

/-- Frames of the connection itself matter only if they close it; frames of a channel that is not
open matter to nobody. -/
def route (s : Session) (f : Frame) : Routing :=
  if f.channel = .connection then
    match f.method? with
    | some m => if m.id = .connectionClose then .close m else .on s
    | none => .on s
  else
    match s.queues[f.channel]? with
    | none => .on s
    | some frames =>
      if s.queueFull frames then .full else .on (s.setQueue f.channel (frames.push f))

theorem route_eq_close {s : Session} {f : Frame} {m : Method} (h : s.route f = .close m) :
    f.channel = .connection ∧ f.method? = some m ∧ m.id = .connectionClose := by
  unfold route at h
  grind

theorem route_eq_full {s : Session} {f : Frame} (h : s.route f = .full) :
    f.channel ≠ .connection ∧ s.isOpen f.channel ∧ s.queueFull (s.queue f.channel) := by
  unfold route at h
  grind [isOpen_of_getElem?_queues]

theorem route_ne_full_of_unbounded {s : Session} (h : s.settings.maxBuffered = none) (f : Frame) :
    s.route f ≠ .full := by
  intro full
  simpa [queueFull_of_unbounded h] using (route_eq_full full).2.2

theorem route_eq_on {s t : Session} {f : Frame} (h : s.route f = .on t) :
    t = s ∧ (f.channel = .connection ∨ s.isOpen f.channel = false) ∨
      f.channel ≠ .connection ∧ s.isOpen f.channel ∧ s.queueFull (s.queue f.channel) = false ∧
        t = s.setQueue f.channel ((s.queue f.channel).push f) := by
  unfold route at h
  grind [isOpen_of_getElem?_queues, isOpen_eq_isSome]

theorem route_eq_close_of_close {s : Session} {f : Frame} {m : Method} (h : s.route f = .close m)
    (t : Session) : t.route f = .close m := by
  obtain ⟨control, method, id⟩ := route_eq_close h
  simp [route, control, method, id]

theorem route_of_connection {s u : Session} {f : Frame} (control : f.channel = .connection)
    (h : s.route f = .on u) : u = s ∧ ∀ t : Session, t.route f = .on t := by
  unfold route at h ⊢
  grind

theorem route_of_closed {s : Session} {f : Frame} (nonzero : f.channel ≠ .connection)
    (closed : s.isOpen f.channel = false) : s.route f = .on s := by
  simp [route, nonzero, getElem?_queues_of_closed closed]

theorem route_of_isOpen {s : Session} {f : Frame} (nonzero : f.channel ≠ .connection)
    (opened : s.isOpen f.channel) (room : s.queueFull (s.queue f.channel) = false) :
    s.route f = .on (s.setQueue f.channel ((s.queue f.channel).push f)) := by
  simp [route, nonzero, getElem?_queues_of_isOpen opened, room]

theorem eq_of_route {s t : Session} {f : Frame} (h : s.route f = .on t) :
    t = { s with queues := t.queues } := by
  rcases route_eq_on h with ⟨rfl, -⟩ | ⟨-, -, -, rfl⟩ <;> rfl

theorem queue_of_route {s t : Session} {f : Frame} {channel : ChannelId} (h : s.route f = .on t)
    (hc : f.channel ≠ channel) : t.queue channel = s.queue channel := by
  rcases route_eq_on h with ⟨rfl, -⟩ | ⟨-, -, -, rfl⟩
  · rfl
  · rw [queue_setQueue, if_neg hc]

theorem isOpen_of_route {s t : Session} {f : Frame} (h : s.route f = .on t) (c : ChannelId) :
    t.isOpen c = s.isOpen c := by
  rcases route_eq_on h with ⟨rfl, -⟩ | ⟨-, opened, -, rfl⟩
  · rfl
  · exact isOpen_setQueue_of_isOpen opened c _

theorem openCount_of_route {s t : Session} {f : Frame} (h : s.route f = .on t) :
    t.openCount = s.openCount := by
  rcases route_eq_on h with ⟨rfl, -⟩ | ⟨-, opened, -, rfl⟩
  · rfl
  · exact openCount_setQueue_of_isOpen opened _

def dropQueue (s : Session) (channel : ChannelId) : Session :=
  { s with queues := s.queues.erase channel }

@[simp] theorem queue_dropQueue (s : Session) (a b : ChannelId) :
    (s.dropQueue a).queue b = if a = b then .empty else s.queue b := by
  simp only [queue, dropQueue, Std.ExtTreeMap.getElem?_erase, Std.LawfulEqCmp.compare_eq_iff_eq]
  split <;> rfl

@[simp] theorem isOpen_dropQueue (s : Session) (a b : ChannelId) :
    (s.dropQueue a).isOpen b = (decide (a ≠ b) && s.isOpen b) := by
  simp only [isOpen, dropQueue, Std.ExtTreeMap.contains_erase]
  by_cases h : a = b <;> simp [h]

theorem openCount_dropQueue_le (s : Session) (c : ChannelId) :
    (s.dropQueue c).openCount ≤ s.openCount :=
  Nat.sub_le_sub_right Std.ExtTreeMap.size_erase_le 1

/-- Leave nothing of a channel: no queue, no place in the pool, no tags. -/
def forget (s : Session) (channel : ChannelId) : Session :=
  { s.dropQueue channel with
    pool := s.pool.filter (· ≠ channel)
    consumers := s.consumers.dropChannel channel }

@[simp] theorem queue_forget (s : Session) (a b : ChannelId) :
    (s.forget a).queue b = if a = b then .empty else s.queue b :=
  s.queue_dropQueue a b

@[simp] theorem isOpen_forget (s : Session) (a b : ChannelId) :
    (s.forget a).isOpen b = (decide (a ≠ b) && s.isOpen b) :=
  s.isOpen_dropQueue a b

/-- Leave nothing but the connection's own channel, with an empty queue, and close. -/
def shut (s : Session) : Session :=
  { s with
    queues := (∅ : Queues).insert .connection .empty
    pool := []
    consumers := ∅
    connection := .closed }

@[simp] theorem queue_shut (s : Session) (c : ChannelId) : s.shut.queue c = .empty := by
  simp only [queue, shut, Std.ExtTreeMap.getElem?_insert, Std.ExtTreeMap.getElem?_empty]
  split <;> rfl

@[simp] theorem isOpen_shut (s : Session) (c : ChannelId) :
    s.shut.isOpen c = decide (c = .connection) := by
  simp only [isOpen, shut, Std.ExtTreeMap.contains_insert, Std.ExtTreeMap.contains_empty,
    Bool.or_false]
  by_cases h : c = .connection
  · simp [h]
  · simp [h, Ne.symm h]

@[simp] theorem queue_start (settings : Settings) (c : ChannelId) :
    (start settings).queue c = .empty := queue_shut (start settings) c

@[simp] theorem isOpen_start (settings : Settings) (c : ChannelId) :
    (start settings).isOpen c = decide (c = .connection) := isOpen_shut (start settings) c

end Session
end Multiplex
