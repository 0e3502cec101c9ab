import Multiplex.Session.Operation

/-! What happens to a session, taken apart. Reading and sending are successions of moves, each of
which does one thing to the bookkeeping and leaves its mark in the history. What every move keeps,
every operation keeps. -/

namespace Multiplex

def Event.fails : Event → Bool
  | .sent _ _ failure => failure.isSome
  | .pulled _ _ (.failed _) => true
  | .pulled _ _ .nothing | .pulled _ _ (.frame _) => false
  | .delivered .. | .refused _ | .reserved _ | .forgotten _ | .abandoned _ | .shut => false

/-- Whether with this a channel is no longer open. Only the connection's own outlasts them all. -/
def Event.ends (channel : ChannelId) : Event → Bool
  | .forgotten c | .abandoned c => c = channel
  | .shut => true
  | .sent .. | .pulled .. | .delivered .. | .refused _ | .reserved _ => false

theorem eq_append_cons_or {α : Type} {l m front back : List α} {a : α}
    (split : l ++ m = front ++ a :: back) :
    (∃ rest, l = front ++ a :: rest) ∨ ∃ rest, front = l ++ rest ∧ m = rest ++ a :: back := by
  rcases List.append_eq_append_iff.mp split with ⟨rest, rfl, tail⟩ | ⟨rest, rfl, tail⟩
  · exact .inr ⟨rest, rfl, tail⟩
  · cases rest with
    | nil => exact .inr ⟨[], by simp, tail.symm⟩
    | cons b rest =>
      obtain ⟨rfl, -⟩ := List.cons.inj tail
      exact .inl ⟨rest, rfl⟩

namespace Session

/-- What somebody is about: the channel that he works on, and the methods that he sends there of
his own accord when things have come so far. -/
structure Task where
  channel : ChannelId
  asks : List Event → Method → Prop

def reading (channel : ChannelId) : Task := ⟨channel, fun _ _ => False⟩

def asking (channel : ChannelId) (method : Method) : Task := ⟨channel, fun _ m => m = method⟩

def closing (channel : ChannelId) : Task := asking channel (.channelClose .normal)

/-- Open a channel right after its number was reserved, ask for confirms, and close it if that
fails. -/
def opening (channel : ChannelId) : Task where
  channel
  asks past m := m = .channelOpen ∧ past = [.reserved channel] ∨ m = .confirmSelect false ∨
    m = .channelClose .normal

/-- One thing that can happen on a task that has come as far as `past`. -/
inductive Move (k : Task) (past : List Event) (s : Session) : List Event → Session → Prop
  | ask (m : Method) (failure : Option LinkError) (asked : k.asks past m)
    (there : k.channel ≠ .connection → s.isOpen k.channel) :
    Move k past s [.sent k.channel m failure] s
  | idle (wait : Timeout) (answer : Pulled) (empty : ∀ f, answer ≠ .frame f) :
    Move k past s [.pulled k.channel wait answer] s
  /-- A pulled frame is handed to its reader at once, since none is parked before it. -/
  | hand (wait : Timeout) (f : Frame) (own : f.channel = k.channel) (opened : s.isOpen k.channel)
    (empty : (s.queue k.channel).toList = []) :
    Move k past s [.pulled k.channel wait (.frame f), .delivered k.channel f] s
  | park (wait : Timeout) (f : Frame) (t : Session) (foreign : f.channel ≠ k.channel)
    (routed : s.route f = .on t) : Move k past s [.pulled k.channel wait (.frame f)] t
  | refuse (wait : Timeout) (f : Frame) (foreign : f.channel ≠ k.channel)
    (routed : s.route f = .full) :
    Move k past s [.pulled k.channel wait (.frame f), .refused f] s
  /-- The connection's close arrives while another channel is read. -/
  | alarm (wait : Timeout) (f : Frame) (m : Method) (foreign : f.channel ≠ k.channel)
    (routed : s.route f = .close m) : Move k past s [.pulled k.channel wait (.frame f)] s
  | unpark (f : Frame) (rest : Queue Frame) (opened : s.isOpen k.channel)
    (queued : (s.queue k.channel).toList = f :: rest.toList) :
    Move k past s [.delivered k.channel f] (s.setQueue k.channel rest)
  | acknowledge (failure : Option LinkError) (nonzero : k.channel ≠ .connection)
    (opened : s.isOpen k.channel) :
    Move k past s [.forgotten k.channel, .sent k.channel .channelCloseOk failure]
      (s.forget k.channel)
  /-- A close of our own has been answered. -/
  | conclude (nonzero : k.channel ≠ .connection) (opened : s.isOpen k.channel)
    (asked : .sent k.channel (.channelClose .normal) none ∈ past)
    (answered : ∃ f, .delivered k.channel f ∈ past ∧ f.isMethod .channelCloseOk) :
    Move k past s [.forgotten k.channel] (s.forget k.channel)
  /-- A reservation is undone without a word, the link having failed. -/
  | abandon (nonzero : k.channel ≠ .connection) (opened : s.isOpen k.channel)
    (unused : s.pool = []) (failed : ∃ e ∈ past, e.fails) (taken : .reserved k.channel ∈ past)
    (unclosed : ∀ m failure, .sent k.channel m failure ∈ past → m.id ≠ .channelClose) :
    Move k past s [.abandoned k.channel] (s.dropQueue k.channel)
  | shut : Move k past s [.shut] s.shut
  | surrender (failure : Option LinkError) :
    Move k past s [.shut, .sent .connection .connectionCloseOk failure] s.shut

inductive Moves (k : Task) (past : List Event) (s : Session) : List Event → Session → Prop
  | none : Moves k past s [] s
  | snoc {trace events : List Event} {t u : Session} (before : Moves k past s trace t)
    (move : Move k (past ++ trace) t events u) : Moves k past s (trace ++ events) u

namespace Moves

variable {k : Task} {past trace events : List Event} {s t u : Session}

theorem one (h : Move k past s events t) : Moves k past s events t := by
  simpa using snoc none (by simpa using h)

theorem trans (first : Moves k past s trace t) (second : Moves k (past ++ trace) t events u) :
    Moves k past s (trace ++ events) u := by
  induction second with
  | none => simpa using first
  | snoc _ move ih =>
    rw [List.append_assoc] at move
    simpa using snoc ih move

theorem first (h : Moves k past s trace t) :
    trace = [] ∧ t = s ∨ ∃ events rest u, trace = events ++ rest ∧ Move k past s events u ∧
      Moves k (past ++ events) u rest t := by
  induction h with
  | none => exact .inl ⟨rfl, rfl⟩
  | snoc before move ih =>
    right
    rcases ih with ⟨rfl, rfl⟩ | ⟨events, rest, u, rfl, head, tail⟩
    · rw [List.append_nil] at move
      exact ⟨_, [], _, (List.append_nil _).symm, move, .none⟩
    · rw [← List.append_assoc] at move
      exact ⟨events, _, u, List.append_assoc .., head, tail.snoc move⟩

theorem after_sent {c : ChannelId} {m : Method} {failure : Option LinkError}
    (h : Moves k past s (.sent c m failure :: trace) t) :
    Moves k (past ++ [.sent c m failure]) s trace t := by
  rcases h.first with ⟨nothing, -⟩ | ⟨events, rest, u, split, move, tail⟩
  · cases nothing
  · cases move with
    | ask =>
      obtain ⟨⟨rfl, rfl, rfl⟩, rfl⟩ := by simpa using split
      exact tail
    | _ => simp at split

/-- What every move keeps, a succession of moves keeps. -/
theorem keeps {P : List Event → Session → Prop} (h : Moves k past s trace t) (start : P [] s)
    (step : ∀ {trace events s t}, P trace s → Move k (past ++ trace) s events t →
      P (trace ++ events) t) : P trace t := by
  induction h with
  | none => exact start
  | snoc _ move ih => exact step ih move

end Moves

/-- Nothing is left but the connection's own channel. -/
structure Bare (s : Session) : Prop where
  closed : s.connection = .closed
  pool : s.pool = []
  only : ∀ c, s.isOpen c → c = .connection

theorem bare_shut (s : Session) : s.shut.Bare := ⟨rfl, rfl, by simp⟩

section Effect

variable {k : Task} {past trace events : List Event} {s t : Session} {c : ChannelId}

theorem Move.settings (h : Move k past s events t) : t.settings = s.settings := by
  cases h with
  | park wait f t foreign routed => rw [eq_of_route routed]
  | _ => rfl

theorem Move.connection (h : Move k past s events t) :
    t.connection = s.connection ∨ t.Bare := by
  cases h with
  | park wait f t foreign routed =>
    rw [eq_of_route routed]
    exact .inl rfl
  | shut | surrender => exact .inr (bare_shut s)
  | _ => exact .inl rfl

theorem Move.pool (h : Move k past s events t) : t.pool.Sublist s.pool := by
  cases h with
  | park wait f t foreign routed =>
    have same : t.pool = s.pool := by rw [eq_of_route routed]
    exact same ▸ .refl _
  | acknowledge | conclude => exact List.filter_sublist
  | shut | surrender => exact List.nil_sublist _
  | _ => exact .refl _

theorem Move.openCount_le (h : Move k past s events t) : t.openCount ≤ s.openCount := by
  cases h with
  | park wait f t foreign routed => exact Nat.le_of_eq (openCount_of_route routed)
  | unpark f rest opened => exact Nat.le_of_eq (openCount_setQueue_of_isOpen opened _)
  | acknowledge | conclude | abandon => exact openCount_dropQueue_le s _
  | shut | surrender => exact Nat.zero_le _
  | _ => exact Nat.le_refl _

theorem Move.isOpen_of_isOpen (h : Move k past s events t) (opened : t.isOpen c) :
    s.isOpen c ∨ c = .connection := by
  cases h with
  | park wait f t foreign routed => exact .inl (by rwa [isOpen_of_route routed] at opened)
  | unpark f rest there queued => exact .inl (by rwa [isOpen_setQueue_of_isOpen there] at opened)
  | acknowledge | conclude =>
    rw [isOpen_forget, Bool.and_eq_true] at opened
    exact .inl opened.2
  | abandon =>
    rw [isOpen_dropQueue, Bool.and_eq_true] at opened
    exact .inl opened.2
  | shut | surrender => exact .inr (by simpa using opened)
  | _ => exact .inl opened

theorem Move.isOpen (h : Move k past s events t) (opened : s.isOpen c)
    (unended : ∀ e ∈ events, e.ends c = false) : t.isOpen c := by
  cases h with
  | park wait f t foreign routed => rwa [isOpen_of_route routed]
  | unpark f rest there queued => rwa [isOpen_setQueue_of_isOpen there]
  | acknowledge | conclude | abandon =>
    have := unended _ (.head _)
    simp_all [Event.ends]
  | shut | surrender =>
    have := unended _ (.head _)
    simp [Event.ends] at this
  | _ => exact opened

/-- A move that ends no channel changes nothing but the queues. -/
theorem Move.eq_of_unended (h : Move k past s events t)
    (unended : ∀ c, ∀ e ∈ events, e.ends c = false) : t = { s with queues := t.queues } := by
  cases h with
  | park wait f t foreign routed => exact eq_of_route routed
  | acknowledge | conclude => simpa [Event.ends] using unended k.channel
  | shut | surrender => simpa [Event.ends] using unended .connection
  | _ => rfl

theorem Move.unreserved (h : Move k past s events t) : .reserved c ∉ events := by
  cases h <;> simp

/-- Nothing is sent on a channel that is not open. -/
theorem Move.unsent (h : Move k past s events t) (nonzero : c ≠ .connection)
    (closed : s.isOpen c = false) (m : Method) (failure : Option LinkError) :
    .sent c m failure ∉ events := by
  have other (opened : k.channel ≠ .connection → s.isOpen k.channel) : c ≠ k.channel := by
    rintro rfl
    simp [opened nonzero] at closed
  cases h with
  | ask n failure asked there => simp [other there]
  | acknowledge failure there opened => simp [other fun _ => opened]
  | surrender => simp [nonzero]
  | _ => simp

theorem Move.isOpen_eq_false (h : Move k past s events t) (nonzero : c ≠ .connection)
    (closed : s.isOpen c = false) : t.isOpen c = false := by
  rw [← Bool.not_eq_true] at closed ⊢
  exact fun opened => closed ((h.isOpen_of_isOpen opened).resolve_right nonzero)

theorem Move.connection_of_unshut (h : Move k past s events t) (unshut : .shut ∉ events) :
    t.connection = s.connection := by
  cases h with
  | park wait f t foreign routed => rw [eq_of_route routed]
  | shut | surrender => simp at unshut
  | _ => rfl

theorem Move.bare (h : Move k past s events t) (bare : s.Bare) : t.Bare where
  closed := by
    rcases h.connection with same | bare
    · rw [same, bare.closed]
    · exact bare.closed
  pool := List.sublist_nil.mp (bare.pool ▸ h.pool)
  only c opened := (h.isOpen_of_isOpen opened).elim (bare.only c) id

namespace Moves

theorem settings (h : Moves k past s trace t) : t.settings = s.settings :=
  h.keeps (P := fun _ t => t.settings = s.settings) rfl fun held move => move.settings.trans held

theorem connection (h : Moves k past s trace t) : t.connection = s.connection ∨ t.Bare := by
  refine h.keeps (P := fun _ t => t.connection = s.connection ∨ t.Bare) (.inl rfl)
    fun held move => ?_
  rcases held with same | bare
  · exact move.connection.imp_left (·.trans same)
  · exact .inr (move.bare bare)

theorem pool (h : Moves k past s trace t) : t.pool.Sublist s.pool :=
  h.keeps (P := fun _ t => t.pool.Sublist s.pool) (.refl _) fun held move => move.pool.trans held

theorem openCount_le (h : Moves k past s trace t) : t.openCount ≤ s.openCount :=
  h.keeps (P := fun _ t => t.openCount ≤ s.openCount) (Nat.le_refl _) fun held move =>
    Nat.le_trans move.openCount_le held

theorem isOpen_of_isOpen (h : Moves k past s trace t) (opened : t.isOpen c) :
    s.isOpen c ∨ c = .connection := by
  induction h with
  | none => exact .inl opened
  | snoc _ move ih => exact (move.isOpen_of_isOpen opened).elim ih .inr

theorem isOpen (h : Moves k past s trace t) (opened : s.isOpen c)
    (unended : ∀ e ∈ trace, e.ends c = false) : t.isOpen c := by
  induction h with
  | none => exact opened
  | snoc _ move ih =>
    obtain ⟨before, now⟩ := List.forall_mem_append.mp unended
    exact move.isOpen (ih before) now

theorem eq_of_unended (h : Moves k past s trace t)
    (unended : ∀ c, ∀ e ∈ trace, e.ends c = false) : t = { s with queues := t.queues } := by
  induction h with
  | none => rfl
  | snoc _ move ih =>
    have same := ih fun c e he => unended c e (List.mem_append_left _ he)
    have rest := move.eq_of_unended fun c e he => unended c e (List.mem_append_right _ he)
    rw [rest, same]

theorem unsent (h : Moves k past s trace t) (nonzero : c ≠ .connection)
    (closed : s.isOpen c = false) (m : Method) (failure : Option LinkError) :
    .sent c m failure ∉ trace ∧ t.isOpen c = false :=
  h.keeps (P := fun trace t => .sent c m failure ∉ trace ∧ t.isOpen c = false)
    ⟨by simp, closed⟩ fun held move => by
      refine ⟨?_, move.isOpen_eq_false nonzero held.2⟩
      simpa [not_or] using ⟨held.1, move.unsent nonzero held.2 m failure⟩

theorem channel_of_sent (h : Moves k past s trace t) {m : Method} {failure : Option LinkError}
    (sent : .sent c m failure ∈ trace) : c = k.channel ∨ c = .connection := by
  induction h with
  | none => cases sent
  | snoc _ move ih =>
    rcases List.mem_append.mp sent with before | now
    · exact ih before
    · cases move <;> simp_all

theorem unreserved (h : Moves k past s trace t) : .reserved c ∉ trace :=
  h.keeps (P := fun trace _ => .reserved c ∉ trace) (by simp) fun held move => by
    simpa [not_or] using ⟨held, move.unreserved⟩

theorem connection_of_unshut (h : Moves k past s trace t) (unshut : .shut ∉ trace) :
    t.connection = s.connection := by
  induction h with
  | none => rfl
  | snoc _ move ih =>
    obtain ⟨before, now⟩ := not_or.mp (mt List.mem_append.mpr unshut)
    exact (move.connection_of_unshut now).trans (ih before)

end Moves

end Effect

end Session
end Multiplex
