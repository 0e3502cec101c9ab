import Multiplex.Link.Loopback
import Multiplex.Proofs.Session.Course

/-! When a number is opened again. A channel that was opened is closed, by either side, before its
number is opened a second time, unless it was given up: the link failed while it was being opened,
or when the peer's close was to be acknowledged. -/

namespace Multiplex

/-- Whether one of some methods went out on a channel. -/
def Event.sends (c : ChannelId) (ids : List MethodId) : Event → Bool
  | .sent d m failure => d = c ∧ m.id ∈ ids ∧ failure = none
  | .pulled .. | .delivered .. | .refused _ | .reserved _ | .forgotten _ | .abandoned _ | .shut =>
    false

/-- Whether a close of a channel, or the answer to one, went out. -/
def Event.closes (c : ChannelId) (e : Event) : Bool := e.sends c [.channelClose, .channelCloseOk]

/-- Whether acquiring opens a channel with this. -/
def opens (c : ChannelId) (x : Operation × Event) : Bool :=
  x.1 = .acquire ∧ x.2.sends c [.channelOpen]

theorem Event.sends_eq_false {c : ChannelId} {ids : List MethodId} {x : Event}
    (other : ∀ m failure, x = .sent c m failure → m.id ∉ ids) : x.sends c ids = false := by
  cases x with
  | sent d m failure =>
    by_cases here : d = c
    · subst here
      simp [Event.sends, other m failure rfl]
    · simp [Event.sends, here]
  | _ => rfl

theorem closes_close {c : ChannelId} : (Event.sent c (.channelClose .normal) none).closes c := by
  simp [Event.closes, Event.sends, Method.channelClose]

theorem closes_closeOk {c : ChannelId} : (Event.sent c .channelCloseOk none).closes c := by
  simp [Event.closes, Event.sends, Method.channelCloseOk, Method.bare]

/-- What happened from each opening of a channel to the next one, and since the last. -/
structure Openings where
  gaps : List (List Event)
  since : Option (List Event)

def Openings.record (c : ChannelId) (o : Openings) (x : Operation × Event) : Openings :=
  if opens c x then ⟨o.gaps ++ o.since.toList, some []⟩
  else { o with since := o.since.map (· ++ [x.2]) }

def openings (c : ChannelId) (log : List (Operation × Event)) : Openings :=
  log.foldl (.record c) ⟨[], none⟩

/-- A channel came to its end without a close. -/
inductive GivenUp (c : ChannelId) (gap : List Event) : Prop
  | opening (life rest : List Event) (split : gap = life ++ .abandoned c :: rest)
    (unended : ∀ e ∈ life, e.ends c = false ∧ e.closes c = false)
    (failed : ∃ e ∈ life, e.fails)
  | closing (life rest : List Event) (failure : LinkError)
    (split : gap = life ++ .forgotten c :: .sent c .channelCloseOk (some failure) :: rest)
    (unended : ∀ e ∈ life, e.ends c = false ∧ e.closes c = false)

section Openings

variable {c : ChannelId} {log : List (Operation × Event)} {op : Operation} {events : List Event}

theorem openings_append_unopened {more : List (Operation × Event)}
    (plain : ∀ x ∈ more, opens c x = false) :
    openings c (log ++ more) =
      ⟨(openings c log).gaps, (openings c log).since.map (· ++ more.map (·.2))⟩ := by
  induction more generalizing log with
  | nil => simp
  | cons x more ih =>
    have unopened := plain x (.head _)
    have first : openings c (log ++ [x]) =
        ⟨(openings c log).gaps, (openings c log).since.map (· ++ [x.2])⟩ := by
      simp [openings, Openings.record, unopened]
    rw [List.append_cons, ih fun y hy => plain y (.tail _ hy), first]
    simp [Function.comp_def]

theorem openings_concat_open {x : Operation × Event} (opening : opens c x) :
    openings c (log ++ [x]) =
      ⟨(openings c log).gaps ++ (openings c log).since.toList, some []⟩ := by
  simp [openings, Openings.record, opening]

theorem gaps_append {gap : List Event} (h : gap ∈ (openings c log).gaps)
    (more : List (Operation × Event)) : gap ∈ (openings c (log ++ more)).gaps := by
  induction more generalizing log with
  | nil => simpa using h
  | cons x more ih =>
    rw [List.append_cons]
    refine ih ?_
    cases opening : opens c x with
    | true =>
      rw [openings_concat_open opening]
      exact List.mem_append_left _ h
    | false =>
      rw [openings_append_unopened (by simpa using opening)]
      exact h

theorem mem_gaps {before between after : List (Operation × Event)} {x y : Operation × Event}
    (opened : opens c x) (reopened : opens c y) (next : ∀ z ∈ between, opens c z = false) :
    between.map (·.2) ∈ (openings c (before ++ x :: between ++ y :: after)).gaps := by
  have closed : openings c (before ++ [x] ++ between ++ [y]) =
      ⟨(openings c (before ++ [x])).gaps ++ [between.map (·.2)], some []⟩ := by
    rw [openings_concat_open reopened, openings_append_unopened next,
      openings_concat_open opened]
    simp
  have split : before ++ x :: between ++ y :: after =
      before ++ [x] ++ between ++ [y] ++ after := by simp
  rw [split]
  refine gaps_append ?_ after
  rw [closed]
  exact List.mem_append_right _ (.head _)

theorem opens_sent_eq_false {d : ChannelId} {m : Method} {failure : Option LinkError}
    (h : d = c → m.id ≠ .channelOpen) : opens c (op, .sent d m failure) = false := by
  by_cases here : d = c
  · simp [opens, Event.sends, h here]
  · simp [opens, Event.sends, here]

theorem opens_of_ne {e : Event} (other : op ≠ .acquire) : opens c (op, e) = false := by
  simp [opens, other]

end Openings

namespace Session

/-- How the lifetime `life` of a channel came to its end. -/
inductive Ending (c : ChannelId) (life : List Event) : List Event → Prop
  | abandoned (failed : ∃ e ∈ life, e.fails) : Ending c life [.abandoned c]
  | acknowledged (failure : Option LinkError) :
    Ending c life [.forgotten c, .sent c .channelCloseOk failure]
  | answered (asked : .sent c (.channelClose .normal) none ∈ life) : Ending c life [.forgotten c]

/-- The channel's lifetime is over, and nothing has closed it since. -/
def Over (c : ChannelId) (since : List Event) : Prop :=
  ∃ life ending rest, since = life ++ ending ++ rest ∧ (∀ e ∈ life, e.ends c = false) ∧
    Ending c life ending ∧ ∀ e ∈ rest, e.closes c = false

theorem first_unique {α : Type} {p : α → Bool} {xs ys more rest : List α} {x y : α}
    (same : xs ++ x :: more = ys ++ y :: rest) (before_x : ∀ a ∈ xs, p a = false) (hx : p x)
    (before_y : ∀ a ∈ ys, p a = false) (hy : p y) : xs = ys ∧ x :: more = y :: rest := by
  induction xs generalizing ys with
  | nil =>
    cases ys with
    | nil => exact ⟨rfl, same⟩
    | cons b ys =>
      obtain ⟨rfl, -⟩ := List.cons.inj same
      simp [before_y x (.head _)] at hx
  | cons a xs ih =>
    cases ys with
    | nil =>
      obtain ⟨rfl, -⟩ := List.cons.inj same
      simp [before_x a (.head _)] at hy
    | cons b ys =>
      obtain ⟨rfl, tails⟩ := List.cons.inj same
      obtain ⟨rfl, tail⟩ := ih tails (fun c hc => before_x c (.tail _ hc))
        fun c hc => before_y c (.tail _ hc)
      exact ⟨rfl, tail⟩

theorem Ending.unique {c : ChannelId} {life life' ending rest rest' : List Event} {e : Event}
    (h : Ending c life ending) (split : life ++ ending ++ rest = life' ++ e :: rest')
    (unended : ∀ e ∈ life, e.ends c = false) (unended' : ∀ e ∈ life', e.ends c = false)
    (ends : e.ends c) : life = life' ∧ ending ++ rest = e :: rest' := by
  rw [List.append_assoc] at split
  cases h <;> exact first_unique split unended (by simp [Event.ends]) unended' ends

section Over

variable {c : ChannelId} {gap since events : List Event}

theorem Over.append (h : Over c since) (plain : ∀ e ∈ events, e.closes c = false) :
    Over c (since ++ events) := by
  obtain ⟨life, ending, rest, rfl, unended, ends, unclosed⟩ := h
  exact ⟨life, ending, rest ++ events, by simp, unended, ends,
    List.forall_mem_append.mpr ⟨unclosed, plain⟩⟩

theorem Over.givenUp (h : Over c gap) (quiet : ∀ e ∈ gap, e.closes c = false) :
    GivenUp c gap := by
  obtain ⟨life, ending, rest, rfl, unended, ends, -⟩ := h
  have quiet_life : ∀ e ∈ life, e.ends c = false ∧ e.closes c = false := fun e he =>
    ⟨unended e he, quiet e (by simp [he])⟩
  cases ends with
  | abandoned failed => exact .opening life rest (by simp) quiet_life failed
  | acknowledged failure =>
    cases failure with
    | none =>
      have silent := quiet (.sent c .channelCloseOk none) (by simp)
      simp [closes_closeOk] at silent
    | some failure => exact .closing life rest failure (by simp) quiet_life
  | answered asked =>
    have silent := (quiet_life _ asked).2
    simp [closes_close] at silent

/-- The end that nothing closed is the only one, since a lifetime ends once. -/
theorem Over.unclosed_of_givenUp (h : Over c gap) (given_up : GivenUp c gap) :
    ∀ e ∈ gap, e.closes c = false := by
  obtain ⟨life, ending, rest, rfl, unended, ends, unclosed⟩ := h
  have quiet_all (quiet : ∀ e ∈ life, e.ends c = false ∧ e.closes c = false)
      (silent : ∀ e ∈ ending, e.closes c = false) :
      ∀ e ∈ life ++ ending ++ rest, e.closes c = false := by
    simp only [List.forall_mem_append]
    exact ⟨⟨fun e he => (quiet e he).2, silent⟩, unclosed⟩
  cases given_up with
  | opening life' rest' split quiet =>
    obtain ⟨rfl, tails⟩ := ends.unique split unended (fun e he => (quiet e he).1)
      (by simp [Event.ends])
    cases ends with
    | abandoned => exact quiet_all quiet (by simp [Event.closes, Event.sends])
    | _ => simp at tails
  | closing life' rest' failure split quiet =>
    obtain ⟨rfl, tails⟩ := ends.unique split unended (fun e he => (quiet e he).1)
      (by simp [Event.ends])
    cases ends with
    | abandoned => simp at tails
    | acknowledged =>
      obtain ⟨rfl, rfl⟩ := by simpa using tails
      exact quiet_all quiet (by simp [Event.closes, Event.sends])
    | answered asked =>
      have silent := (quiet _ asked).2
      simp [closes_close] at silent

theorem Over.unclosed_iff (h : Over c gap) : (∀ e ∈ gap, e.closes c = false) ↔ GivenUp c gap :=
  ⟨h.givenUp, h.unclosed_of_givenUp⟩

end Over

/-- How things stand with a channel that was opened a while ago. -/
inductive Standing (c : ChannelId) (since : List Event) (s : Session) : Prop
  | living (opened : s.isOpen c) (unended : ∀ e ∈ since, e.ends c = false)
  | gone (closed : s.isOpen c = false) (passed : Over c since)
  | lost (lost : s.connection = .closed)

section Standing

variable {k : Task} {c : ChannelId} {past since events trace : List Event} {s t : Session}

theorem Move.closes_eq_false (h : Move k past s events t) (nonzero : c ≠ .connection)
    (closed : s.isOpen c = false) : ∀ e ∈ events, e.closes c = false := by
  refine fun e he => Event.sends_eq_false fun m failure sent => ?_
  exact absurd (sent ▸ he) (h.unsent nonzero closed m failure)

theorem Move.opens_eq_false {op : Operation} (h : Move k past s events t)
    (nonzero : c ≠ .connection)
    (asks : k.channel = c → ∀ m, k.asks past m → m.id ≠ .channelOpen) :
    ∀ e ∈ events, opens c (op, e) = false := by
  cases h with
  | ask m failure asked there => simpa using opens_sent_eq_false fun here => asks here m asked
  | acknowledge failure there opened =>
    have quiet : opens c (op, .sent k.channel .channelCloseOk failure) = false :=
      opens_sent_eq_false fun _ => by decide
    simpa [opens, Event.sends] using quiet
  | surrender failure =>
    have quiet : opens c (op, .sent .connection .connectionCloseOk failure) = false :=
      opens_sent_eq_false fun here => absurd here (Ne.symm nonzero)
    simpa [opens, Event.sends] using quiet
  | _ => simp [opens, Event.sends]

theorem Moves.opens_eq_false {op : Operation} (h : Moves k past s trace t)
    (nonzero : c ≠ .connection)
    (asks : k.channel = c → ∀ more m, k.asks (past ++ more) m → m.id ≠ .channelOpen) :
    ∀ e ∈ trace, opens c (op, e) = false := by
  induction h with
  | none => simp
  | snoc _ move ih =>
    intro e he
    rcases List.mem_append.mp he with before | now
    · exact ih e before
    · exact move.opens_eq_false nonzero (fun here => asks here _) e now

theorem Standing.passed (h : Standing c since s) (usable : s.connection = .open)
    (closed : s.isOpen c = false) : Over c since := by
  cases h with
  | living opened => simp [closed] at opened
  | gone _ passed => exact passed
  | lost lost => simp [usable] at lost

theorem Standing.ends {ending : List Event} (unended : ∀ e ∈ since, e.ends c = false)
    (ends : Ending c since ending) (closed : t.isOpen c = false) :
    Standing c (since ++ ending) t :=
  .gone closed ⟨since, ending, [], by simp, unended, ends, by simp⟩

theorem Standing.move (h : Standing c since s) (nonzero : c ≠ .connection)
    (known : ∀ e ∈ past, e.fails ∨ e = .sent c (.channelClose .normal) none → e ∈ since)
    (move : Move k past s events t) : Standing c (since ++ events) t := by
  cases h with
  | gone closed passed =>
    refine .gone ?_ (passed.append (move.closes_eq_false nonzero closed))
    rw [← Bool.not_eq_true]
    intro opened
    have := (move.isOpen_of_isOpen opened).resolve_right nonzero
    simp [closed] at this
  | lost lost => exact .lost (move.connection.elim (·.trans lost) (·.closed))
  | living opened unended =>
    have goes_on (plain : ∀ e ∈ events, e.ends c = false) : Standing c (since ++ events) t :=
      .living (move.isOpen opened plain) (List.forall_mem_append.mpr ⟨unended, plain⟩)
    cases move with
    | acknowledge failure =>
      by_cases here : k.channel = c
      · subst here
        exact .ends unended (.acknowledged failure) (by simp)
      · exact goes_on (by simp [Event.ends, here])
    | conclude there opened asked =>
      by_cases here : k.channel = c
      · subst here
        exact .ends unended (.answered (known _ asked (.inr rfl))) (by simp)
      · exact goes_on (by simp [Event.ends, here])
    | abandon there opened unused failed =>
      by_cases here : k.channel = c
      · subst here
        obtain ⟨e, he, fails⟩ := failed
        exact .ends unended (.abandoned ⟨e, known e he (.inl fails), fails⟩) (by simp)
      · exact goes_on (by simp [Event.ends, here])
    | shut | surrender => exact .lost rfl
    | _ => exact goes_on (by simp [Event.ends])

theorem Standing.moves (h : Standing c since s) (nonzero : c ≠ .connection)
    (known : ∀ e ∈ past, ¬ e.fails ∧ e ≠ .sent c (.channelClose .normal) none)
    (moves : Moves k past s trace t) : Standing c (since ++ trace) t := by
  refine moves.keeps (P := fun trace t => Standing c (since ++ trace) t) (by simpa using h)
    fun held move => ?_
  rw [← List.append_assoc]
  refine held.move nonzero (fun e he telling => ?_) move
  rcases List.mem_append.mp he with before | now
  · exact absurd telling (not_or.mpr (known e before))
  · exact List.mem_append_right _ now

end Standing

/-- Each time the channel was opened again, its lifetime was over. -/
structure Ledger (c : ChannelId) (log : List (Operation × Event)) (s : Session) : Prop where
  gaps : ∀ gap ∈ (openings c log).gaps, Over c gap
  since : ∀ since ∈ (openings c log).since, Standing c since s

namespace Ledger

variable {c d max : ChannelId} {log : List (Operation × Event)} {op : Operation}
  {k : Task} {past events trace : List Event} {s t : Session}

theorem start (settings : Settings) : Ledger c [] (.start settings) where
  gaps := by simp [openings]
  since := by simp [openings]

theorem goesOn (h : Ledger c log s) (plain : ∀ e ∈ events, opens c (op, e) = false)
    (stands : ∀ since, Standing c since s → Standing c (since ++ events) t) :
    Ledger c (log ++ events.map (op, ·)) t := by
  have lives : openings c (log ++ events.map (op, ·)) =
      ⟨(openings c log).gaps, (openings c log).since.map (· ++ events)⟩ := by
    rw [openings_append_unopened (by simpa using plain)]
    simp [Function.comp_def]
  constructor <;> rw [lives]
  · exact h.gaps
  · intro since hsince
    obtain ⟨since, before, rfl⟩ := Option.map_eq_some_iff.mp hsince
    exact stands since (h.since since before)

theorem same (h : Ledger c log s) (isOpen : t.isOpen c = s.isOpen c)
    (connection : s.connection = .closed → t.connection = .closed) : Ledger c log t where
  gaps := h.gaps
  since since hsince := by
    cases h.since since hsince with
    | living opened unended => exact .living (isOpen.trans opened) unended
    | gone closed passed => exact .gone (isOpen.trans closed) passed
    | lost lost => exact .lost (connection lost)

theorem moves (h : Ledger c log s) (nonzero : c ≠ .connection)
    (known : ∀ e ∈ past, ¬ e.fails ∧ e ≠ .sent c (.channelClose .normal) none)
    (plain : ∀ e ∈ trace, opens c (op, e) = false) (moves : Moves k past s trace t) :
    Ledger c (log ++ trace.map (op, ·)) t :=
  h.goesOn plain fun _ standing => standing.moves nonzero known moves

theorem hold (h : Ledger c log s) (other : d ≠ c) :
    Ledger c (log ++ [(op, .reserved d)]) (s.hold d) := by
  have plain : ∀ e ∈ [Event.reserved d], opens c (op, e) = false := by simp [opens, Event.sends]
  refine h.goesOn plain fun since standing => ?_
  cases standing with
  | living opened unended =>
    exact .living (by simp [opened]) (List.forall_mem_append.mpr ⟨unended, by simp [Event.ends]⟩)
  | gone closed passed =>
    have passed : Over c (since ++ [.reserved d]) :=
      passed.append (by simp [Event.closes, Event.sends])
    exact .gone (by simp [closed, other]) passed
  | lost lost => exact .lost lost

theorem reopen {rest : List Event} (h : Ledger c log s) (nonzero : c ≠ .connection)
    (usable : s.connection = .open) (free : s.isOpen c = false)
    (work : Moves (opening c) [.reserved c] (s.hold c) (.sent c .channelOpen none :: rest) t) :
    Ledger c (log ++ (.reserved c :: .sent c .channelOpen none :: rest).map (.acquire, ·)) t := by
  have reserved : ∀ x ∈ [(Operation.acquire, Event.reserved c)], opens c x = false := by
    simp [opens, Event.sends]
  have opening : opens c (.acquire, .sent c .channelOpen none) := by
    simp [opens, Event.sends, Method.channelOpen]
  have split : log ++ (Event.reserved c :: .sent c .channelOpen none :: rest).map (.acquire, ·) =
      log ++ [(.acquire, .reserved c)] ++ [(.acquire, .sent c .channelOpen none)] ++
        rest.map (.acquire, ·) := by simp
  have reopened : Ledger c (log ++ [(.acquire, .reserved c)] ++
      [(.acquire, .sent c .channelOpen none)]) (s.hold c) := by
    constructor <;> rw [openings_concat_open opening, openings_append_unopened reserved]
    · intro gap hgap
      rcases List.mem_append.mp hgap with before | now
      · exact h.gaps gap before
      · obtain ⟨since, hsince, rfl⟩ := Option.map_eq_some_iff.mp (Option.mem_toList.mp now)
        have passed : Over c since := (h.since since hsince).passed usable free
        exact passed.append (by simp [Event.closes, Event.sends])
    · rintro _ ⟨⟩
      exact .living (by simp) (by simp)
  rw [split]
  have other : Method.channelOpen ≠ .channelClose .normal :=
    fun same => absurd (congrArg Method.id same) (by decide)
  refine reopened.moves nonzero (by simp [Event.fails, other]) ?_ work.after_sent
  refine work.after_sent.opens_eq_false nonzero fun _ more m asked => ?_
  rcases asked with ⟨-, past⟩ | rfl | rfl
  · simp at past
  · decide
  · decide

theorem course {σ : Type} {o : Outcome σ Reply} (h : Ledger c log s) (nonzero : c ≠ .connection)
    (positive : max ≠ 0) (course : Course max s op o) :
    Ledger c (log ++ o.trace.map (op, ·)) o.session := by
  cases course with
  | refused | found | registered | unregistered | released | reused =>
    rw [List.map_nil, List.append_nil]
    exact h.same rfl id
  | reserved d o usable unused free work ready opened =>
    have closed := (reservable_eq_some positive free).2.1
    rw [Outcome.trace_after, Outcome.session_after, List.singleton_append]
    by_cases here : d = c
    · subst here
      rcases opened with ⟨failure, failed, dropped⟩ | ⟨rest, sent⟩
      · rw [failed, dropped]
        refine h.goesOn (by simp [opens, Event.sends]) fun since standing => ?_
        have passed : Over d since := standing.passed usable closed
        exact .gone (by simp) (passed.append (by simp [Event.closes, Event.sends]))
      · have moves := work.moves
        rw [sent] at moves ⊢
        exact h.reopen nonzero usable closed moves
    · have held : Ledger c (log ++ [(.acquire, .reserved d)]) (s.hold d) := h.hold here
      rw [List.map_cons, List.append_cons]
      refine held.moves nonzero (by simp [Event.fails]) ?_ work.moves
      exact work.moves.opens_eq_false nonzero fun here' => absurd here' here
  | worked op k o task work =>
    have other : op ≠ .acquire := by
      rintro rfl
      cases task
    exact h.moves nonzero (by simp) (fun _ _ => opens_of_ne other) work.moves
  | closed o usable work shut =>
    have closing : Ledger c log { s with connection := .closingLocal } :=
      h.same rfl fun lost => by simp [usable] at lost
    exact closing.moves nonzero (by simp) (fun _ _ => opens_of_ne (by simp)) work

end Ledger

end Session

namespace Run

variable {σ : Type} [Link σ]

theorem ledger_performAll (settings : Settings) (calls : List (Operation × σ)) {c : ChannelId}
    (nonzero : c ≠ .connection) :
    Session.Ledger c ((start settings).performAll calls).log
      ((start settings).performAll calls).session := by
  have initial : Session.Ledger c (start settings).log (start settings).session :=
    .start settings
  refine performAll_induction (P := fun r => Session.Ledger c r.log r.session) initial
    fun r op link _ ledger => ?_
  rw [log_perform]
  have course := Session.course_perform op r.session link
  exact ledger.course nonzero (ChannelId.bound_ne_zero _) course

/-- From one opening of a channel to the next, neither side's close goes out just when the channel
was given up. -/
theorem unclosed_iff_givenUp (settings : Settings) (calls : List (Operation × σ)) {c : ChannelId}
    {before between after : List (Operation × Event)} {x y : Operation × Event}
    (nonzero : c ≠ .connection)
    (log : ((start settings).performAll calls).log = before ++ x :: between ++ y :: after)
    (opened : opens c x) (reopened : opens c y) (next : ∀ z ∈ between, opens c z = false) :
    (∀ z ∈ between, z.2.closes c = false) ↔ GivenUp c (between.map (·.2)) := by
  have gap : between.map (·.2) ∈ (openings c ((start settings).performAll calls).log).gaps := by
    rw [log]
    exact mem_gaps opened reopened next
  have passed := (ledger_performAll settings calls nonzero).gaps _ gap
  rw [← passed.unclosed_iff, List.forall_mem_map]

/-- The only channel there is, acquired twice: the first time the link gives up waiting for an
answer, the second time the broker answers. -/
def unanswered : List (Operation × Loopback) :=
  let late : Pulled := .failed (.socket (.io ⟨.timedOut, "timed out"⟩))
  [(.acquire, { Loopback.start 1 with incoming := [late] }),
    (.acquire, { Loopback.start 1 with replies := Loopback.agreeable })]

theorem log_unanswered : ((start .standard).performAll unanswered).log =
    [(.acquire, .reserved 1)] ++ (.acquire, .sent 1 .channelOpen none) ::
      [(.acquire, .pulled 1 none (.failed (.socket (.io ⟨.timedOut, "timed out"⟩)))),
        (.acquire, .abandoned 1), (.acquire, .reserved 1)] ++
      (.acquire, .sent 1 .channelOpen none) ::
      [(.acquire, .pulled 1 none (.frame ⟨1, .method (.bare .channelOpenOk)⟩)),
        (.acquire, .delivered 1 ⟨1, .method (.bare .channelOpenOk)⟩),
        (.acquire, .sent 1 (.confirmSelect false) none),
        (.acquire, .pulled 1 none (.frame ⟨1, .method (.bare .confirmSelectOk)⟩)),
        (.acquire, .delivered 1 ⟨1, .method (.bare .confirmSelectOk)⟩)] := by
  decide +kernel

theorem reopened_unanswered :
    ∃ before between after x y,
      ((start .standard).performAll unanswered).log = before ++ x :: between ++ y :: after ∧
      opens 1 x ∧ opens 1 y ∧ ∀ z ∈ between, z.2.closes 1 = false :=
  ⟨_, _, _, _, _, log_unanswered, by decide, by decide, by decide⟩

theorem givenUp_unanswered :
    (1 : ChannelId) ≠ .connection ∧
    GivenUp 1 [.pulled 1 none (.failed (.socket (.io ⟨.timedOut, "timed out"⟩))), .abandoned 1,
      .reserved 1] :=
  ⟨by decide, (unclosed_iff_givenUp .standard unanswered (by decide) log_unanswered (by decide)
    (by decide) (by decide)).mp (by decide)⟩

end Run
end Multiplex
