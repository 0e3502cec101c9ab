import Multiplex.Proofs.Reopening

/-! Whether the closes of a channel have been answered when its number is handed out again. They
have, each by an answer that came after it, unless one of three things happened to the channel
before: the peer's close was acknowledged in place of the answer, it was closed a second time, or
an answer had come in before it was closed. -/

namespace Multiplex

abbrev Log := List (Operation × Event)

/-- Whether the session closes a channel with this, as asked or because it could not be opened. -/
def requestsClose (c : ChannelId) (x : Operation × Event) : Bool :=
  (x.1 = .acquire || x.1 = .closeChannel c) && x.2.sends c [.channelClose]

/-- Whether the answer to a close comes in. -/
def Event.answersClose (c : ChannelId) : Event → Bool
  | .pulled _ _ (.frame f) => f.channel = c && f.isMethod .channelCloseOk
  | .pulled _ _ .nothing | .pulled _ _ (.failed _) => false
  | .sent .. | .delivered .. | .refused _ | .reserved _ | .forgotten _ | .abandoned _ | .shut =>
    false

/-- Each close of a channel was followed by an answer of its own: from any moment on at least as
many answers came in as closes went out. -/
def AllAnswered (c : ChannelId) (log : Log) : Prop :=
  ∀ later, later <:+ log → later.countP (requestsClose c) ≤ later.countP (·.2.answersClose c)

def Within (c : ChannelId) (x : Operation × Event) : Prop :=
  x.2.ends c = false ∧ x.2 ≠ .reserved c

/-- Something happened to a channel that can leave a close of it without its answer. -/
inductive Irregular (c : ChannelId) (log : Log) : Prop
  /-- A close of the peer's was acknowledged, or was to be, after the channel had been closed. -/
  | crossed (before life after : Log) (op : Operation) (failure : Option LinkError)
    (split : log = before ++ life ++
      (op, .forgotten c) :: (op, .sent c .channelCloseOk failure) :: after)
    (alive : ∀ x ∈ life, Within c x) (asked : ∃ x ∈ life, requestsClose c x)
  | repeated (before between after : Log) (x y : Operation × Event)
    (split : log = before ++ x :: between ++ y :: after) (alive : ∀ z ∈ between, Within c z)
    (asked : requestsClose c x) (again : requestsClose c y)
  | early (before between after : Log) (x y : Operation × Event)
    (split : log = before ++ x :: between ++ y :: after) (alive : ∀ z ∈ between, Within c z)
    (answered : x.2.answersClose c) (asked : requestsClose c y)

/-- What happened up to now, from a reservation of the channel on or from the very beginning. -/
def Stretch (c : ChannelId) (log since : Log) : Prop :=
  since <:+ log ∧ (since = log ∨ ∃ op rest, since = (op, .reserved c) :: rest)

/-- In every such stretch the closes of the channel were answered, or something went wrong. -/
def Accounted (c : ChannelId) (log : Log) : Prop :=
  ∀ since, Stretch c log since → AllAnswered c since ∨ Irregular c since

section AllAnswered

variable {c : ChannelId} {log past life more : Log} {x : Operation × Event}

theorem Irregular.extend (h : Irregular c life) (before after : Log) :
    Irregular c (before ++ life ++ after) := by
  cases h with
  | crossed front life rest op failure split alive asked =>
    exact .crossed (before ++ front) life (rest ++ after) op failure (by simp [split]) alive asked
  | repeated front between rest x y split alive asked again =>
    exact .repeated (before ++ front) between (rest ++ after) x y (by simp [split]) alive asked
      again
  | early front between rest x y split alive answered asked =>
    exact .early (before ++ front) between (rest ++ after) x y (by simp [split]) alive answered
      asked

theorem Irregular.append (h : Irregular c log) (more : Log) : Irregular c (log ++ more) :=
  h.extend [] more

theorem exists_sent_of_requestsClose (h : requestsClose c x) :
    ∃ m, x.2 = .sent c m none ∧ m.id = .channelClose := by
  obtain ⟨op, e⟩ := x
  cases e <;> simp_all [requestsClose, Event.sends]

theorem unreserved_map {events : List Event} {op : Operation} (h : .reserved c ∉ events) :
    ∀ x ∈ events.map (op, ·), x.2 ≠ .reserved c := by
  refine List.forall_mem_map.mpr fun e he => ?_
  rintro (rfl : e = .reserved c)
  exact h he

theorem allAnswered_of_unasked (unasked : ∀ x ∈ log, requestsClose c x = false) :
    AllAnswered c log := by
  intro later suffix
  have none_asked : later.countP (requestsClose c) = 0 := by
    rw [List.countP_eq_zero]
    exact fun x hx => by simp [unasked x (suffix.subset hx)]
  omega

theorem AllAnswered.append (h : AllAnswered c past) (next : AllAnswered c more) :
    AllAnswered c (past ++ more) := by
  intro later suffix
  rcases List.suffix_or_suffix_of_suffix suffix (List.suffix_append past more) with
    recent | ⟨front, rfl⟩
  · exact next later recent
  · obtain ⟨sooner, split⟩ := suffix
    rw [← List.append_assoc] at split
    have first := h front ⟨sooner, List.append_cancel_right split⟩
    have second := next more (List.suffix_refl more)
    rw [List.countP_append, List.countP_append]
    omega

theorem allAnswered_cons (asked : requestsClose c x)
    (unasked : ∀ y ∈ more, requestsClose c y = false)
    (answered : ∃ y ∈ more, y.2.answersClose c) : AllAnswered c (x :: more) := by
  intro later suffix
  rcases List.suffix_cons_iff.mp suffix with rfl | recent
  · have none_asked : more.countP (requestsClose c) = 0 := by
      rw [List.countP_eq_zero]
      exact fun y hy => by simp [unasked y hy]
    have some_answered : 0 < more.countP (·.2.answersClose c) := List.countP_pos_iff.mpr answered
    rw [List.countP_cons, List.countP_cons, if_pos asked, none_asked]
    omega
  · exact allAnswered_of_unasked unasked later recent

theorem allAnswered_of_answered (alive : ∀ x ∈ life, Within c x)
    (answered : ∃ x ∈ life, x.2.answersClose c) : AllAnswered c life ∨ Irregular c life := by
  cases first : life.find? (requestsClose c) with
  | none =>
    refine .inl (allAnswered_of_unasked ?_)
    simpa using List.find?_eq_none.mp first
  | some x =>
    obtain ⟨asked, sooner, later, rfl, unasked⟩ := List.find?_eq_some_iff_append.mp first
    have unasked : ∀ y ∈ sooner, requestsClose c y = false := by simpa using unasked
    by_cases again : ∃ y ∈ later, requestsClose c y
    · obtain ⟨y, mem, again⟩ := again
      obtain ⟨between, rest, rfl⟩ := List.append_of_mem mem
      refine .inr (.repeated sooner between rest x y (by simp) ?_ asked again)
      exact fun z hz => alive z (by simp [hz])
    by_cases before : ∃ y ∈ sooner, y.2.answersClose c
    · obtain ⟨y, mem, answers⟩ := before
      obtain ⟨front, between, rfl⟩ := List.append_of_mem mem
      refine .inr (.early front between later y x (by simp) ?_ answers asked)
      exact fun z hz => alive z (by simp [hz])
    have answered : ∃ y ∈ later, y.2.answersClose c := by
      obtain ⟨y, mem, answers⟩ := answered
      refine ⟨y, ?_, answers⟩
      have unheard := (List.mem_append.mp mem).resolve_left fun early => before ⟨y, early, answers⟩
      refine (List.mem_cons.mp unheard).resolve_left ?_
      rintro rfl
      obtain ⟨m, sent, -⟩ := exists_sent_of_requestsClose asked
      simp [sent, Event.answersClose] at answers
    have silent : ∀ y ∈ later, requestsClose c y = false := by
      simpa using fun y hy asks => again ⟨y, hy, asks⟩
    exact .inl ((allAnswered_of_unasked unasked).append (allAnswered_cons asked silent answered))

theorem Stretch.concat {since : Log} (h : Stretch c (log ++ [x]) since) :
    (∃ sooner, Stretch c log sooner ∧ since = sooner ++ [x]) ∨ since = [x] ∧ x.2 = .reserved c := by
  obtain ⟨suffix, begins⟩ := h
  rcases List.suffix_concat_iff.mp suffix with rfl | ⟨sooner, rfl, tail⟩
  · simp at begins
  · rcases begins with whole | ⟨op, rest, reserved⟩
    · exact .inl ⟨sooner, ⟨tail, .inl (List.append_cancel_right whole)⟩, rfl⟩
    · cases sooner with
      | nil =>
        obtain ⟨rfl, -⟩ := List.cons.inj reserved
        exact .inr ⟨rfl, rfl⟩
      | cons y sooner =>
        obtain ⟨rfl, -⟩ := List.cons.inj reserved
        exact .inl ⟨_, ⟨tail, .inr ⟨op, sooner, rfl⟩⟩, rfl⟩

theorem Stretch.append {since : Log} (h : Stretch c (log ++ more) since)
    (unreserved : ∀ x ∈ more, x.2 ≠ .reserved c) :
    ∃ sooner, Stretch c log sooner ∧ since = sooner ++ more := by
  induction more generalizing log with
  | nil => exact ⟨since, by simpa using h, by simp⟩
  | cons x more ih =>
    rw [List.append_cons] at h
    obtain ⟨sooner, stretch, rfl⟩ := ih h fun y hy => unreserved y (.tail _ hy)
    rcases stretch.concat with ⟨sooner, earlier, rfl⟩ | ⟨-, reserved⟩
    · exact ⟨sooner, earlier, by simp⟩
    · exact absurd reserved (unreserved x (.head _))

end AllAnswered

namespace Session

section Lifetime

variable {c : ChannelId} {life : Log} {op : Operation} {k : Task} {past events : List Event}
  {s t : Session} {f : Frame}

/-- The lifetime of an open channel. Answers that are parked, or were handed over, came in during
it. -/
structure Lifetime (c : ChannelId) (life : Log) (s : Session) : Prop where
  within : ∀ x ∈ life, Within c x
  opened : s.isOpen c
  heard : ∀ f, f.isMethod .channelCloseOk →
    f ∈ (s.queue c).toList ∨ (∃ op, (op, .delivered c f) ∈ life) → ∃ x ∈ life, x.2.answersClose c

theorem Move.brought (h : Move k past s events t) (answer : f.isMethod .channelCloseOk)
    (got : f ∈ (t.queue c).toList ∨ .delivered c f ∈ events) :
    f ∈ (s.queue c).toList ∨ ∃ e ∈ events, e.answersClose c := by
  cases h with
  | hand wait g own opened empty =>
    refine got.imp id fun delivered => ?_
    obtain ⟨rfl, rfl⟩ : c = k.channel ∧ f = g := by simpa using delivered
    exact ⟨_, .head _, by simp [Event.answersClose, own, answer]⟩
  | park wait g t foreign routed =>
    have parked : f ∈ (t.queue c).toList := by simpa using got
    rcases route_eq_on routed with ⟨rfl, -⟩ | ⟨-, -, -, rfl⟩
    · exact .inl parked
    · rw [queue_setQueue] at parked
      split at parked
      · rename_i here
        subst here
        rw [Queue.toList_push, List.mem_append, List.mem_singleton] at parked
        refine parked.imp id ?_
        rintro rfl
        exact ⟨_, .head _, by simp [Event.answersClose, answer]⟩
      · exact .inl parked
  | unpark g rest opened queued =>
    left
    by_cases here : k.channel = c
    · subst here
      simp only [queue_setQueue, if_true] at got
      rw [queued, List.mem_cons]
      exact got.symm.imp (by simp) id
    · simpa [queue_setQueue, here, Ne.symm here] using got
  | acknowledge | conclude | abandon =>
    left
    by_cases here : k.channel = c <;> simp [here] at got
    exact got
  | shut | surrender => simp at got
  | _ => exact .inl (by simpa using got)

theorem Lifetime.move (h : Lifetime c life s) (move : Move k past s events t)
    (unended : ∀ e ∈ events, e.ends c = false) :
    Lifetime c (life ++ events.map (op, ·)) t where
  within := by
    refine List.forall_mem_append.mpr ⟨h.within, fun x hx => ⟨?_, ?_⟩⟩
    · obtain ⟨e, he, rfl⟩ := List.mem_map.mp hx
      exact unended e he
    · exact unreserved_map move.unreserved x hx
  opened := move.isOpen h.opened unended
  heard f answer got := by
    have earlier (got : f ∈ (s.queue c).toList ∨ ∃ op, (op, .delivered c f) ∈ life) :
        ∃ x ∈ life ++ events.map (op, ·), x.2.answersClose c := by
      obtain ⟨x, mem, answers⟩ := h.heard f answer got
      exact ⟨x, List.mem_append_left _ mem, answers⟩
    have now (got : f ∈ (t.queue c).toList ∨ .delivered c f ∈ events) :
        ∃ x ∈ life ++ events.map (op, ·), x.2.answersClose c := by
      rcases move.brought answer got with parked | ⟨e, mem, answers⟩
      · exact earlier (.inl parked)
      · exact ⟨(op, e), List.mem_append_right _ (List.mem_map_of_mem mem), answers⟩
    rcases got with parked | ⟨op', delivered⟩
    · exact now (.inl parked)
    · rcases List.mem_append.mp delivered with before | recently
      · exact earlier (.inr ⟨op', before⟩)
      · obtain ⟨e, mem, same⟩ := List.mem_map.mp recently
        obtain ⟨rfl, rfl⟩ := Prod.mk.inj same
        exact now (.inr mem)

end Lifetime

section Reckoning

variable {c d max : ChannelId} {log since older recent : Log} {op : Operation} {k : Task}
  {past events trace : List Event} {s t : Session}

/-- How things stand with the closes of a channel after the stretch `since`. `older` and `recent`
are its lifetime up to now, `recent` being what the operation that is under way has done. -/
inductive Reckoning (c : ChannelId) (since older recent : Log) (s : Session) : Prop
  | irregular (h : Irregular c since)
  | free (closed : s.isOpen c = false) (settled : AllAnswered c since)
  | living (before : Log) (split : since = before ++ (older ++ recent))
    (settled : AllAnswered c before) (alive : Lifetime c (older ++ recent) s)
  | lost (lost : s.connection = .closed)

theorem unasked_of_unclosed (unclosed : ∀ m, .sent c m none ∈ events → m.id ≠ .channelClose) :
    ∀ x ∈ events.map (op, ·), requestsClose c x = false := by
  refine List.forall_mem_map.mpr fun e he => ?_
  rw [← Bool.not_eq_true]
  intro asks
  obtain ⟨m, rfl, id⟩ : ∃ m, e = .sent c m none ∧ _ := exists_sent_of_requestsClose asks
  exact unclosed m he id

namespace Reckoning

theorem move (h : Reckoning c since older recent s) (nonzero : c ≠ .connection)
    (delivered : ∀ f, .delivered c f ∈ past → (op, .delivered c f) ∈ recent)
    (fresh : .reserved c ∈ past → older = [] ∧ ∀ x ∈ recent, requestsClose c x →
      ∃ m failure, .sent c m failure ∈ past ∧ m.id = .channelClose)
    (move : Move k past s events t) :
    Reckoning c (since ++ events.map (op, ·)) older (recent ++ events.map (op, ·)) t := by
  cases h with
  | irregular h => exact .irregular (h.append _)
  | lost lost => exact .lost (move.connection.elim (·.trans lost) (·.closed))
  | free closed settled =>
    refine .free (move.isOpen_eq_false nonzero closed) (settled.append (allAnswered_of_unasked ?_))
    exact unasked_of_unclosed fun m sent => absurd sent (move.unsent nonzero closed m none)
  | living before split settled alive =>
    have goes_on (unended : ∀ e ∈ events, e.ends c = false) :
        Reckoning c (since ++ events.map (op, ·)) older (recent ++ events.map (op, ·)) t := by
      have alive : Lifetime c (older ++ recent ++ events.map (op, ·)) t := alive.move move unended
      exact .living before (by simp [split]) settled (by simpa using alive)
    have ended (closed : t.isOpen c = false)
        (unclosed : ∀ m, .sent c m none ∈ events → m.id ≠ .channelClose)
        (life : AllAnswered c (older ++ recent) ∨ Irregular c (older ++ recent)) :
        Reckoning c (since ++ events.map (op, ·)) older (recent ++ events.map (op, ·)) t := by
      rw [split]
      rcases life with answered | irregular
      · have quiet : AllAnswered c (events.map (op, ·)) :=
          allAnswered_of_unasked (unasked_of_unclosed unclosed)
        exact .free closed ((settled.append answered).append quiet)
      · exact .irregular (irregular.extend before _)
    cases move with
    | acknowledge failure there opened =>
      by_cases here : k.channel = c
      · subst here
        by_cases asked : ∃ x ∈ older ++ recent, requestsClose k.channel x
        · refine .irregular (.crossed before (older ++ recent) [] op failure ?_ alive.within asked)
          simp [split]
        · have acknowledges : MethodId.channelCloseOk ≠ .channelClose := by decide
          refine ended (by simp) ?_ (.inl (allAnswered_of_unasked fun x hx => ?_))
          · simp [Method.channelCloseOk, Method.bare, acknowledges]
          · simpa using fun asks => asked ⟨x, hx, asks⟩
      · exact goes_on (by simp [Event.ends, here])
    | conclude there opened asked answered =>
      by_cases here : k.channel = c
      · subst here
        refine ended (by simp) (by simp) ?_
        obtain ⟨f, handed, answer⟩ := answered
        refine allAnswered_of_answered alive.within (alive.heard f answer (.inr ⟨op, ?_⟩))
        exact List.mem_append_right _ (delivered f handed)
      · exact goes_on (by simp [Event.ends, here])
    | abandon there opened unused failed taken unclosed =>
      by_cases here : k.channel = c
      · subst here
        obtain ⟨rfl, unasked⟩ := fresh taken
        refine ended (by simp) (by simp) (.inl (allAnswered_of_unasked fun x hx => ?_))
        rw [← Bool.not_eq_true]
        intro asks
        obtain ⟨m, failure, sent, id⟩ := unasked x hx asks
        exact unclosed m failure sent id
      · exact goes_on (by simp [Event.ends, here])
    | shut | surrender => exact .lost rfl
    | _ => exact goes_on (by simp [Event.ends])

theorem moves (h : Reckoning c since older [] s) (nonzero : c ≠ .connection)
    (plain : ∀ f, .delivered c f ∉ past) (fresh : .reserved c ∈ past → older = [])
    (moves : Moves k past s trace t) :
    Reckoning c (since ++ trace.map (op, ·)) older (trace.map (op, ·)) t := by
  induction moves with
  | none => simpa using h
  | snoc before move ih =>
    rename_i trace events t u
    rw [List.map_append, ← List.append_assoc]
    refine ih.move nonzero (fun f handed => ?_) (fun reserved => ?_) move
    · have handed := (List.mem_append.mp handed).resolve_left (plain f)
      exact List.mem_map_of_mem handed
    · have taken := (List.mem_append.mp reserved).resolve_right before.unreserved
      refine ⟨fresh taken, List.forall_mem_map.mpr fun e he asks => ?_⟩
      obtain ⟨m, rfl, id⟩ : ∃ m, e = .sent c m none ∧ _ := exists_sent_of_requestsClose asks
      exact ⟨m, none, List.mem_append_right _ he, id⟩

theorem rest (h : Reckoning c since older recent s) : Reckoning c since (older ++ recent) [] s := by
  cases h with
  | irregular h => exact .irregular h
  | free closed settled => exact .free closed settled
  | lost lost => exact .lost lost
  | living before split settled alive =>
    exact .living before (by simp [split]) settled (by simpa using alive)

theorem same (h : Reckoning c since older recent s) (isOpen : t.isOpen c = s.isOpen c)
    (queue : t.queue c = s.queue c) (connection : s.connection = .closed → t.connection = .closed) :
    Reckoning c since older recent t := by
  cases h with
  | irregular h => exact .irregular h
  | free closed settled => exact .free (isOpen.trans closed) settled
  | lost lost => exact .lost (connection lost)
  | living before split settled alive =>
    exact .living before split settled
      ⟨alive.within, isOpen.trans alive.opened, queue ▸ alive.heard⟩

theorem settled (h : Reckoning c since older recent s) (usable : s.connection = .open)
    (closed : s.isOpen c = false) : AllAnswered c since ∨ Irregular c since := by
  cases h with
  | irregular h => exact .inr h
  | free _ settled => exact .inl settled
  | lost lost => simp [usable] at lost
  | living before split settled alive => simp [alive.opened] at closed

theorem hold_other (h : Reckoning c since older [] s) (other : d ≠ c) :
    Reckoning c (since ++ [(op, .reserved d)]) (older ++ [(op, .reserved d)]) [] (s.hold d) := by
  have plain : ∀ x ∈ [(op, Event.reserved d)], requestsClose c x = false := by
    simp [requestsClose, Event.sends]
  cases h with
  | irregular h => exact .irregular (h.append _)
  | free closed settled =>
    exact .free (by simp [closed, other]) (settled.append (allAnswered_of_unasked plain))
  | lost lost => exact .lost lost
  | living before split settled alive =>
    refine .living before (by simp [split]) settled ⟨?_, by simp [alive.opened], ?_⟩
    · have within := alive.within
      simp only [List.append_nil] at within ⊢
      exact List.forall_mem_append.mpr ⟨within, by simp [Within, Event.ends, other]⟩
    · intro f answer got
      obtain ⟨x, mem, answers⟩ := alive.heard f answer (by simpa [other] using got)
      exact ⟨x, by simpa using .inl (by simpa using mem), answers⟩

theorem hold_own (settled : AllAnswered c since ∨ Irregular c since) :
    Reckoning c (since ++ [(op, .reserved c)]) [] [] (s.hold c) := by
  rcases settled with answered | irregular
  · have plain : ∀ x ∈ [(op, Event.reserved c)], requestsClose c x = false := by
      simp [requestsClose, Event.sends]
    exact .living (since ++ [(op, .reserved c)]) (by simp)
      (answered.append (allAnswered_of_unasked plain)) ⟨by simp, by simp, by simp⟩
  · exact .irregular (irregular.append _)

end Reckoning

def Reckoned (c : ChannelId) (log older : Log) (s : Session) : Prop :=
  ∀ since, Stretch c log since → Reckoning c since older [] s

namespace Reckoned

theorem accounted (h : Reckoned c log older s) (usable : s.connection = .open)
    (closed : s.isOpen c = false) : Accounted c log := fun since stretch =>
  (h since stretch).settled usable closed

theorem moves (h : Reckoned c log older s) (nonzero : c ≠ .connection)
    (plain : ∀ f, .delivered c f ∉ past) (fresh : .reserved c ∈ past → older = [])
    (moves : Moves k past s trace t) :
    Reckoned c (log ++ trace.map (op, ·)) (older ++ trace.map (op, ·)) t := by
  intro since stretch
  obtain ⟨sooner, earlier, rfl⟩ := stretch.append (unreserved_map moves.unreserved)
  exact ((h sooner earlier).moves nonzero plain fresh moves).rest

theorem hold (h : Reckoned c log older s) (usable : s.connection = .open)
    (free : s.isOpen d = false) :
    ∃ older, Reckoned c (log ++ [(op, .reserved d)]) older (s.hold d) ∧ (d = c → older = []) := by
  by_cases here : d = c
  · subst here
    refine ⟨[], fun since stretch => ?_, fun _ => rfl⟩
    rcases stretch.concat with ⟨sooner, earlier, rfl⟩ | ⟨rfl, -⟩
    · exact .hold_own (h.accounted usable free sooner earlier)
    · have begun : Reckoning d ([] ++ [(op, .reserved d)]) [] [] (s.hold d) :=
        .hold_own (.inl (allAnswered_of_unasked (by simp)))
      exact begun
  · refine ⟨older ++ [(op, .reserved d)], fun since stretch => ?_, fun same => absurd same here⟩
    obtain ⟨sooner, earlier, rfl⟩ := stretch.append (by simpa using here)
    exact (h sooner earlier).hold_other here

theorem course {σ : Type} {o : Outcome σ Reply} (h : Reckoned c log older s)
    (nonzero : c ≠ .connection) (positive : max ≠ 0) (course : Course max s op o) :
    ∃ older, Reckoned c (log ++ o.trace.map (op, ·)) older o.session := by
  cases course with
  | refused | found | registered | unregistered | released | reused =>
    rw [List.map_nil, List.append_nil]
    exact ⟨older, fun since stretch => (h since stretch).same rfl rfl id⟩
  | reserved d o usable unused free work =>
    have closed := (reservable_eq_some positive free).2.1
    obtain ⟨older, held, own⟩ : ∃ older, Reckoned c (log ++ [(.acquire, .reserved d)]) older
        (s.hold d) ∧ (d = c → older = []) := h.hold usable closed
    have after : Reckoned c (log ++ [(.acquire, .reserved d)] ++ o.trace.map (.acquire, ·)) _
        o.session :=
      held.moves nonzero (by simp) (fun taken => own (by simpa [eq_comm] using taken)) work.moves
    exact ⟨_, by simpa using after⟩
  | worked op k o task work => exact ⟨_, h.moves nonzero (by simp) (by simp) work.moves⟩
  | closed o usable work shut =>
    have closing : Reckoned c log older { s with connection := .closingLocal } :=
      fun since stretch => (h since stretch).same rfl rfl fun lost => by simp [usable] at lost
    exact ⟨_, closing.moves nonzero (by simp) (by simp) work⟩

end Reckoned
end Reckoning

theorem Course.unreserved {σ : Type} {max : ChannelId} {s : Session} {op : Operation}
    {o : Outcome σ Reply} (h : Course max s op o) (positive : max ≠ 0) :
    .reserved .connection ∉ o.trace := by
  cases h with
  | reserved d o usable unused free work =>
    have other := (reservable_eq_some positive free).2.2.1
    simpa [Ne.symm other] using work.moves.unreserved
  | worked op k o task work => exact work.moves.unreserved
  | closed o usable work => exact work.unreserved
  | _ => simp

def Ordered (c : ChannelId) (log : Log) : Prop :=
  ∀ past op future, log = past ++ (op, .reserved c) :: future → Accounted c past

section Ordered

variable {c max : ChannelId} {log older more : Log} {op : Operation} {s : Session}

theorem Ordered.concat {x : Operation × Event} (h : Ordered c log)
    (now : x.2 = .reserved c → Accounted c log) : Ordered c (log ++ [x]) := by
  intro past op future split
  rcases eq_append_cons_or split with ⟨rest, before⟩ | ⟨rest, rfl, last⟩
  · exact h past op rest before
  · obtain ⟨rfl, same⟩ : rest = [] ∧ x = (op, .reserved c) := by cases rest <;> simp_all
    simpa using now (congrArg Prod.snd same)

theorem Ordered.append (h : Ordered c log) (unreserved : ∀ x ∈ more, x.2 ≠ .reserved c) :
    Ordered c (log ++ more) := by
  intro past op future split
  rcases eq_append_cons_or split with ⟨rest, before⟩ | ⟨rest, -, now⟩
  · exact h past op rest before
  · exact absurd rfl (unreserved (op, .reserved c) (by simp [now]))

theorem Ordered.course {σ : Type} {o : Outcome σ Reply} (h : Ordered c log)
    (reckoned : Reckoned c log older s) (positive : max ≠ 0) (course : Course max s op o) :
    Ordered c (log ++ o.trace.map (op, ·)) := by
  cases course with
  | reserved d o usable unused free work =>
    have closed := (reservable_eq_some positive free).2.1
    rw [Outcome.trace_after, List.map_append, ← List.append_assoc]
    refine Ordered.append (h.concat ?_) (unreserved_map work.moves.unreserved)
    rintro ⟨⟩
    exact reckoned.accounted usable closed
  | worked op k o task work => exact h.append (unreserved_map work.moves.unreserved)
  | closed o usable work shut => exact h.append (unreserved_map work.unreserved)
  | _ => simpa using h

end Ordered

end Session

namespace Run

variable {σ : Type} [Link σ] {c : ChannelId}

theorem ordered_performAll (settings : Settings) (calls : List (Operation × σ))
    (nonzero : c ≠ .connection) :
    let r := (start settings).performAll calls
    Session.Ordered c r.log ∧ ∃ older, Session.Reckoned c r.log older r.session := by
  have nothing : (start settings).log = [] := rfl
  have initial : Session.Ordered c (start settings).log ∧
      ∃ older, Session.Reckoned c (start settings).log older (start settings).session := by
    rw [nothing]
    refine ⟨by simp [Session.Ordered], [], fun since stretch => ?_⟩
    obtain rfl := List.suffix_nil.mp stretch.1
    exact .free (by simp [start, nonzero]) (allAnswered_of_unasked (by simp))
  refine performAll_induction (P := fun r => Session.Ordered c r.log ∧
    ∃ older, Session.Reckoned c r.log older r.session) initial ?_
  rintro r op link - ⟨ordered, older, reckoned⟩
  rw [log_perform]
  have positive := ChannelId.bound_ne_zero (Link.channelMax link)
  have course := Session.course_perform op r.session link
  exact ⟨ordered.course reckoned positive course, reckoned.course nonzero positive course⟩

theorem unreserved_performAll (settings : Settings) (calls : List (Operation × σ))
    (op : Operation) :
    (op, .reserved .connection) ∉ ((start settings).performAll calls).log := by
  apply performAll_induction (P := fun r => (op, .reserved .connection) ∉ r.log)
  · simp [start, log]
  · intro r op' link _ unreserved
    have positive := ChannelId.bound_ne_zero (Link.channelMax link)
    have course := Session.course_perform op' r.session link
    rw [log_perform, List.mem_append, not_or]
    refine ⟨unreserved, fun reserved => ?_⟩
    obtain ⟨e, mem, same⟩ := List.mem_map.mp reserved
    obtain ⟨-, rfl⟩ := Prod.mk.inj same
    exact course.unreserved positive mem

/-- When the number of a channel is handed out, every close that went out on it since it was handed
out before, or in all the time before, has been answered, unless something went wrong in that
time. -/
theorem answered_or_irregular (settings : Settings) (calls : List (Operation × σ))
    {past since future : Log} {op : Operation}
    (log : ((start settings).performAll calls).log = past ++ (op, .reserved c) :: future)
    (stretch : Stretch c past since) : AllAnswered c since ∨ Irregular c since := by
  have nonzero : c ≠ .connection := by
    rintro rfl
    exact unreserved_performAll settings calls op (by simp [log])
  exact (ordered_performAll settings calls nonzero).1 past op future log since stretch

/-- A broker with one channel closes it just when this side does, so that the closes cross; its
answer comes when the channel is opened again. -/
def crossing : List (Operation × Loopback) :=
  let broker incoming := { Loopback.start 1 with replies := Loopback.agreeable, incoming }
  [(.acquire, broker []),
   (.closeChannel 1, broker [.frame ⟨1, .method (.channelClose .normal)⟩]),
   (.acquire, broker [.frame ⟨1, .method .channelCloseOk⟩])]

def crossed : Log :=
  [(.acquire, .reserved 1), (.acquire, .sent 1 .channelOpen none),
   (.acquire, .pulled 1 none (.frame ⟨1, .method (.bare .channelOpenOk)⟩)),
   (.acquire, .delivered 1 ⟨1, .method (.bare .channelOpenOk)⟩),
   (.acquire, .sent 1 (.confirmSelect false) none),
   (.acquire, .pulled 1 none (.frame ⟨1, .method (.bare .confirmSelectOk)⟩)),
   (.acquire, .delivered 1 ⟨1, .method (.bare .confirmSelectOk)⟩),
   (.closeChannel 1, .sent 1 (.channelClose .normal) none),
   (.closeChannel 1, .pulled 1 none (.frame ⟨1, .method (.channelClose .normal)⟩)),
   (.closeChannel 1, .delivered 1 ⟨1, .method (.channelClose .normal)⟩),
   (.closeChannel 1, .forgotten 1), (.closeChannel 1, .sent 1 .channelCloseOk none)]

theorem not_allAnswered_crossed : ¬ AllAnswered 1 crossed := fun answered =>
  absurd (answered (crossed.drop 7) (List.drop_suffix 7 crossed)) (by decide)

theorem log_crossing : ∃ future,
    ((start { Settings.standard with unexpectedReply := .fail }).performAll crossing).log =
      crossed ++ (.acquire, .reserved 1) :: future :=
  ⟨(((start { Settings.standard with unexpectedReply := .fail }).performAll crossing).log).drop 13,
    by decide +kernel⟩

theorem irregular_crossing : ∃ future,
    ((start { Settings.standard with unexpectedReply := .fail }).performAll crossing).log =
      crossed ++ (.acquire, .reserved 1) :: future ∧ Stretch 1 crossed crossed ∧
      Irregular 1 crossed := by
  obtain ⟨future, log⟩ := log_crossing
  have stretch : Stretch 1 crossed crossed := ⟨List.suffix_refl _, .inl rfl⟩
  have either := answered_or_irregular _ crossing log stretch
  exact ⟨future, log, stretch, either.resolve_left not_allAnswered_crossed⟩

/-- The number is handed out while the close waits for its answer, and the answer that comes then
makes the opening fail. -/
theorem unanswered_crossing :
    let r := (start { Settings.standard with unexpectedReply := .fail }).performAll crossing
    (∃ future, r.log = crossed ++ (.acquire, .reserved 1) :: future) ∧ ¬ AllAnswered 1 crossed ∧
    r.turns.map (·.result) = [.ok (.channel 1), .ok .done,
      .error (.unexpectedMethod 1 .channelCloseOk "channel.open")] :=
  ⟨log_crossing, not_allAnswered_crossed, by decide +kernel⟩

end Run
end Multiplex
