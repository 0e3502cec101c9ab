import Multiplex.Session.State

/-! What a session operation does: from a session and its link to a result, the history of what
happened, and the session and link that it leaves. The history holds what went over the link and,
for the laws about the lifetime of a channel, when a channel came and went and who got which
frame. -/

namespace Multiplex

inductive Event
  /-- An attempt to send, with the link's failure if there was one. -/
  | sent (channel : ChannelId) (method : Method) (failure : Option LinkError)
  | pulled (reader : ChannelId) (wait : Timeout) (answer : Pulled)
  | delivered (channel : ChannelId) (f : Frame)
  /-- A frame found the queue of its channel full and was lost. -/
  | refused (f : Frame)
  | reserved (channel : ChannelId)
  /-- A channel was closed and everything about it erased. -/
  | forgotten (channel : ChannelId)
  /-- A reservation was given back without a close. -/
  | abandoned (channel : ChannelId)
  /-- The connection was closed and every channel with it. -/
  | shut
  deriving DecidableEq

instance decidableEqResult {ε α : Type} [DecidableEq ε] [DecidableEq α] : DecidableEq (Except ε α)
  | .ok a, .ok b => decidable_of_iff (a = b) (by simp)
  | .error d, .error e => decidable_of_iff (d = e) (by simp)
  | .ok _, .error _ => isFalse (by simp)
  | .error _, .ok _ => isFalse (by simp)

structure Outcome (σ α : Type) where
  result : Except SessionError α
  trace : List Event
  session : Session
  link : σ

namespace Outcome

def after (events : List Event) (o : Outcome σ α) : Outcome σ α :=
  { o with trace := events ++ o.trace }

variable (events : List Event) (o : Outcome σ α)

@[simp] theorem result_after : (o.after events).result = o.result := rfl
@[simp] theorem trace_after : (o.after events).trace = events ++ o.trace := rfl
@[simp] theorem session_after : (o.after events).session = o.session := rfl
@[simp] theorem link_after : (o.after events).link = o.link := rfl
@[simp] theorem after_nil : o.after [] = o := rfl
@[simp] theorem after_after (earlier : List Event) :
    (o.after events).after earlier = o.after (earlier ++ events) := by
  simp [after]

def map (f : α → β) (o : Outcome σ α) : Outcome σ β := { o with result := o.result.map f }

variable (f : α → β)

@[simp] theorem result_map : (o.map f).result = o.result.map f := rfl
@[simp] theorem trace_map : (o.map f).trace = o.trace := rfl
@[simp] theorem session_map : (o.map f).session = o.session := rfl

theorem map_after : (o.after events).map f = (o.map f).after events := rfl

variable {o f}

theorem result_of_map_ok {b : β} (h : (o.map f).result = .ok b) :
    ∃ a, o.result = .ok a ∧ f a = b := by
  cases hr : o.result <;> simp_all [Except.map]

theorem result_of_map_error {e : SessionError} (h : (o.map f).result = .error e) :
    o.result = .error e := by
  cases hr : o.result <;> simp_all [Except.map]

end Outcome

structure Action (σ α : Type) where
  run : Session → σ → Outcome σ α

namespace Action

/-- Go on where an action left off, whether it failed or not. -/
def settle (x : Action σ α) (next : Except SessionError α → Action σ β) : Action σ β where
  run s link := ((next (x.run s link).result).run (x.run s link).session (x.run s link).link).after
    (x.run s link).trace

def ofExcept (r : Except SessionError α) : Action σ α := ⟨fun s link => ⟨r, [], s, link⟩⟩

def fail (e : SessionError) : Action σ α := ofExcept (.error e)

/-- Go on where an action left off, unless it failed. -/
def andThen (x : Action σ α) (next : α → Action σ β) : Action σ β :=
  x.settle fun
    | .ok a => next a
    | .error e => fail e

instance : Monad (Action σ) where
  pure a := ofExcept (.ok a)
  bind := andThen

def session : Action σ Session := ⟨fun s link => ⟨.ok s, [], s, link⟩⟩

def record (events : List Event) : Action σ Unit := ⟨fun s link => ⟨.ok (), events, s, link⟩⟩

def change (f : Session → Session) (events : List Event) : Action σ Unit :=
  ⟨fun s link => ⟨.ok (), events, f s, link⟩⟩

@[simp] theorem run_ofExcept (r : Except SessionError α) (s : Session) (link : σ) :
    (ofExcept r : Action σ α).run s link = ⟨r, [], s, link⟩ := rfl

@[simp] theorem run_fail (e : SessionError) (s : Session) (link : σ) :
    (fail e : Action σ α).run s link = ⟨.error e, [], s, link⟩ := rfl

@[simp] theorem run_pure (a : α) (s : Session) (link : σ) :
    (pure a : Action σ α).run s link = ⟨.ok a, [], s, link⟩ := rfl

@[simp] theorem run_session (s : Session) (link : σ) :
    (session : Action σ Session).run s link = ⟨.ok s, [], s, link⟩ := rfl

@[simp] theorem run_change (f : Session → Session) (events : List Event) (s : Session) (link : σ) :
    (change f events : Action σ Unit).run s link = ⟨.ok (), events, f s, link⟩ := rfl

theorem run_settle (x : Action σ α) (next : Except SessionError α → Action σ β) (s : Session)
    (link : σ) : (x.settle next).run s link =
      ((next (x.run s link).result).run (x.run s link).session (x.run s link).link).after
        (x.run s link).trace := rfl

theorem run_map (f : α → β) (x : Action σ α) (s : Session) (link : σ) :
    (f <$> x).run s link = (x.run s link).map f := by
  change (x.andThen fun a => pure (f a)).run s link = _
  cases h : (x.run s link).result <;>
    simp [andThen, settle, h, Outcome.after, Outcome.map, Except.map]

theorem run_bind_of_ok {x : Action σ α} {next : α → Action σ β} {s : Session} {link : σ} {a : α}
    (h : (x.run s link).result = .ok a) :
    (x >>= next).run s link =
      ((next a).run (x.run s link).session (x.run s link).link).after (x.run s link).trace := by
  simp only [bind, andThen, settle, h]

theorem run_bind_of_error {x : Action σ α} {next : α → Action σ β} {s : Session} {link : σ}
    {e : SessionError} (h : (x.run s link).result = .error e) :
    (x >>= next).run s link =
      ⟨.error e, (x.run s link).trace, (x.run s link).session, (x.run s link).link⟩ := by
  simp [bind, andThen, settle, h, Outcome.after]

theorem run_bind_of_after {x y : Action σ α} {next : α → Action σ β} {s t : Session}
    {link link' : σ} {events : List Event} (h : x.run s link = (y.run t link').after events) :
    (x >>= next).run s link = ((y >>= next).run t link').after events := by
  cases hy : (y.run t link').result with
  | error e =>
    rw [run_bind_of_error hy, run_bind_of_error (by rw [h]; exact hy), h]
    rfl
  | ok a =>
    rw [run_bind_of_ok hy, run_bind_of_ok (by rw [h]; exact hy), h]
    simp

@[simp] theorem run_record_bind (events : List Event) (next : Unit → Action σ β) (s : Session)
    (link : σ) : (record events >>= next).run s link = ((next ()).run s link).after events := rfl

@[simp] theorem run_change_bind (f : Session → Session) (events : List Event)
    (next : Unit → Action σ β) (s : Session) (link : σ) :
    (change f events >>= next).run s link = ((next ()).run (f s) link).after events := rfl

@[simp] theorem run_session_bind (next : Session → Action σ β) (s : Session) (link : σ) :
    (session >>= next).run s link = (next s).run s link := rfl

/-- New work is taken only while the connection is fully open. -/
def requireOpen : Action σ Unit where
  run s link :=
    match s.connection with
    | .open => ⟨.ok (), [], s, link⟩
    | .closingLocal | .closingRemote => ⟨.error .connectionClosing, [], s, link⟩
    | .closed => ⟨.error .connectionClosed, [], s, link⟩

theorem run_requireOpen_bind {s : Session} (h : s.connection = .open) (next : Unit → Action σ β)
    (link : σ) : (requireOpen >>= next).run s link = (next ()).run s link := by
  have passed : (requireOpen : Action σ Unit).run s link = ⟨.ok (), [], s, link⟩ := by
    simp [requireOpen, h]
  rw [run_bind_of_ok (congrArg Outcome.result passed), passed]
  rfl

theorem run_requireOpen_bind_of_not {s : Session} (h : s.connection ≠ .open)
    (next : Unit → Action σ β) (link : σ) :
    ∃ e, (requireOpen >>= next).run s link = ⟨.error e, [], s, link⟩ ∧
      (e = .connectionClosing ∨ e = .connectionClosed ∧ s.connection = .closed) := by
  cases hc : s.connection with
  | «open» => exact absurd hc h
  | closed =>
    refine ⟨.connectionClosed, ?_, .inr ⟨rfl, rfl⟩⟩
    have barred : (requireOpen : Action σ Unit).run s link =
        ⟨.error .connectionClosed, [], s, link⟩ := by simp [requireOpen, hc]
    rw [run_bind_of_error (congrArg Outcome.result barred), barred]
  | _ =>
    refine ⟨.connectionClosing, ?_, .inl rfl⟩
    have barred : (requireOpen : Action σ Unit).run s link =
        ⟨.error .connectionClosing, [], s, link⟩ := by simp [requireOpen, hc]
    rw [run_bind_of_error (congrArg Outcome.result barred), barred]

variable [Link σ]

def send (channel : ChannelId) (method : Method) (context : String) : Action σ Unit where
  run s link :=
    match Link.send link channel method with
    | (.ok (), link) => ⟨.ok (), [.sent channel method none], s, link⟩
    | (.error e, link) =>
      ⟨.error (.link context e), [.sent channel method (some e)], s, link⟩

theorem run_send (channel : ChannelId) (method : Method) (context : String) (s : Session)
    (link : σ) :
    (∃ link', (send channel method context).run s link =
      ⟨.ok (), [.sent channel method none], s, link'⟩) ∨
    ∃ e link', (send channel method context).run s link =
      ⟨.error (.link context e), [.sent channel method (some e)], s, link'⟩ := by
  unfold send
  rcases h : Link.send link channel method with ⟨e | _, link'⟩
  · exact .inr ⟨e, link', by simp [h]⟩
  · exact .inl ⟨link', by simp [h]⟩

theorem run_send_of_ok {channel : ChannelId} {method : Method} {link : σ}
    (goes_out : (Link.send link channel method).1 = .ok ()) (context : String) (s : Session) :
    (send channel method context).run s link =
      ⟨.ok (), [.sent channel method none], s, (Link.send link channel method).2⟩ := by
  have answer : Link.send link channel method = (.ok (), (Link.send link channel method).2) :=
    Prod.ext goes_out rfl
  unfold send
  dsimp only
  rw [answer]

theorem run_send_of_error {channel : ChannelId} {method : Method} {link : σ} {cause : LinkError}
    (fails : (Link.send link channel method).1 = .error cause) (context : String) (s : Session) :
    (send channel method context).run s link =
      ⟨.error (.link context cause), [.sent channel method (some cause)], s,
        (Link.send link channel method).2⟩ := by
  have answer : Link.send link channel method =
      (.error cause, (Link.send link channel method).2) := Prod.ext fails rfl
  unfold send
  dsimp only
  rw [answer]

end Action
end Multiplex
