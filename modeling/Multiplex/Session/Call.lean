import Multiplex.Session.Receive

/-! Requests: a method goes out on a channel and one of the expected replies comes back. -/

namespace Multiplex
namespace Session

variable {σ : Type} [Link σ]
open Multiplex.Action

/-- Take an expected reply. What to do about anything else is a setting. -/
def takeReply (policy : UnexpectedReply) (channel : ChannelId) (context : String)
    (expected : List MethodId) (_ : Unit) (f : Frame) : Step Unit Method :=
  match f.method? with
  | some m =>
    if m.id ∈ expected then .done m
    else
      match policy with
      | .ignore => .more ()
      | .fail => .failed (.unexpectedMethod channel m.id context)
  | none =>
    match policy with
    | .ignore => .more ()
    | .fail => .failed (.unexpectedFrame channel .method f.kind)

def awaitReply (channel : ChannelId) (context : String) (expected : List MethodId) :
    Action σ Method where
  run s link :=
    collect channel context (takeReply s.settings.unexpectedReply channel context expected) () s
      link

/-- A close in place of the reply is the broker's refusal. -/
def orRejected (context : String) : Except SessionError Method → Action σ Method
  | .ok reply => pure reply
  | .error e => fail (e.asRejection context)

omit [Link σ] in
theorem run_orRejected (context : String) (r : Except SessionError Method) (s : Session)
    (link : σ) : (orRejected context r).run s link =
      ⟨r.mapError (·.asRejection context), [], s, link⟩ := by
  cases r <;> rfl

def call (channel : ChannelId) (method : Method) (expected : List MethodId) :
    Action σ Method := do
  requireOpen
  let s ← session
  if s.isOpen channel then
    send channel method method.id.name
    (awaitReply channel method.id.name expected).settle (orRejected method.id.name)
  else fail (.channelNotFound channel)

theorem run_call {channel : ChannelId} {s : Session} (usable : s.connection = .open)
    (opened : s.isOpen channel) (method : Method) (expected : List MethodId) (link : σ) :
    (call channel method expected).run s link =
      (send channel method method.id.name >>= fun _ =>
        (awaitReply channel method.id.name expected).settle
          (orRejected method.id.name)).run s link := by
  unfold call
  rw [run_requireOpen_bind usable, run_session_bind, if_pos opened]

end Session
end Multiplex
