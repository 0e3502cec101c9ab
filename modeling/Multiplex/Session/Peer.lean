import Multiplex.Session.Action

/-! Closes that come from the peer. They are acknowledged at once, whatever the session was doing,
and the reader that met one gets it as an error instead of a frame. -/

namespace Multiplex
namespace Session

variable {σ : Type} [Link σ]
open Multiplex.Action

/-- Acknowledge the peer's close of a channel and erase the channel. -/
def finishChannel (channel : ChannelId) : Action σ Unit := do
  let s ← session
  if channel = .connection then fail (.invalidChannel channel)
  else if s.isOpen channel then
    change (·.forget channel) [.forgotten channel]
    send channel .channelCloseOk "channel.close-ok"
  else fail (.channelNotFound channel)

theorem run_finishChannel {channel : ChannelId} {s : Session} {link : σ}
    (nonzero : channel ≠ .connection) (opened : s.isOpen channel) :
    (finishChannel channel).run s link =
      ((send channel .channelCloseOk "channel.close-ok").run (s.forget channel) link).after
        [.forgotten channel] := by
  simp [finishChannel, nonzero, opened]

/-- Acknowledge the peer's close of the connection and erase every channel. -/
def finishConnection : Action σ Unit := do
  let s ← session
  if s.connection = .closed then fail .connectionClosed
  else
    change shut [.shut]
    send .connection .connectionCloseOk "connection.close-ok"

theorem run_finishConnection {s : Session} {link : σ} (h : s.connection ≠ .closed) :
    finishConnection.run s link =
      ((send .connection .connectionCloseOk "connection.close-ok").run s.shut link).after
        [.shut] := by
  simp [finishConnection, h]

def closedChannel (channel : ChannelId) (close : Method) (context : String) : Action σ α := do
  finishChannel channel
  match CloseReason.decode close.args with
  | .ok reason => fail (.channelClosedByPeer channel reason context)
  | .error e => fail (.malformedMethod close.id e)

def closedConnection (close : Method) (context : String) : Action σ α := do
  change ({ · with connection := .closingRemote }) []
  finishConnection
  match CloseReason.decode close.args with
  | .ok reason => fail (.connectionClosedByPeer reason context)
  | .error e => fail (.malformedMethod close.id e)

/-- That the connection counts as closing does not show: it is closed at once. -/
theorem run_closedConnection {close : Method} {context : String} {s : Session} {link : σ} :
    (closedConnection close context : Action σ α).run s link =
      ((send .connection .connectionCloseOk "connection.close-ok" >>= fun _ =>
        match CloseReason.decode close.args with
        | .ok reason => fail (.connectionClosedByPeer reason context)
        | .error e => fail (.malformedMethod close.id e)).run s.shut link).after [.shut] := by
  unfold closedConnection
  rw [run_change_bind, Outcome.after_nil]
  exact run_bind_of_after (run_finishConnection (by simp))

/-- Pass a frame on, unless it is a close of the channel it was read on or of the connection. -/
def checkFrame (channel : ChannelId) (f : Frame) (context : String) : Action σ Frame :=
  match f.method? with
  | some m =>
    if m.id = .channelClose ∧ channel ≠ .connection then closedChannel channel m context
    else if m.id = .connectionClose then closedConnection m context
    else pure f
  | none => pure f

end Session
end Multiplex
