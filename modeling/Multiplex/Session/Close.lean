import Multiplex.Session.Receive

/-! Closes that this side begins. Frames that were under way are thrown off until the peer has
answered. A close of the peer's that crosses ours is acknowledged and counts as the answer. -/

namespace Multiplex
namespace Session

variable {σ : Type} [Link σ]
open Multiplex.Action

def dropUntil (answer : MethodId) (_ : Unit) (f : Frame) : Step Unit Unit :=
  if f.isMethod answer then .done () else .more ()

section DropUntil

variable {answer : MethodId} {b : Unit} {f : Frame}

theorem isMethod_of_dropUntil {a : Unit} (h : dropUntil answer b f = .done a) :
    f.isMethod answer := by
  unfold dropUntil at h
  split at h
  · assumption
  · cases h

theorem dropUntil_ne_failed {e : SessionError} : dropUntil answer b f ≠ .failed e := by
  unfold dropUntil
  split <;> simp

end DropUntil

def awaitChannelCloseOk (channel : ChannelId) : Action σ Unit where
  run s link := collect channel "channel.close" (dropUntil .channelCloseOk) () s link

def closeChannel (channel : ChannelId) : Action σ Unit := do
  requireOpen
  let s ← session
  if channel = .connection then fail (.invalidChannel channel)
  else if s.isOpen channel then
    send channel (.channelClose .normal) "channel.close"
    (awaitChannelCloseOk channel).settle fun
      | .ok () => change (·.forget channel) [.forgotten channel]
      | .error (.channelClosedByPeer closed reason context) =>
        if closed = channel then pure () else fail (.channelClosedByPeer closed reason context)
      | .error e => fail e
  else fail (.channelNotFound channel)

theorem run_closeChannel {channel : ChannelId} {s : Session} (usable : s.connection = .open)
    (nonzero : channel ≠ .connection) (opened : s.isOpen channel) (link : σ) :
    (closeChannel channel).run s link =
      (send channel (.channelClose .normal) "channel.close" >>= fun _ =>
        (awaitChannelCloseOk channel).settle fun
          | .ok () => change (·.forget channel) [.forgotten channel]
          | .error (.channelClosedByPeer closed reason context) =>
            if closed = channel then pure ()
            else fail (.channelClosedByPeer closed reason context)
          | .error e => fail e).run s link := by
  unfold closeChannel
  rw [run_requireOpen_bind usable, run_session_bind, if_neg nonzero, if_pos opened]

def awaitConnectionCloseOk : Action σ Unit where
  run s link := collect .connection "connection.close" (dropUntil .connectionCloseOk) () s link

def exchangeCloses : Action σ Unit := do
  send .connection (.connectionClose .normal) "connection.close"
  awaitConnectionCloseOk
  change shut [.shut]

/-- If the exchange could not be completed the connection counts as closed all the same. -/
def closeRegardless : Except SessionError Unit → Action σ Unit
  | .ok () => pure ()
  | .error (.connectionClosedByPeer _ _) => pure ()
  | .error e => do
    change shut [.shut]
    fail e

/-- Close the connection and wait for the answer. -/
def closeConnection : Action σ Unit := do
  requireOpen
  change ({ · with connection := .closingLocal }) []
  exchangeCloses.settle closeRegardless

theorem run_closeConnection {s : Session} (usable : s.connection = .open) (link : σ) :
    closeConnection.run s link =
      (exchangeCloses.settle closeRegardless).run { s with connection := .closingLocal } link := by
  unfold closeConnection
  rw [run_requireOpen_bind usable, run_change_bind, Outcome.after_nil]

end Session
end Multiplex
