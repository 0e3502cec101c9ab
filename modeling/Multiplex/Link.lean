import Multiplex.Frame
import Multiplex.Frame.Error

/-! The link between a session and its broker: what a session needs from whatever carries frames.
A link is finite: every frame that comes in leaves less still to come, which is why waiting for
one ends. -/

namespace Multiplex

inductive SocketError
  | connect (address : String) (cause : IoError)
  | io (cause : IoError)
  | poll (cause : IoError)
  | shutDown
  deriving DecidableEq

def SocketError.message : SocketError → String
  | connect address cause => s!"failed to connect to {address}: {cause.message}"
  | io cause => s!"transport I/O error: {cause.message}"
  | poll cause => s!"error polling socket for readiness: {cause.message}"
  | shutDown => "transport shut down"

inductive LinkError
  | socket (cause : SocketError)
  | frame (cause : FrameError)
  deriving DecidableEq

def LinkError.message : LinkError → String
  | socket cause => s!"transport error: {cause.message}"
  | frame cause => s!"frame error: {cause.message}"

/-- A limit on a wait. The wait is over when the clock reads what it read at first and the limit on
top. A clock counts `2 ^ 63` seconds and has no later instant to tell; with its reading and the
limit each below half of that, there always is one at which the wait is over. -/
structure Limit where
  nanoseconds : Nat
  bounded : nanoseconds < 0x4000000000000000 * 1000000000
  deriving DecidableEq

/-- A plain number is a limit in milliseconds, or the longest limit there is. -/
instance : Coe Nat Limit where
  coe millis := ⟨min (millis * 1000000) (0x4000000000000000 * 1000000000 - 1), by omega⟩

instance (millis : Nat) : OfNat Limit millis where
  ofNat := (millis : Limit)

/-- How long a reader is willing to wait; `none` waits forever. -/
abbrev Timeout := Option Limit

/-- No clock is read: a limit of zero has run out as soon as anything else was done, any other limit
never has. One that does run out between two pulls ends the wait as a link does that brings nothing
from then on. -/
def Timeout.expired (t : Timeout) : Bool := t = some 0

inductive Pulled
  | frame (f : Frame)
  | nothing
  | failed (e : LinkError)
  deriving DecidableEq

class Link (σ : Type) where
  channelMax : σ → ChannelId
  send : σ → ChannelId → Method → Except LinkError Unit × σ
  pull : σ → Timeout → Pulled × σ
  /-- A hint that memory may be given back. -/
  releaseBuffers : σ → σ
  /-- Bounds the frames still to come before anything is sent. -/
  backlog : σ → Nat
  backlog_pull : ∀ link wait f, (pull link wait).1 = .frame f →
    backlog (pull link wait).2 < backlog link

theorem Link.backlog_lt_of_pull {σ : Type} [Link σ] {link link' : σ} {wait : Timeout} {f : Frame}
    (pulled : Link.pull link wait = (.frame f, link')) : Link.backlog link' < Link.backlog link := by
  have less := Link.backlog_pull link wait f (congrArg Prod.fst pulled)
  rwa [pulled] at less

end Multiplex
