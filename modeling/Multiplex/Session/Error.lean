import Multiplex.Link
import Multiplex.Method.Arguments
import Multiplex.Session.Message

/-! The ways a session operation fails, by cause. `isFatal` says whether the connection is lost
with it. -/

namespace Multiplex

inductive SessionError
  | link (context : String) (cause : LinkError)
  | tooManyChannels (max : ChannelId)
  | channelNotFound (channel : ChannelId)
  | invalidChannel (channel : ChannelId)
  | alreadyReleased (channel : ChannelId)
  | tagNotFound (tag : String)
  | duplicateTag (tag : String)
  | channelClosedByPeer (channel : ChannelId) (reason : CloseReason) (context : String)
  | connectionClosedByPeer (reason : CloseReason) (context : String)
  /-- The broker answered a request by closing its channel. -/
  | serverRejected (channel : ChannelId) (reason : CloseReason) (context : String)
  /-- The broker answered a request by closing the connection. -/
  | connectionRejected (reason : CloseReason) (context : String)
  | unexpectedFrame (channel : ChannelId) (expected actual : FrameKind)
  | unexpectedMethod (channel : ChannelId) (actual : MethodId) (context : String)
  | bodyOverflow (channel : ChannelId) (declared received : Nat)
  | emptyReply (channel : ChannelId) (context : String)
  | malformedMethod (method : MethodId) (cause : FrameError)
  | bufferFull (channel : ChannelId)
  | messageReturned (returned : ReturnedMessage)
  | connectionClosed
  | connectionClosing
  | lockPoisoned
  deriving DecidableEq

namespace SessionError

def message : SessionError → String
  | link context cause => s!"{context}: {cause.message}"
  | tooManyChannels max => s!"too many channels open (max {max})"
  | channelNotFound channel => s!"channel {channel} not found"
  | invalidChannel channel => s!"operation not valid on channel {channel}"
  | alreadyReleased channel => s!"channel {channel} already released"
  | tagNotFound tag => s!"consumer tag '{tag}' not found"
  | duplicateTag tag => s!"consumer tag '{tag}' already registered"
  | channelClosedByPeer channel reason context =>
    s!"{context}: channel {channel} closed by peer: {reason.label}"
  | connectionClosedByPeer reason context =>
    s!"{context}: connection closed by peer: {reason.label}"
  | serverRejected channel reason context =>
    s!"{context}: server rejected request on channel {channel}: {reason.label}"
  | connectionRejected reason context =>
    s!"{context}: connection rejected request: {reason.label}"
  | unexpectedFrame channel expected actual =>
    s!"channel {channel}: received unexpected {actual.label} frame (was expecting {expected.label})"
  | unexpectedMethod channel actual context =>
    s!"{context}: unexpected method {actual.label} on channel {channel}"
  | bodyOverflow channel declared received =>
    s!"channel {channel}: body overruns declared size ({received} of {declared} bytes)"
  | emptyReply channel context =>
    s!"{context}: engine returned no frame on channel {channel} without a timeout"
  | malformedMethod method cause => s!"malformed {method.label} arguments: {cause.message}"
  | bufferFull channel => s!"channel {channel} buffer full"
  | messageReturned returned => s!"message returned: {returned.label}"
  | connectionClosed => "connection is closed"
  | connectionClosing => "connection is closing"
  | lockPoisoned => "channel manager lock poisoned"

def closeReason? : SessionError → Option CloseReason
  | channelClosedByPeer _ reason _ => some reason
  | connectionClosedByPeer reason _ => some reason
  | serverRejected _ reason _ => some reason
  | connectionRejected reason _ => some reason
  | _ => none

def isPeerClose (e : SessionError) : Bool := e.closeReason?.isSome

/-- Whether the connection is of no further use to any channel. -/
def isFatal : SessionError → Bool
  | connectionClosedByPeer .. | connectionRejected .. | connectionClosed | connectionClosing
  | link .. => true
  | _ => false

/-- A close that arrives in place of a reply is the broker's answer to the request. -/
def asRejection (context : String) : SessionError → SessionError
  | channelClosedByPeer channel reason _ => serverRejected channel reason context
  | connectionClosedByPeer reason _ => connectionRejected reason context
  | e => e

@[simp] theorem isFatal_asRejection (context : String) (e : SessionError) :
    (e.asRejection context).isFatal = e.isFatal := by
  cases e <;> rfl

end SessionError
end Multiplex
