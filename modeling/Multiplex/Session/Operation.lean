import Multiplex.Session.Acquire
import Multiplex.Session.Content

/-! The operations of a session as data, so that a whole history can be talked about. `perform`
gives each its meaning. -/

namespace Multiplex

inductive Operation
  | acquire
  | release (channel : ChannelId)
  | next (channel : ChannelId) (wait : Timeout)
  | call (channel : ChannelId) (method : Method) (expected : List MethodId)
  | readContent (channel : ChannelId)
  | readReturned (channel : ChannelId) (method : Method)
  | check (channel : ChannelId) (f : Frame) (context : String)
  | register (tag : String) (channel : ChannelId)
  | unregister (tag : String)
  | lookup (tag : String)
  | closeChannel (channel : ChannelId)
  | closeConnection
  | finishChannel (channel : ChannelId)
  | finishConnection
  deriving DecidableEq

inductive Reply
  | done
  | channel (c : ChannelId)
  | frame (f : Option Frame)
  | method (m : Method)
  | content (m : Message)
  | returned (r : ReturnedMessage)
  deriving DecidableEq

namespace Session

variable {σ : Type} [Link σ]
open Multiplex.Action

def register (tag : String) (channel : ChannelId) : Action σ Unit where
  run s link :=
    match s.consumers.register tag channel with
    | .ok consumers => ⟨.ok (), [], { s with consumers }, link⟩
    | .error e => ⟨.error e, [], s, link⟩

def unregister (tag : String) : Action σ ChannelId where
  run s link :=
    match s.consumers.unregister tag with
    | .ok (channel, consumers) => ⟨.ok channel, [], { s with consumers }, link⟩
    | .error e => ⟨.error e, [], s, link⟩

def perform : Operation → Action σ Reply
  | .acquire => .channel <$> acquire
  | .release channel => (fun _ => .done) <$> release channel
  | .next channel wait => .frame <$> next channel wait
  | .call channel method expected => .method <$> call channel method expected
  | .readContent channel => .content <$> readContent channel
  | .readReturned channel method => .returned <$> readReturned channel method
  | .check channel f context => (fun f => .frame (some f)) <$> checkFrame channel f context
  | .register tag channel => (fun _ => .done) <$> register tag channel
  | .unregister tag => .channel <$> unregister tag
  | .lookup tag => do
    let s ← session
    .channel <$> ofExcept (s.consumers.lookup tag)
  | .closeChannel channel => (fun _ => .done) <$> closeChannel channel
  | .closeConnection => (fun _ => .done) <$> closeConnection
  | .finishChannel channel => (fun _ => .done) <$> finishChannel channel
  | .finishConnection => (fun _ => .done) <$> finishConnection

end Session
end Multiplex
