import Multiplex.Channel
import Multiplex.Method

/-! Frames: the units a connection is made of. Each belongs to one channel and carries a method,
a content header, a piece of a body, or nothing. -/

namespace Multiplex

/-- Announces how many octets of body follow it. -/
structure ContentHeader where
  classId : UInt16
  bodySize : UInt64
  /-- Property flags and property list, still encoded. -/
  properties : Octets
  deriving DecidableEq

inductive Payload
  | method (m : Method)
  | header (h : ContentHeader)
  | body (fragment : Octets)
  | heartbeat
  deriving DecidableEq

inductive FrameKind
  | method | header | body | heartbeat
  deriving DecidableEq

def FrameKind.label : FrameKind → String
  | method => "method"
  | header => "header"
  | body => "body"
  | heartbeat => "heartbeat"

def Payload.kind : Payload → FrameKind
  | method _ => .method
  | header _ => .header
  | body _ => .body
  | heartbeat => .heartbeat

structure Frame where
  channel : ChannelId
  payload : Payload
  deriving DecidableEq

namespace Frame

def kind (f : Frame) : FrameKind := f.payload.kind

def method? (f : Frame) : Option Method :=
  match f.payload with
  | .method m => some m
  | _ => none

def methodId? (f : Frame) : Option MethodId := f.method?.map (·.id)

def isMethod (f : Frame) (id : MethodId) : Bool := f.methodId? = some id

end Frame
end Multiplex
