/-! What can go wrong between octets and frames, by cause, with one text for each. -/

namespace Multiplex

inductive IoKind
  | interrupted | wouldBlock | timedOut | brokenPipe | connectionReset | notFound
  | permissionDenied | unexpectedEof | invalidData | invalidInput | other
  deriving DecidableEq

structure IoError where
  kind : IoKind
  message : String
  deriving DecidableEq

inductive ArgumentField
  | replyCode | replyText | classId | methodId | exchange | routingKey
  deriving DecidableEq

def ArgumentField.name : ArgumentField → String
  | replyCode => "reply-code"
  | replyText => "reply-text"
  | classId => "class-id"
  | methodId => "method-id"
  | exchange => "exchange"
  | routingKey => "routing-key"

/-- Why a payload of a known type is not one. -/
inductive Malformation
  | methodPayload (size : Nat)
  | headerPayload (size : Nat)
  | truncatedAt (field : ArgumentField)
  | described (text : String)
  deriving DecidableEq

def Malformation.message : Malformation → String
  | methodPayload size => s!"method frame payload of {size} bytes"
  | headerPayload size => s!"header frame payload of {size} bytes"
  | truncatedAt field => s!"method arguments truncated at {field.name}"
  | described text => text

inductive FrameError
  | invalidType (octet : UInt8)
  | missingEnd (octet : UInt8)
  | tooLarge (size limit : Nat)
  | malformed (cause : Malformation)
  | io (cause : IoError)
  | connectionClosed
  deriving DecidableEq

namespace FrameError

def hex (b : UInt8) : String :=
  String.ofList [(Nat.digitChar (b.toNat / 16)).toUpper, (Nat.digitChar (b.toNat % 16)).toUpper]

def message : FrameError → String
  | invalidType octet => s!"invalid frame type {octet}"
  | missingEnd octet => s!"missing frame end (expected 0xCE, got 0x{hex octet})"
  | tooLarge size limit => s!"frame too large ({size} bytes, max {limit})"
  | malformed cause => s!"malformed payload: {cause.message}"
  | io cause => s!"frame I/O error: {cause.message}"
  | connectionClosed => "connection closed (incomplete frame)"

end FrameError
end Multiplex
