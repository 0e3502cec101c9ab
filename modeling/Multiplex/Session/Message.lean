import Multiplex.Method.Arguments

/-! Messages put together from a content header and the body frames behind it. -/

namespace Multiplex

structure Message where
  classId : UInt16
  /-- Property flags and property list, still encoded. -/
  properties : Octets
  body : Octets
  deriving DecidableEq

/-- A published message that the broker could not route, with its reason. -/
structure ReturnedMessage where
  reason : ReturnReason
  message : Message
  deriving DecidableEq

def ReturnedMessage.label (r : ReturnedMessage) : String :=
  s!"{r.reason.code} {r.reason.text} " ++
    s!"(exchange '{r.reason.exchange}', routing key '{r.reason.routingKey}')"

end Multiplex
