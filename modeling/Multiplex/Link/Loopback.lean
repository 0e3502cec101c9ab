import Multiplex.Link

/-! A link in memory. What comes in is a list of answers; a method that has an automatic reply
puts it at the end of that list, on the same channel. -/

namespace Multiplex

structure Loopback where
  advertised : ChannelId
  incoming : List Pulled
  replies : List (MethodId × Method)
  /-- While set, nothing can be sent. -/
  sendFailure : Option LinkError
  released : Nat

namespace Loopback

def start (advertised : ChannelId) : Loopback := ⟨advertised, [], [], none, 0⟩

def agreeable : List (MethodId × Method) :=
  [(.channelOpen, .bare .channelOpenOk),
   (.confirmSelect, .bare .confirmSelectOk),
   (.channelClose, .bare .channelCloseOk),
   (.connectionClose, .bare .connectionCloseOk)]

def push (l : Loopback) (answers : List Pulled) : Loopback :=
  { l with incoming := l.incoming ++ answers }

def send (l : Loopback) (channel : ChannelId) (method : Method) :
    Except LinkError Unit × Loopback :=
  match l.sendFailure with
  | some e => (.error e, l)
  | none =>
    match l.replies.lookup method.id with
    | some reply => (.ok (), l.push [.frame ⟨channel, .method reply⟩])
    | none => (.ok (), l)

/-- With nothing to come, a limited wait brings nothing and an unlimited one finds the connection
closed. -/
def pull (l : Loopback) (wait : Timeout) : Pulled × Loopback :=
  match l.incoming with
  | answer :: rest => (answer, { l with incoming := rest })
  | [] => (if wait.isSome then .nothing else .failed (.frame .connectionClosed), l)

instance : Link Loopback where
  channelMax := advertised
  send := send
  pull := pull
  releaseBuffers l := { l with released := l.released + 1 }
  backlog l := l.incoming.length
  backlog_pull l wait f h := by
    cases hi : l.incoming with
    | nil => cases wait <;> simp [pull, hi] at h
    | cons a rest => simp [pull, hi]

end Loopback
end Multiplex
