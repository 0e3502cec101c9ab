import Multiplex.Link
import Multiplex.Stream.Reader
import Multiplex.Stream.Writer

/-! A link over a socket: a queue of octets towards the session, an end-of-file mark behind it,
and the octets that have left. Frames are decoded from a read buffer and encoded whole. A limited
wait looks for something to read before it reads; a frame that is complete in the buffer is found
without looking. -/

namespace Multiplex

structure Wire where
  advertised : ChannelId
  /-- The largest frame in either direction. -/
  limit : Nat
  /-- Octets received but not yet decoded. -/
  buffer : Octets
  incoming : Octets
  ended : Bool
  /-- Whether the peer has stopped reading. -/
  deaf : Bool
  /-- Octets written and not yet taken by the peer. -/
  outgoing : Spool

namespace Wire

def wouldBlock : IoError := ⟨.wouldBlock, "Resource temporarily unavailable (os error 11)"⟩

def brokenPipe : IoError := ⟨.brokenPipe, "Broken pipe (os error 32)"⟩

def zeroTimeout : IoError := ⟨.invalidInput, "cannot set a 0 duration timeout"⟩

/-- A socket takes no timeout of zero. -/
def start (advertised : ChannelId) (limit readTimeout writeTimeout : Nat) : Except LinkError Wire :=
  if readTimeout = 0 ∨ writeTimeout = 0 then .error (.frame (.io zeroTimeout))
  else .ok ⟨advertised, limit, [], [], false, false, .empty⟩

def feed (w : Wire) (bs : Octets) : Wire := { w with incoming := w.incoming ++ bs }

def take (w : Wire) : Octets × Wire := (w.outgoing.octets, { w with outgoing := .empty })

def writer (w : Wire) : Writer :=
  Writer.start w.limit true (if w.deaf then [.failure brokenPipe] else []) []

def send (w : Wire) (channel : ChannelId) (method : Method) : Except LinkError Unit × Wire :=
  let (answer, writer) := w.writer.sendMethod channel method
  (answer.mapError .frame, { w with outgoing := w.outgoing.push writer.accepted.octets })

/-- Receive until the buffer begins with a frame: read after read, as many as it takes for what is
missing to come, or all that there is. -/
def receive (w : Wire) : Pulled × Wire :=
  match Reader.settled w.limit w.buffer with
  | some (.ok f, rest) => (.frame f, { w with buffer := rest })
  | some (.error e, rest) => (.failed (.frame e), { w with buffer := rest })
  | none =>
    if _h : w.incoming = [] then
      (.failed (.frame (if w.ended then .connectionClosed else .io wouldBlock)), w)
    else
      let n := Arrival.inWholeReads (Frame.missing w.buffer)
      receive { w with buffer := w.buffer ++ w.incoming.take n, incoming := w.incoming.drop n }
  termination_by w.incoming.length
  decreasing_by
    have := List.length_pos_iff.mpr _h
    have := Arrival.inWholeReads_pos (Frame.missing w.buffer)
    simp only [List.length_drop]
    omega

def pull (w : Wire) (wait : Timeout) : Pulled × Wire :=
  if wait.isSome ∧ w.incoming = [] ∧ ¬ w.ended ∧ (Reader.settled w.limit w.buffer).isNone then
    (.nothing, w)
  else w.receive

def supply (w : Wire) : Nat := w.buffer.length + w.incoming.length

theorem supply_lt_of_receive {w : Wire} {f : Frame} (h : w.receive.1 = .frame f) :
    w.receive.2.supply < w.supply := by
  fun_induction receive w with
  | case1 w g rest hs =>
    have := Reader.length_of_settled hs
    simp only [supply]
    omega
  | case2 => simp at h
  | case3 => simp at h
  | case4 w hs hn n ih =>
    have := ih h
    simp only [supply, List.length_append, List.length_take, List.length_drop] at this ⊢
    omega

theorem supply_lt_of_pull {w : Wire} {wait : Timeout} {f : Frame}
    (h : (w.pull wait).1 = .frame f) : (w.pull wait).2.supply < w.supply := by
  unfold pull at h ⊢
  split at h
  · simp at h
  · rename_i hw
    rw [if_neg hw]
    exact supply_lt_of_receive h

instance : Link Wire where
  channelMax := advertised
  send := send
  pull := pull
  releaseBuffers := id
  backlog := supply
  backlog_pull _ _ _ := supply_lt_of_pull

end Wire

inductive WireEvent
  | arrive (bs : Octets)
  | hangUp
  | pull (wait : Timeout)
  | send (channel : ChannelId) (method : Method)
  deriving DecidableEq

def WireEvent.received : List WireEvent → Octets
  | [] => []
  | .arrive bs :: events => bs ++ received events
  | _ :: events => received events

namespace Wire

/-- What a pull brings, if there is one. -/
def undergo (w : Wire) : WireEvent → Option Pulled × Wire
  | .arrive bs => (none, w.feed bs)
  | .hangUp => (none, { w with ended := true })
  | .pull wait => (some (w.pull wait).1, (w.pull wait).2)
  | .send channel method => (none, (w.send channel method).2)

def undergoAll (w : Wire) : List WireEvent → List Pulled × Wire
  | [] => ([], w)
  | event :: events =>
    let (answer, w) := w.undergo event
    let (answers, w) := w.undergoAll events
    (answer.toList ++ answers, w)

end Wire
end Multiplex
