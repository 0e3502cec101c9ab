import Multiplex.Link
import Multiplex.Text.Quoted

/-! Two connected sockets, what each finds when it reads, and when a wait for one of them ends. -/

namespace Multiplex

inductive Readiness
  | ready | timedOut
  deriving DecidableEq

/-- Octets that wait, and the end of the stream, both end a wait; nothing ends a wait on no socket
but its limit. -/
def Readiness.of (pending hangup noSocket : Bool) : Readiness :=
  if !noSocket && (pending || hangup) then ready else timedOut

inductive Transport
  | tcp | unix
  deriving DecidableEq

def Transport.name : Transport → String
  | tcp => "tcp"
  | unix => "unix"

def Transport.label (t : Transport) : String :=
  "AmqpStream \x7b type: " ++ Quoted.plain t.name ++ " \x7d"

inductive End
  | left | right
  deriving DecidableEq

structure SocketPair where
  toLeft : Octets
  toRight : Octets
  /-- Whether either end has shut both directions down. -/
  down : Bool

namespace SocketPair

def start : SocketPair := ⟨[], [], false⟩

def inbox (p : SocketPair) : End → Octets
  | .left => p.toLeft
  | .right => p.toRight

def write (p : SocketPair) (e : End) (bs : Octets) : Except IoKind Nat × SocketPair :=
  if p.down then (.error .brokenPipe, p)
  else
    (.ok bs.length,
      match e with
      | .left => { p with toRight := p.toRight ++ bs }
      | .right => { p with toLeft := p.toLeft ++ bs })

/-- Read at most `n` octets at one end. Behind a shutdown there is an end of file where there
would have been nothing to read. -/
def read (p : SocketPair) (e : End) (n : Nat) : Except IoKind Octets × SocketPair :=
  if p.inbox e = [] then (if p.down then .ok [] else .error .wouldBlock, p)
  else
    (.ok ((p.inbox e).take n),
      match e with
      | .left => { p with toLeft := p.toLeft.drop n }
      | .right => { p with toRight := p.toRight.drop n })

def shutDown (p : SocketPair) : SocketPair := { p with down := true }

def setTimeout (millis : Option Nat) : Except SocketError Unit :=
  if millis = some 0 then .error (.io ⟨.invalidInput, "cannot set a 0 duration timeout"⟩) else .ok ()

end SocketPair

namespace Address

/-- A decimal number below `bound`, with or without a plus sign. -/
def number? (bound : Nat) (digits : List Char) : Option Nat :=
  let digits := match digits with
    | '+' :: rest => rest
    | _ => digits
  if digits.isEmpty || !digits.all Char.isDigit then none
  else
    let n := digits.foldl (fun n c => 10 * n + (c.toNat - '0'.toNat)) 0
    if n < bound then some n else none

def splitLast (text : List Char) : Option (List Char × List Char) :=
  match text.reverse.span (· ≠ ':') with
  | (port, _ :: host) => some (host.reverse, port.reverse)
  | (_, []) => none

/-- Host and port of an address, or why a connection to it cannot even be tried. Names of hosts end
at the first zero character, so none may hold one. -/
def parse (text : String) : Except SocketError (String × Nat) :=
  let failure (message : String) : Except SocketError (String × Nat) :=
    .error (.connect (Quoted.plain text) ⟨.invalidInput, message⟩)
  match splitLast text.toList with
  | none => failure "invalid socket address"
  | some (host, port) =>
    match number? 65536 port with
    | none => failure "invalid port value"
    | some port =>
      if host.contains (Char.ofNat 0) then failure "file name contained an unexpected NUL byte"
      else .ok (String.ofList host, port)

end Address
end Multiplex
