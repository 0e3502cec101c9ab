import Multiplex.Frame.Codec

/-! Captures: recorded octets of one direction of a connection, with or without the protocol
header that a client sends first. A capture is read whole or not at all. -/

namespace Multiplex

inductive CaptureError
  /-- The frame of this number, counted from one, cannot be decoded. -/
  | undecodable (index : Nat) (cause : FrameError)
  /-- So many octets behind the last frame are not one. -/
  | truncated (trailing : Nat)
  deriving DecidableEq

namespace Capture

/-- What a client sends in front of its first frame. -/
def protocolHeader : Octets := [0x41, 0x4D, 0x51, 0x50, 0, 0, 9, 1]

def stripHeader (data : Octets) : Octets :=
  if protocolHeader.isPrefixOf data then data.drop protocolHeader.length else data

/-- The frames among the decoder's answers, counted from `index`. -/
def framesFrom (index : Nat) : List (Decoded × Octets) → Except CaptureError (List Frame)
  | [] => .ok []
  | (.frame f, _) :: answers => (f :: ·) <$> framesFrom (index + 1) answers
  | (.failed e, _) :: _ => .error (.undecodable index e)
  | (.incomplete, []) :: _ => .ok []
  | (.incomplete, rest) :: _ => .error (.truncated rest.length)

def decode (limit : Nat) (data : Octets) : Except CaptureError (List Frame) :=
  framesFrom 1 (Frame.drain limit false (stripHeader data))

end Capture
end Multiplex
