import Multiplex.Capture
import Multiplex.Frame.Error

/-! Failures as the command line reports them: a status for the shell and one line of text. -/

namespace Multiplex

inductive ExitStatus
  | success | failure | permissionDenied | dataInvalid | notFound | internal
  deriving DecidableEq

def ExitStatus.code : ExitStatus → Nat
  | success => 0
  | failure => 1
  | permissionDenied => 50
  | dataInvalid => 60
  | notFound => 66
  | internal => 125

structure CommandFailure where
  status : ExitStatus
  message : String
  deriving DecidableEq

namespace CommandFailure

def ofIo (context : String) (e : IoError) : CommandFailure :=
  ⟨match e.kind with
    | .permissionDenied => .permissionDenied
    | .notFound => .notFound
    | .unexpectedEof | .invalidData => .dataInvalid
    | _ => .internal,
   s!"{context}: {e.message}"⟩

def ofFrame (context : String) (e : FrameError) : CommandFailure :=
  match e with
  | .io cause => ofIo context cause
  | .connectionClosed => ⟨.failure, s!"{context}: {e.message}"⟩
  | _ => ⟨.dataInvalid, s!"{context}: {e.message}"⟩

def ofCapture : CaptureError → CommandFailure
  | .undecodable index cause => ofFrame s!"decode frame #{index}" cause
  | .truncated trailing =>
    ⟨.dataInvalid, s!"capture ends with a truncated frame ({trailing} trailing bytes)"⟩

end CommandFailure
end Multiplex
