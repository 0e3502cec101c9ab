import Multiplex.Command.Run

/-! The command line itself: reads the capture, prints the answer. -/

namespace Multiplex
namespace CommandLine

/-- An operating system's text and number for a failure. The number may come negated, the text in
small letters. -/
def numbered (kind : IoKind) (code : UInt32) (details : String) : IoError :=
  let number := if code < 0x80000000 then code else 0 - code
  ⟨kind, s!"{details.capitalize} (os error {number})"⟩

def failure : IO.Error → IoError
  | .noFileOrDirectory _ code details => numbered .notFound code details
  | .permissionDenied _ code details => numbered .permissionDenied code details
  | .interrupted _ code details => numbered .interrupted code details
  | .unexpectedEof => ⟨.unexpectedEof, "unexpected end of file"⟩
  | .inappropriateType _ code details => numbered .other code details
  | .invalidArgument _ code details => numbered .invalidInput code details
  | .resourceExhausted _ code details => numbered .other code details
  | .otherError code details => numbered .other code details
  | e => ⟨.other, toString e⟩

def content : Subcommand → IO (Except IoError Octets)
  | .inspect capture _ _ => do
    try
      let data ← IO.FS.readBinFile capture
      return .ok data.toList
    catch e => return .error (failure e)
  | .version _ => return .ok []

def answer (args : List String) : IO Answer := do
  match Arguments.parse args with
  | .error stop => return .ofStop stop
  | .ok invocation =>
    let terminal ← (← IO.getStdout).isTty
    let data ← content invocation.subcommand
    return invocation.subcommand.run .unknown (invocation.formatOn terminal) data

end CommandLine
end Multiplex

def main (args : List String) : IO UInt32 := do
  let answer ← Multiplex.CommandLine.answer args
  IO.print answer.output
  match answer.complaint with
  | some complaint => IO.eprintln complaint
  | none =>
    if answer.code = Multiplex.Program.usageStatus then IO.eprint Multiplex.Program.usage
  return answer.code.toUInt32
