import Multiplex.Command.Arguments
import Multiplex.Command.Failure

/-! The program behind the command line: from arguments, and the content of the capture they name,
to what is printed and the status for the shell. -/

namespace Multiplex

namespace Program

def name : String := "amqpmux"

def version : String := "0.1.0"

def greeting : String := Report.lines [s!"{name} {version}"]

def usageStatus : Nat := 2

def usage : String :=
  Report.lines
    [s!"Usage: {name} [--format json|table|pretty] <command>",
     "",
     "Commands:",
     "  inspect <CAPTURE> [--summary] [--max-frame-size BYTES]",
     "  version [--extended]"]

end Program

structure Build where
  target : String
  os : String
  arch : String
  revision : String

def Build.unknown : Build := ⟨"unknown", "unknown", "unknown", "unknown"⟩

/-- What a run leaves: a status, the text it printed, and the complaint if there was one. -/
structure Answer where
  code : Nat
  output : String
  complaint : Option String
  deriving DecidableEq

namespace Answer

def printed (output : String) : Answer := ⟨ExitStatus.success.code, output, none⟩

def ofFailure (e : CommandFailure) : Answer := ⟨e.status.code, "", some s!"error: {e.message}"⟩

def ofStop : Stop → Answer
  | .help => printed Program.usage
  | .version => printed Program.greeting
  | .refused => ⟨Program.usageStatus, "", none⟩

end Answer

namespace Subcommand

def inspectContent (format : OutputFormat) (capture : String) (summary : Bool) (limit : Nat)
    (content : Except IoError Octets) : Except CommandFailure String := do
  let data ← content.mapError (CommandFailure.ofIo s!"read {capture}")
  let frames ← (Capture.decode limit data).mapError CommandFailure.ofCapture
  if summary then return Report.summary format frames.length (ChannelSummary.ofFrames frames)
  else return Report.records format (FrameRecord.ofFrames frames)

def provenance (build : Build) : String :=
  Report.lines
    [s!"name: {Program.name}",
     s!"version: {Program.version}",
     "protocol: AMQP 0-9-1",
     s!"build_target: {build.target}",
     s!"target_os: {build.os}",
     s!"target_arch: {build.arch}",
     s!"git_hash: {build.revision}",
     s!"default_frame_max: {Frame.defaultLimit}",
     s!"max_channel_id: {ChannelId.highest}",
     "stream_engine: true"]

def run (subcommand : Subcommand) (build : Build) (format : OutputFormat)
    (content : Except IoError Octets) : Answer :=
  match subcommand with
  | .version false => .printed Program.greeting
  | .version true => .printed (provenance build)
  | .inspect capture summary limit =>
    match inspectContent format capture summary limit content with
    | .ok output => .printed output
    | .error e => .ofFailure e

end Subcommand

/-- People get a table and programs get JSON, unless they ask for something else. -/
def Invocation.formatOn (i : Invocation) (terminal : Bool) : OutputFormat :=
  i.format.getD (if terminal then .table else .json)

end Multiplex
