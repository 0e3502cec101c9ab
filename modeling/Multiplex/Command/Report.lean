import Multiplex.Capture.Record
import Multiplex.Capture.Summary
import Multiplex.Text.Json
import Multiplex.Text.Table

/-! The records and summaries of a capture as text: JSON, a table, or plain lines. -/

namespace Multiplex

inductive OutputFormat
  | json | table | pretty
  deriving DecidableEq

namespace Report

def lines (ls : List String) : String := String.join (ls.map (· ++ "\n"))

def recordJson (r : FrameRecord) : String :=
  Json.object
    [("index", toString r.index),
     ("channel", toString r.channel),
     ("channel_name", Quoted.json r.channel.label),
     ("kind", Quoted.json r.kind.label),
     ("size", toString r.size),
     ("method", Json.optional (r.method.map MethodId.label)),
     ("detail", Quoted.json r.detail)]

def recordRow (r : FrameRecord) : List String :=
  [toString r.index, s!"{r.channel} ({r.channel.label})", r.kind.label, toString r.size, r.detail]

def recordLine (r : FrameRecord) : String :=
  s!"#{r.index} channel={r.channel} kind={r.kind.label} size={r.size} {r.detail}"

def records (format : OutputFormat) (rs : List FrameRecord) : String :=
  match format with
  | .json => lines (rs.map recordJson)
  | .table =>
    lines [Table.draw ["#", "CHANNEL", "KIND", "SIZE", "DETAIL"] (rs.map recordRow)]
  | .pretty => lines (rs.map recordLine)

def summaryJson (s : ChannelSummary) : String :=
  Json.object
    [("channel", toString s.channel),
     ("methods", toString s.methods),
     ("headers", toString s.headers),
     ("bodies", toString s.bodies),
     ("body_bytes", toString s.bodyOctets),
     ("heartbeats", toString s.heartbeats),
     ("last_method", Json.optional (s.lastMethod.map MethodId.label))]

/-- A channel without methods shows a dash for its last one. -/
def lastMethod (s : ChannelSummary) : String := (s.lastMethod.map MethodId.label).getD "-"

def summaryRow (s : ChannelSummary) : List String :=
  [toString s.channel, toString s.methods, toString s.headers, toString s.bodies,
   toString s.bodyOctets, toString s.heartbeats, lastMethod s]

def summaryLine (s : ChannelSummary) : String :=
  s!"channel={s.channel} methods={s.methods} headers={s.headers} bodies={s.bodies} " ++
  s!"body_bytes={s.bodyOctets} heartbeats={s.heartbeats} last_method={lastMethod s}"

def summary (format : OutputFormat) (frames : Nat) (ss : List ChannelSummary) : String :=
  match format with
  | .json =>
    lines [Json.object
      [("frames", toString frames), ("channels", Json.array (ss.map summaryJson))]]
  | .table =>
    lines [Table.draw
      ["CHANNEL", "METHODS", "HEADERS", "BODIES", "BODY BYTES", "HEARTBEATS", "LAST METHOD"]
      (ss.map summaryRow)]
  | .pretty => lines (s!"{frames} frames on {ss.length} channels" :: ss.map summaryLine)

end Report
end Multiplex
