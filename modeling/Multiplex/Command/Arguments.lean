import Multiplex.Command.Report
import Multiplex.Frame.Codec
import Multiplex.Stream.SocketPair

/-! The arguments of the command line. There is one subcommand; options that every subcommand
shares may stand on either side of it, each at most once on a side, and the one behind it wins. -/

namespace Multiplex

inductive Subcommand
  | inspect (capture : String) (summary : Bool) (limit : Nat)
  | version (extended : Bool)
  deriving DecidableEq

structure Invocation where
  format : Option OutputFormat
  subcommand : Subcommand
  deriving DecidableEq

/-- Why there is nothing to run. -/
inductive Stop
  | help | version | refused
  deriving DecidableEq

namespace Arguments

/-- An argument by its shape. A lone dash is a word. -/
inductive Token
  | escape
  | long (name : String) (value : Option String)
  | short (letters : List Char)
  | word (text : String)
  deriving DecidableEq

def Token.ofChars : List Char → Token
  | ['-', '-'] => escape
  | '-' :: '-' :: name =>
    match name.span (· ≠ '=') with
    | (name, []) => long (String.ofList name) none
    | (name, _ :: value) => long (String.ofList name) (some (String.ofList value))
  | '-' :: c :: letters => short (c :: letters)
  | text => word (String.ofList text)

inductive Place
  | top | inspect | version
  deriving DecidableEq

def Place.takesValue (place : Place) (option : String) : Bool :=
  ["format", "log-format", "log-level"].contains option ||
    (place = .inspect && option = "max-frame-size")

def Place.isFlag : Place → String → Bool
  | top, _ => false
  | inspect, option => option = "summary"
  | version, option => option = "extended"

inductive Item
  | value (option text : String)
  | flag (option : String)
  | word (text : String)

structure Given where
  format : Option OutputFormat
  logFormat : Option String
  logLevel : Option String
  limit : Option Nat
  flag : Bool
  capture : Option String

def Given.nothing : Given := ⟨none, none, none, none, false, none⟩

def format? : String → Option OutputFormat
  | "json" => some .json
  | "table" => some .table
  | "pretty" => some .pretty
  | _ => none

/-- Keep a value unless there is one already or it is not allowed. -/
def once (old : Option α) (new : Option α) : Option α :=
  match old with
  | some _ => none
  | none => new

def Given.take (place : Place) (g : Given) : Item → Option Given
  | .value "format" text => (once g.format (format? text)).map ({ g with format := · })
  | .value "log-format" text =>
    (once g.logFormat (if ["text", "json"].contains text then some text else none)).map
      ({ g with logFormat := · })
  | .value "log-level" text =>
    (once g.logLevel
      (if ["error", "warn", "info", "debug", "trace"].contains text then some text else none)).map
      ({ g with logLevel := · })
  | .value "max-frame-size" text =>
    (once g.limit (Address.number? UInt64.size text.toList)).map ({ g with limit := · })
  | .value _ _ => none
  | .flag _ => if g.flag then none else some { g with flag := true }
  | .word text =>
    if place = .inspect && text ≠ "" then (once g.capture (some text)).map ({ g with capture := · })
    else none

def Given.takeWords (place : Place) (g : Given) : List String → Option Given
  | [] => some g
  | text :: rest => (g.take place (.word text)).bind (·.takeWords place rest)

/-- What a short option asks for; only the first letter counts. -/
def ofLetter (place : Place) : List Char → Stop
  | 'h' :: _ => .help
  | 'V' :: _ => if place = .top then .version else .refused
  | _ => .refused

/-- Take arguments one after another. At the top the first word ends this: it names the
subcommand, and everything behind it belongs there. -/
def scan (place : Place) (g : Given) : List String → Except Stop (Given × List String)
  | [] => .ok (g, [])
  | arg :: rest =>
    match Token.ofChars arg.toList with
    | .escape =>
      match g.takeWords place rest with
      | some g => .ok (g, [])
      | none => .error .refused
    | .word text =>
      if place = .top then .ok (g, text :: rest)
      else
        match g.take place (.word text) with
        | some g => scan place g rest
        | none => .error .refused
    | .short letters => .error (ofLetter place letters)
    | .long name value =>
      if place.takesValue name then
        match value, rest with
        | some text, rest =>
          match g.take place (.value name text) with
          | some g => scan place g rest
          | none => .error .refused
        | none, text :: rest =>
          match Token.ofChars text.toList with
          | .word text =>
            match g.take place (.value name text) with
            | some g => scan place g rest
            | none => .error .refused
          | _ => .error .refused
        | none, [] => .error .refused
      else if value.isSome then .error .refused
      else if place.isFlag name then
        match g.take place (.flag name) with
        | some g => scan place g rest
        | none => .error .refused
      else if name = "help" then .error .help
      else if name = "version" ∧ place = .top then .error .version
      else .error .refused

def ofPlace (place : Place) (above : Given) (args : List String) : Except Stop Invocation := do
  let (g, _) ← scan place .nothing args
  let format := g.format <|> above.format
  match place, g.capture with
  | .inspect, some capture =>
    return ⟨format, .inspect capture g.flag (g.limit.getD Frame.defaultLimit)⟩
  | .version, _ => return ⟨format, .version g.flag⟩
  | _, _ => .error .refused

def parse (args : List String) : Except Stop Invocation := do
  match ← scan .top .nothing args with
  | (g, "inspect" :: rest) => ofPlace .inspect g rest
  | (g, "version" :: rest) => ofPlace .version g rest
  | (_, ["help"]) => .error .help
  | (_, ["help", topic]) =>
    if ["inspect", "version", "help"].contains topic then .error .help else .error .refused
  | _ => .error .refused

end Arguments
end Multiplex
