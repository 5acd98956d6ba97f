import SierraCasm.Pipeline.Stages
import SierraCasm.Text.Grouped
import SierraCasm.Yaml.Scalar

/-! # Reports

What the commands print: a summary of a success, as one line of JSON, as YAML or as text, and a
description of a failure, as one line of JSON or as text. -/

namespace SierraCasm.Report

open Pipeline

/-- The formats of reports. -/
inductive Format where
  | json
  | yaml
  | text
deriving DecidableEq, Repr

def Format.names : List String := ["json", "yaml", "text"]

/-- The format of a name; a report in a format that is not known is text. -/
def Format.ofName : String → Format
  | "json" => .json
  | "yaml" => .yaml
  | _ => .text

/-! ### Values -/

/-- A value of a summary. -/
inductive Value where
  | count (n : Int)
  | flag (b : Bool)
  | text (s : String)
deriving DecidableEq, Repr

def Value.toJson : Value → Json
  | .count n => .int n
  | .flag b => .bool b
  | .text s => .string s

/-- A value in YAML, with the line break after it. -/
def Value.yamlLine : Value → String
  | .count n => toString n ++ "\n"
  | .flag b => boolText b ++ "\n"
  | .text s => Yaml.scalarLine s

def Value.plain : Value → String
  | .count n => Text.grouped n
  | .flag b => boolText b
  | .text s => s

/-! ### Summaries -/

/-- A JSON value on a line. -/
def jsonLine (j : Json) : String := j.renderPlain ++ "\n"

/-- Pads a text with blanks to a width. -/
def padded (width : Nat) (s : String) : String :=
  s ++ String.ofList (List.replicate (width - s.length) ' ')

/-- The width of the labels of a text. -/
def labelWidth : Nat := 22

/-- A line of a text. -/
def textLine (entry : String × Value) : String :=
  "  " ++ padded labelWidth (entry.1 ++ ":") ++ " " ++ entry.2.plain ++ "\n"

/-- A summary: its members, and its text with a title. -/
structure Summary where
  members : List (String × Value)
  title : String
  lines : List (String × Value)
deriving DecidableEq, Repr

/-- A summary in a format. -/
def Summary.render (s : Summary) : Format → String
  | .json => jsonLine (.object (s.members.map fun m => (m.1, m.2.toJson)))
  | .yaml => String.join (s.members.map fun m => m.1 ++ ": " ++ m.2.yamlLine)
  | .text => "✓ " ++ s.title ++ "\n" ++ String.join (s.lines.map textLine)

/-- The summary of a validation. -/
def ofValidate (input : String) (s : ValidateSummary) : Summary where
  members :=
    [("functions", .count s.functions), ("libfunc_declarations", .count s.libfuncs),
     ("statements", .count s.statements), ("type_declarations", .count s.types),
     ("validated", .flag s.validated)]
  title := "Validated " ++ input
  lines :=
    [("type declarations", .count s.types), ("libfunc declarations", .count s.libfuncs),
     ("statements", .count s.statements), ("functions", .count s.functions)]

/-- The summary of a compilation. -/
def ofCompile (input : String) (s : CompileSummary) : Summary where
  members :=
    [("compiled", .flag s.compiled), ("const_segments", .count s.constSegments),
     ("gas_check", .flag s.gasCheck), ("instructions", .count s.instructions),
     ("out_casm", .text s.outCasm)]
  title := "Compiled " ++ input
  lines :=
    [("out casm", .text s.outCasm), ("instructions", .count s.instructions),
     ("const segments", .count s.constSegments), ("gas check", .flag s.gasCheck)]

/-! ### Failures -/

/-- A failure in JSON; what is empty is left out. -/
def failureJson (e : Failure) : Json :=
  let path := (e.stages?.map (·.path)).getD ""
  let contexts := (e.stages?.map (·.contexts)).getD []
  .object
    [("status", .string "error"),
     ("error", .object
       ([("code", .string e.kind.code), ("kind", .string e.kind.name),
         ("message", .string e.message)] ++
        (if path = "" then [] else [("path", .string path)]) ++
        (if contexts.isEmpty then [] else [("context", .array (contexts.map .string))])))]

/-- The description of a failure in a format. -/
def renderFailure (format : Format) (verbose : Bool) (e : Failure) : String :=
  match format with
  | .json => jsonLine (failureJson e)
  | _ =>
    "Error [" ++ e.kind.code ++ "]: " ++ e.message ++ "\n" ++
      (if verbose then "Kind: " ++ e.kind.name ++ "\n" else "")

/-- The exit code of a command that failed. -/
def failureCode : Int := 1

/-- The failure of a command that has reported it. -/
def reported (e : Failure) : Failure := .exitWith failureCode e.kind.code e

end SierraCasm.Report
