import SierraCasm.CommandLine.Command
import SierraCasm.Report.Format

/-! # Running a command line

`run` finds the command, reads its flags, and runs it on a host.  What it prints is returned, as
well as the failure it ended with. -/

namespace SierraCasm.CommandLine

open Report

variable {m : Type → Type} [Monad m]

/-- What a command line prints, and the failure it ends with. -/
structure Outcome where
  stdout : String := ""
  stderr : String := ""
  failure : Option Failure := none
deriving DecidableEq, Repr

def Outcome.exitCode (o : Outcome) : Int := (o.failure.map Failure.exitCode).getD 0

/-- What a command is asked to do. -/
structure Options where
  verbose : Bool
  format : Format
  input : String
  outCasm : String
  gasCheck : Bool
deriving DecidableEq, Repr

/-- What a command line amounts to. -/
inductive Request where
  | help
  | validate (options : Options)
  | compile (options : Options)
deriving DecidableEq, Repr

/-- The options that flags give. -/
def Options.ofFlags (p : Parsed) : Options where
  verbose := p.switch "verbose"
  format := .ofName (p.text "format" "json")
  input := p.text "input" ""
  outCasm := p.text "out-casm" ""
  gasCheck := p.switch "gas-check"

/-- The checks of a command that runs: no arguments, a known format, all flags it needs. -/
def checkCommand (command : Command) (p : Parsed) : Except CommandFault Unit := do
  match p.arguments with
  | [] => pure ()
  | argument :: _ => .error (.unexpectedArgument command argument)
  let format := p.text "format" "json"
  require (format ∈ Format.names) (.unknownFormat format Format.names)
  let missing := command.requiredFlags.filter fun name => !p.isSet name
  require missing.isEmpty (.missingFlags missing)

/-- What a command line asks for. -/
def parseRequest (arguments : List String) : Except CommandFault Request := do
  let (command, arguments) ← findCommand arguments
  let p ← (parseFlags command.flags arguments).mapError .flag
  if p.switch "help" then return .help
  match command with
  | .validate =>
    checkCommand command p
    return .validate (.ofFlags p)
  | .compile =>
    checkCommand command p
    return .compile (.ofFlags p)
  | _ => return .help

/-- How to use the program. -/
def usage : String :=
  "Usage:\n  " ++ programName ++ " validate --input <path>\n  " ++ programName ++
    " compile --input <path> --out-casm <path> [--gas-check]\n\n" ++
    "Flags:\n  --format json|yaml|text\n  -v, --verbose\n"

/-- The host with only the log entries that are asked for. -/
def atLevel (host : Host m) (level : Log.Level) : Host m :=
  { host with log := fun entry => if entry.level.enabledAt level then host.log entry else pure () }

/-- The level of the log. -/
def Options.level (o : Options) : Log.Level := if o.verbose then .debug else .info

/-- What is printed in the end. -/
def outcome (o : Options) (result : Except Failure Summary) : Outcome :=
  match result with
  | .ok summary => { stdout := summary.render o.format }
  | .error e => { stderr := renderFailure o.format o.verbose e, failure := some (reported e) }

/-- Does what was asked for. -/
def perform (host : Host m) : Request → m Outcome
  | .help => pure { stdout := usage }
  | .validate o => do
    let result ← (Pipeline.validateFile (atLevel host o.level) o.input).run
    return outcome o (result.map (Report.ofValidate o.input))
  | .compile o => do
    let result ← (Pipeline.compileFile (atLevel host o.level) o.input o.outCasm o.gasCheck).run
    return outcome o (result.map (Report.ofCompile o.input))

/-- Runs a command line. -/
def run (host : Host m) (arguments : List String) : m Outcome :=
  match parseRequest arguments with
  | .ok request => perform host request
  | .error fault => pure { failure := some (.cause (.other fault.message)) }

end SierraCasm.CommandLine
