import SierraCasm.Ap.Fault
import SierraCasm.Compile
import SierraCasm.Document.Load
import SierraCasm.Failure.Kind
import SierraCasm.Registry.Violation

/-! # Failures

A failure is a cause and what was said about it on the way out: the contexts of the stages it
passed through, outermost first, plain notes, and an exit code.  `Failure.addContext` is how a
stage passes a failure on. -/

namespace SierraCasm

open Sierra

/-- A file operation that failed. -/
structure IoFault where
  operation : String
  path : String
  reason : String
deriving DecidableEq, Repr

def IoFault.message (f : IoFault) : String := f.operation ++ " " ++ f.path ++ ": " ++ f.reason

/-- What went wrong. -/
inductive Cause where
  | io (fault : IoFault)
  | format (message : String)
  /-- a document that is not described further -/
  | malformed
  | version (fault : Document.VersionFault)
  | registry (code subject message : String)
  | metadata (statement : Int) (message : String)
  | compile (statement : Int) (message : String)
  | gas (fault : GasFault)
  /-- the result is too large: its size and the limit, if they are given -/
  | limit (sizes : Option (Nat × Int))
  | other (message : String)
deriving DecidableEq, Repr

namespace Cause

def message : Cause → String
  | .io f => f.message
  | .format text => text
  | .malformed => "<cause>"
  | .version f => f.message
  | .registry code subject text => "[" ++ code ++ "] " ++ subject ++ ": " ++ text
  | .metadata _ text => text
  | .compile i text => "statement " ++ renderIndex i ++ ": " ++ text
  | .gas f => f.message
  | .limit none => "instruction limit exceeded"
  | .limit (some (size, bound)) =>
    "instruction limit exceeded: " ++ toString size ++ " words, limit is " ++ toString bound
  | .other text => text

def kind : Cause → Kind
  | .io _ => .io
  | .format _ => .format
  | .malformed => .format
  | .version _ => .unsupportedVersion
  | .registry _ _ _ => .registry
  | .metadata _ _ => .metadata
  | .compile _ _ => .compile
  | .gas _ => .gasCheck
  | .limit _ => .instructionLimit
  | .other _ => .compile

/-! ### Faults as causes -/

/-- A document that cannot be loaded. -/
def ofFormat (f : Document.FormatFault) : Cause := (f.message?.map Cause.format).getD .malformed

/-- A program that is not valid. -/
def ofViolation (v : Registry.Violation) : Cause := .registry v.code v.subject v.message

/-- A program without positions of `ap`. -/
def ofAp (f : Ap.Fault) : Cause := .metadata f.statement f.message

/-- A program that does not compile. -/
def ofCompile : CompileFault → Cause
  | .gas f => .gas f
  | .lowering f => .compile f.statement f.defect.message
  | .tooLarge size bound => .limit (some (size, bound))

end Cause

/-- A cause with what was said about it. -/
inductive Failure where
  | cause (c : Cause)
  /-- a note in front of a failure -/
  | noted (note : String) (inner : Failure)
  /-- a failure that passed through stages -/
  | staged (kind : Kind) (path : String) (contexts : List String) (inner : Failure)
  /-- an exit code without a failure behind it -/
  | exit (code : Int) (note : String)
  /-- a failure with an exit code -/
  | exitWith (code : Int) (note : String) (inner : Failure)
deriving DecidableEq, Repr

namespace Failure

/-- The full wording, outermost part first. -/
def message : Failure → String
  | .cause c => c.message
  | .noted note e => note ++ ": " ++ e.message
  | .staged _ _ contexts e => ": ".intercalate (contexts ++ [e.message])
  | .exit _ note => note
  | .exitWith _ note e => note ++ ": " ++ e.message

/-- The cause, if there is one. -/
def cause? : Failure → Option Cause
  | .cause c => some c
  | .noted _ e => e.cause?
  | .staged _ _ _ e => e.cause?
  | .exit _ _ => none
  | .exitWith _ _ e => e.cause?

/-- What the stages said: the outermost record of them. -/
structure Stages where
  kind : Kind
  path : String
  contexts : List String
  inner : Failure
deriving DecidableEq, Repr

/-- The outermost record of stages. -/
def stages? : Failure → Option Stages
  | .cause _ => none
  | .noted _ e => e.stages?
  | .staged kind path contexts e => some ⟨kind, path, contexts, e⟩
  | .exit _ _ => none
  | .exitWith _ _ e => e.stages?

/-- The kind by the cause alone; without a cause it counts as a failure of compilation. -/
def causeKind (e : Failure) : Kind := (e.cause?.map Cause.kind).getD .compile

/-- The kind of a failure: that which its stages recorded, or that of its cause. -/
def kind (e : Failure) : Kind := (e.stages?.map (·.kind)).getD e.causeKind

/-- A stage passes a failure on.  What earlier stages recorded is kept, and notes that were put in
front of it since are not. -/
def addContext (e : Failure) (context : String) : Failure :=
  match e.stages? with
  | some s => .staged s.kind s.path (context :: s.contexts) s.inner
  | none => .staged e.causeKind "" [context] e

/-- A stage that works on a file passes a failure on; the innermost file is kept. -/
def addFileContext (e : Failure) (path context : String) : Failure :=
  match e.addContext context with
  | .staged kind "" contexts inner => .staged kind path contexts inner
  | other => other

/-- The exit code that a failure asks for, if it does. -/
def exitCode? : Failure → Option Int
  | .cause _ => none
  | .noted _ e => e.exitCode?
  | .staged _ _ _ e => e.exitCode?
  | .exit code _ => some code
  | .exitWith code _ _ => some code

/-- The exit code for a command that was not understood. -/
def commandErrorCode : Int := 2

/-- The exit code of a failure; one that asks for none is about the command itself. -/
def exitCode (e : Failure) : Int := e.exitCode?.getD commandErrorCode

/-- A failure with an exit code was reported by the command that it stopped. -/
def isReported (e : Failure) : Bool := e.exitCode?.isSome

end Failure

end SierraCasm
