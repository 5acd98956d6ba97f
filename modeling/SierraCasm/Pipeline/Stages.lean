import SierraCasm.Host.Basic
import SierraCasm.Path
import SierraCasm.Sierra.Render

/-! # The pipeline

The stages behind the commands: load, validate, analyze, compile, write.  Each stage stops the
pipeline when it fails and says what was attempted.  Nothing is written before compilation has
succeeded. -/

namespace SierraCasm.Pipeline

open Sierra

variable {m : Type → Type} [Monad m]

/-- Stops with a cause, in the context of a stage. -/
def failIn {α : Type} (context : String) (cause : Cause) : Except Failure α :=
  .error ((Failure.cause cause).addContext context)

/-- Stops with a cause, in the context of a stage that works on a file. -/
def failOn {α : Type} (path context : String) (cause : Cause) : Except Failure α :=
  .error ((Failure.cause cause).addFileContext path context)

/-! ### Stages without effects -/

/-- The program in the contents of a file. -/
def decodeProgram (path : String) (bytes : ByteArray) : Except Failure Program :=
  match Document.load bytes with
  | .error f => failOn path "failed parsing VersionedProgram JSON" (.ofFormat f)
  | .ok envelope =>
    match envelope.program with
    | .error f =>
      failOn path "unsupported Sierra program version for pinned toolchain" (.version f)
    | .ok artifact => .ok artifact.program.toProgram

def validated (context : String) (p : Program) : Except Failure Registry :=
  match Registry.build p with
  | .ok r => .ok r
  | .error v => failIn context (.ofViolation v)

def analyzed (r : Registry) : Except Failure Metadata :=
  match analyze r with
  | .ok m => .ok m
  | .error f => failIn "failed computing metadata (ap-change only)" (.ofAp f)

/-- The largest size that the plain pipeline admits. -/
def unlimited : Int := Int64.maxValue.toInt

def compiled (r : Registry) (positions : Metadata) (gasCheck : Bool) :
    Except Failure Casm.Program :=
  match compile r positions { gasCheck := gasCheck, maxSize := unlimited } with
  | .ok out => .ok out
  | .error f => failIn "Sierra->CASM compilation failed" (.ofCompile f)

/-! ### Log entries -/

/-- A flag as a field. -/
def boolText (b : Bool) : String := if b then "true" else "false"

def loadedEntries (path : String) (p : Program) : List Log.Entry :=
  [{ level := .debug
     message := "loaded Sierra program"
     fields :=
       [("functions", toString p.functions.length), ("libfuncs", toString p.libfuncs.length),
        ("path", path), ("statements", toString p.statements.length),
        ("types", toString p.types.length)] },
   { level := .trace, message := p.render }]

def validatedEntry : Log.Entry := { level := .debug, message := "program registry built" }

/-- The changes of the functions. -/
def changeEntries (p : Program) (positions : Metadata) : List Log.Entry :=
  (p.functions.zip positions.changes).map fun (f, change) =>
    { level := .debug
      message := "ap change " ++ change.render
      fields := [("function", f.id.render)] }

def compiledEntry (out : Casm.Program) (gasCheck : Bool) : Log.Entry :=
  { level := .debug
    message := "compiled to CASM"
    fields :=
      [("bytecode_size", toString out.bytecodeSize),
       ("const_segments", toString out.segments.length), ("gas_check", boolText gasCheck),
       ("instructions", toString out.instructions.length)] }

def writtenEntry (path : String) : Log.Entry :=
  { level := .debug, message := "wrote CASM", fields := [("path", path)] }

/-! ### Stages -/

/-- Logs entries in order. -/
def logAll (host : Host m) : List Log.Entry → ExceptT Failure m Unit
  | [] => pure ()
  | entry :: rest => do
    ExceptT.lift (host.log entry)
    logAll host rest

/-- Reads the program in a file. -/
def loadProgram (host : Host m) (path : String) : ExceptT Failure m Program := do
  match ← ExceptT.lift (host.readFile path) with
  | .error f => ExceptT.mk (pure (failOn path ("failed reading Sierra JSON: " ++ path) (.io f)))
  | .ok bytes =>
    let p ← ExceptT.mk (pure (decodeProgram path bytes))
    logAll host (loadedEntries path p)
    return p

def buildRegistry (host : Host m) (p : Program) : ExceptT Failure m Registry := do
  let r ← ExceptT.mk (pure (validated "ProgramRegistry validation failed" p))
  logAll host [validatedEntry]
  return r

/-- Validates a program for the sizes of its types. -/
def deriveSizes (p : Program) : ExceptT Failure m Registry :=
  ExceptT.mk (pure (validated "failed creating ProgramRegistryInfo" p))

def computeMetadata (host : Host m) (r : Registry) : ExceptT Failure m Metadata := do
  let positions ← ExceptT.mk (pure (analyzed r))
  logAll host (changeEntries r.program positions)
  return positions

/-- Compiles a program without a limit on its size. -/
def compileProgram (host : Host m) (r : Registry) (positions : Metadata) (gasCheck : Bool) :
    ExceptT Failure m Casm.Program := do
  let out ← ExceptT.mk (pure (compiled r positions gasCheck))
  logAll host [compiledEntry out gasCheck]
  return out

/-- Writes the text of a compiled program and a line break to a file, in a directory that is made
if it is missing. -/
def writeCasm (host : Host m) (path : String) (out : Casm.Program) : ExceptT Failure m Unit := do
  let directory := Path.directory path
  match ← ExceptT.lift (host.makeDirs directory) with
  | .error f =>
    ExceptT.mk (pure (failOn directory
      ("failed creating CASM output directory: " ++ directory) (.io f)))
  | .ok () =>
    match ← ExceptT.lift (host.writeFile path (out.render ++ "\n")) with
    | .error f => ExceptT.mk (pure (failOn path ("failed writing CASM output: " ++ path) (.io f)))
    | .ok () => logAll host [writtenEntry path]

/-! ### Commands -/

/-- The counts of a validated program. -/
structure ValidateSummary where
  functions : Int
  libfuncs : Int
  statements : Int
  types : Int
  validated : Bool
deriving DecidableEq, Repr

/-- The counts of a program that is valid. -/
def ValidateSummary.ofProgram (p : Program) : ValidateSummary where
  functions := p.functions.length
  libfuncs := p.libfuncs.length
  statements := p.statements.length
  types := p.types.length
  validated := true

def validateFile (host : Host m) (path : String) : ExceptT Failure m ValidateSummary := do
  let p ← loadProgram host path
  let _ ← buildRegistry host p
  return .ofProgram p

/-- The shape of a compiled program. -/
structure CompileSummary where
  compiled : Bool
  constSegments : Int
  gasCheck : Bool
  instructions : Int
  outCasm : String
deriving DecidableEq, Repr

/-- Compiles the program in a file to another file. -/
def compileFile (host : Host m) (input output : String) (gasCheck : Bool) :
    ExceptT Failure m CompileSummary := do
  let p ← loadProgram host input
  let r ← deriveSizes p
  let positions ← computeMetadata host r
  let out ← compileProgram host r positions gasCheck
  writeCasm host output out
  return { compiled := true
           constSegments := out.segments.length
           gasCheck := gasCheck
           instructions := out.instructions.length
           outCasm := output }

end SierraCasm.Pipeline
