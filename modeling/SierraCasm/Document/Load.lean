import SierraCasm.Document.Read
import SierraCasm.Document.Unification

/-! # Loading a versioned program

A document is an object with a version.  Only version 1 is known; its document is checked against
the schema of programs and then read.  A document of another version is kept by its version only.
Parsing and checking are those of a `Checker`; `load` takes the one that follows `cuelang.org/go`. -/

namespace SierraCasm.Document

/-- Why bytes are not a versioned program. -/
inductive FormatFault where
  /-- the bytes are not one JSON value, or not laid out as one must be -/
  | notJson
  /-- the values of a repeated key conflict -/
  | conflict
  /-- there is no version, or it is neither an integer nor a text -/
  | noVersion
  /-- the value does not have the shape of a program -/
  | shape
  /-- the program cannot be read -/
  | read (fault : ReadFault)
deriving DecidableEq, Repr

def FormatFault.message? : FormatFault → Option String
  | .read (.form value defect) =>
    some ("decoding program: " ++ value.name ++ ": " ++ defect.message)
  | _ => none

/-- A document by its version; only the supported version carries a program. -/
structure Envelope where
  version : String
  artifact : Option Artifact := none
deriving Repr

/-- A version that is not supported. -/
structure VersionFault where
  version : String
deriving DecidableEq, Repr

def VersionFault.message (f : VersionFault) : String :=
  "unsupported VersionedProgram version " ++ Text.quoted f.version ++ " (supported: " ++
    Text.quoted supportedVersion ++ ")"

/-- The program of a document, if its version is supported. -/
def Envelope.program (e : Envelope) : Except VersionFault Artifact :=
  match e.artifact with
  | some a => .ok a
  | none => .error ⟨e.version⟩

/-- Integer versions lie within this bound. -/
def versionBound : Int := Int64.maxValue.toInt

/-- The version that a value stands for; `1` and `"1"` are the same. -/
def versionOf? : Json → Option String
  | .str spelling => some (Json.content spelling)
  | .num spelling => do
    let n ← Text.intOfString? spelling
    if -versionBound ≤ n ∧ n ≤ versionBound then some (toString n) else none
  | _ => none

namespace Checker

variable (c : Checker)

/-- The JSON value that some bytes are. -/
def parse (bytes : ByteArray) : Except FormatFault Json :=
  match String.fromUTF8? bytes with
  | none => .error .notJson
  | some s => if c.parses s then (Json.parse? s).elim (.error .notJson) .ok else .error .notJson

/-- The version of a document; all values given for it agree. -/
def version? (j : Json) : Option String := (c.values "version" [j]).head?.bind versionOf?

/-- Loads a document that was parsed. -/
def loadJson (j : Json) : Except FormatFault Envelope := do
  require (c.agrees [j]) .conflict
  require (c.conforms Schema.envelope [j]) .noVersion
  let version ← (c.version? j).elim (.error .noVersion) .ok
  if version = supportedVersion then
    require (c.conforms Schema.program [j]) .shape
    let artifact ← (Reader.artifact.run j).mapError .read
    return ⟨version, some artifact⟩
  else
    return ⟨version, none⟩

/-- Loads a versioned program. -/
def load (bytes : ByteArray) : Except FormatFault Envelope := do
  c.loadJson (← c.parse bytes)

end Checker

/-- Loads a versioned program by unification. -/
def load (bytes : ByteArray) : Except FormatFault Envelope := unification.load bytes

end SierraCasm.Document
