/-! # Kinds of failures

Each failure of the toolchain has a kind, by the stage it comes from, and each kind has a code.
Codes below `E100` are about the input, then follow validation, analysis and compilation. -/

namespace SierraCasm

/-- The kinds of failures. -/
inductive Kind where
  | io
  | format
  | unsupportedVersion
  | registry
  | metadata
  | compile
  | gasCheck
  | instructionLimit
deriving DecidableEq, Repr

namespace Kind

def name : Kind → String
  | .io => "IoError"
  | .format => "FormatError"
  | .unsupportedVersion => "UnsupportedVersionError"
  | .registry => "RegistryError"
  | .metadata => "MetadataError"
  | .compile => "CompileError"
  | .gasCheck => "GasCheckError"
  | .instructionLimit => "InstructionLimitExceeded"

def code : Kind → String
  | .io => "E005"
  | .format => "E004"
  | .unsupportedVersion => "E008"
  | .registry => "E101"
  | .metadata => "E201"
  | .compile => "E301"
  | .gasCheck => "E302"
  | .instructionLimit => "E303"

/-- The kind with a number. -/
def ofNumber? : Int → Option Kind
  | 0 => some .io
  | 1 => some .format
  | 2 => some .unsupportedVersion
  | 3 => some .registry
  | 4 => some .metadata
  | 5 => some .compile
  | 6 => some .gasCheck
  | 7 => some .instructionLimit
  | _ => none

/-- The name that a number stands for. -/
def nameOfNumber (n : Int) : String := ((ofNumber? n).map name).getD "UnknownError"

/-- The code that a number stands for; a number without a kind has that of compilation. -/
def codeOfNumber (n : Int) : String := ((ofNumber? n).getD .compile).code

end Kind

end SierraCasm
