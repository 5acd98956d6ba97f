import SierraCasm.Document.Basic
import SierraCasm.Json.Spelling
import SierraCasm.Text.Decimal

/-! # The shape of serialized programs

The schema of serialized programs as data.  A list or a record without required members may be
absent; other members must be there unless they are optional.  Objects may have members that are
not named here, except those that give one of several forms. -/

namespace SierraCasm.Document

/-- The version that is known. -/
def supportedVersion : String := "1"

namespace Schema

inductive Scalar where
  | natural
  | text
  | integerOrText
  | textOrNull
  | version
deriving DecidableEq, Repr

/-- The scalars of a kind. -/
def Scalar.accepts : Scalar → Json → Bool
  | .natural, .num spelling => (Text.intOfString? spelling).any fun n => 0 ≤ n
  | .text, .str _ => true
  | .integerOrText, .num spelling => (Text.intOfString? spelling).isSome
  | .integerOrText, .str _ => true
  | .textOrNull, .str _ => true
  | .textOrNull, .null => true
  | .version, .num spelling => Text.intOfString? spelling == some 1
  | .version, .str spelling => Json.content spelling == supportedVersion
  | _, _ => false

/-- What a value may be.  The members of a record are given by their keys, whether they are
required, and their shapes.  A value in several forms is one of some texts or an object with one
member. -/
inductive Shape where
  | any
  | scalar (kind : Scalar)
  | list (item : Shape)
  | record (fields : List (String × Bool × Shape))
  | oneOf (texts : List String) (forms : List (String × Shape))

abbrev Field := String × Bool × Shape

/-- A member that must be there. -/
abbrev required (key : String) (shape : Shape) : Field := (key, true, shape)

/-- A member that may be absent. -/
abbrev optional (key : String) (shape : Shape) : Field := (key, false, shape)

/-! ### Programs -/

def ident : Shape :=
  .record [required "id" (.scalar .natural), optional "debug_name" (.scalar .textOrNull)]

def varId : Shape := .record [required "id" (.scalar .natural)]

def genericArg : Shape :=
  .oneOf [] [("Type", ident), ("UserType", ident), ("Value", .scalar .integerOrText),
    ("Libfunc", ident), ("UserFunc", ident)]

def longId : Shape :=
  .record [required "generic_id" (.scalar .text), optional "generic_args" (.list genericArg)]

/-- A declaration of a type or of a libfunc. -/
def declaration : Shape := .record [required "id" ident, required "long_id" longId]

def target : Shape := .oneOf ["Fallthrough"] [("Statement", .scalar .natural)]

def branch : Shape := .record [required "target" target, optional "results" (.list varId)]

def invocation : Shape :=
  .record [required "libfunc_id" ident, optional "args" (.list varId),
    optional "branches" (.list branch)]

def statement : Shape := .oneOf [] [("Invocation", invocation), ("Return", .list varId)]

def param : Shape := .record [required "id" varId, required "ty" ident]

def signature : Shape :=
  .record [optional "param_types" (.list ident), optional "ret_types" (.list ident)]

def function : Shape :=
  .record [required "id" ident, optional "signature" signature, optional "params" (.list param),
    required "entry_point" (.scalar .natural)]

/-- The lists of a program. -/
def programFields : List Field :=
  [optional "type_declarations" (.list declaration),
    optional "libfunc_declarations" (.list declaration),
    optional "statements" (.list statement), optional "funcs" (.list function)]

/-- A document with its version. -/
def envelope : Shape := .record [required "version" (.scalar .integerOrText)]

/-- The members of a document of the supported version. -/
def documentFields : List Field :=
  required "version" (.scalar .version) :: optional "debug_info" .any :: programFields

/-- A document of the supported version. -/
def program : Shape := .record documentFields

end Schema

end SierraCasm.Document
