import SierraCasm.Text.Composed
import SierraCasm.Text.Letter

/-! # Keys of members

Which keys of an object `cuelang.org/go` takes for the same member.  Its JSON decoder makes an
identifier of a key that can be one, which is taken as it is spelled; any other key stands for its
composed spelling.  An identifier with a number sign in front names a definition, which every
object may have and which is another member than that of the same text. -/

namespace SierraCasm.Document

/-- The member that a key means. -/
structure Label where
  isDefinition : Bool
  text : String
deriving DecidableEq, Repr

/-- The label of an ordinary member. -/
def Label.field (text : String) : Label := ⟨false, text⟩

namespace Key

/-- A character may occur in a name. -/
def isNameChar (c : Char) : Bool :=
  c = '_' || c = '$' || Text.isLetter c || Text.isDecimalDigit c

/-- Characters make up a name; the first is no digit. -/
def areName (cs : List Char) : Bool := !cs.head?.any Text.isDecimalDigit && cs.all isNameChar

/-- A key is a name, which may have a number sign in front.  No name starts with a low line. -/
def isName (key : String) : Bool :=
  match key.toList with
  | [] => false
  | '_' :: _ => false
  | '#' :: cs => areName cs
  | cs => areName cs

def label (key : String) : Label :=
  if isName key then ⟨key.toList.head? == some '#', key⟩ else .field (Text.composed key)

end Key

end SierraCasm.Document
