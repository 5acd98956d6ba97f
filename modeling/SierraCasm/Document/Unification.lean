import SierraCasm.Document.Checker
import SierraCasm.Document.Number
import SierraCasm.Json.Parser

/-! # Unification

The checker that runs, after the rules of `cuelang.org/go`: all values given for a place are
unified.  Equal scalars unify, objects unify member by member, lists item by item, and nothing else
does.  Values unify together if they do so in pairs. -/

namespace SierraCasm.Document.Unification

/-! ### Values that unify -/

/-- The member that a key means as it is spelled. -/
def labelOf (key : String) : Label := Key.label (Json.content key)

mutual

/-- Two values can be unified. -/
def unifiable : Json → Json → Bool
  | .null, .null => true
  | .bool a, .bool b => a == b
  | .num a, .num b => Number.ofSpelling a == Number.ofSpelling b
  | .str a, .str b => Json.content? a == Json.content? b
  | .arr _ xs, .arr _ ys => itemsUnifiable xs ys
  | .obj _ ms, .obj _ ns => membersUnifiable ms ns
  | _, _ => false

def itemsUnifiable : List Json → List Json → Bool
  | [], [] => true
  | x :: xs, y :: ys => unifiable x y && itemsUnifiable xs ys
  | _, _ => false

/-- The members of one label can be unified. -/
def membersUnifiable : List (String × Json) → List (String × Json) → Bool
  | [], _ => true
  | (key, v) :: ms, ns =>
    (ns.all fun n => labelOf n.1 != labelOf key || unifiable v n.2) && membersUnifiable ms ns

end

mutual

/-- A value can be built: its strings are text, and the values of repeated keys unify. -/
def isValue : Json → Bool
  | .str spelling => (Json.content? spelling).isSome
  | .arr _ items => areValues items
  | .obj _ members => areMembers members
  | _ => true

def areValues : List Json → Bool
  | [] => true
  | j :: items => isValue j && areValues items

def areMembers : List (String × Json) → Bool
  | [] => true
  | (key, v) :: members =>
    (Json.content? key).isSome && isValue v &&
      (members.all fun m => labelOf m.1 != labelOf key || unifiable v m.2) && areMembers members

end

/-- All values given for a place can be unified. -/
def allUnifiable : Given → Bool
  | [] => true
  | j :: given => isValue j && given.all (unifiable j) && allUnifiable given

/-! ### Values of a shape -/

def isArray : Json → Bool
  | .arr _ _ => true
  | _ => false

def isObject : Json → Bool
  | .obj _ _ => true
  | _ => false

/-- A value is one of some texts. -/
def isText (texts : List String) : Json → Bool
  | .str spelling => texts.contains (Json.content spelling)
  | _ => false

/-- The number of items of the longest list. -/
def longest (given : Given) : Nat :=
  given.foldr (fun
    | .arr _ items, n => max items.length n
    | _, n => n) 0

/-- All members are of one label, definitions apart. -/
def onlyMember (given : Given) (key : String) : Bool :=
  (given.flatMap membersOf).all fun m =>
    (labelOf m.1).isDefinition || labelOf m.1 == .field key

open Schema (Shape)

mutual

/-- Values that unify have a shape. -/
def fits : Shape → Given → Bool
  | .any, _ => true
  | .scalar kind, given => given.all kind.accepts
  | .list item, given =>
    given.all isArray && (List.range (longest given)).all fun i => fits item (given.item i)
  | .record fields, given => given.all isObject && fitFields fields given
  | .oneOf texts forms, given =>
    given.all (isText texts) || given.all isObject && fitForm forms given

def fitFields : List (String × Bool × Shape) → Given → Bool
  | [], _ => true
  | (key, required, shape) :: fields, given =>
    let values := given.labelled Key.label (.field key)
    (if values.isEmpty then !required else fits shape values) && fitFields fields given

def fitForm : List (String × Shape) → Given → Bool
  | [], _ => false
  | (key, shape) :: forms, given =>
    let values := given.labelled Key.label (.field key)
    !values.isEmpty && onlyMember given key && fits shape values || fitForm forms given

end

/-! ### Texts -/

/-- Every comma and colon stands on the line on which what it follows ends; `ended` tells whether
that line has ended. -/
def separatorsInLine (ended : Bool) : List Json.Token → Bool
  | [] => true
  | .blank c :: rest => separatorsInLine (ended || c = '\n') rest
  | .comma :: rest => !ended && separatorsInLine false rest
  | .colon :: rest => !ended && separatorsInLine false rest
  | _ :: rest => separatorsInLine false rest

/-- There is no byte order mark, and no line ends in front of a comma or a colon. -/
def parses (s : String) : Bool :=
  !s.toList.contains byteOrderMark && (Json.Token.scan s.toList).all (separatorsInLine false)

end SierraCasm.Document.Unification

namespace SierraCasm.Document

/-- The checker that runs. -/
def unification : Checker where
  parses := Unification.parses
  label := Key.label
  conforms := fun shape given => Unification.allUnifiable given && Unification.fits shape given

end SierraCasm.Document
