import SierraCasm.Concrete.Fault
import SierraCasm.Felt

/-! # Concrete types

`specializeType` gives the long id of a type declaration its meaning: a `Shape` and the properties
that the rest of the compiler asks for (`TypeInfo`).  Its first argument answers for the types
declared so far, so a type can only refer to earlier ones. -/

namespace SierraCasm.Concrete

open Sierra

/-- What every concrete type carries; `size` counts memory cells and wraps at 64 bits. -/
structure TypeInfo where
  longId : LongId
  storable : Bool := false
  droppable : Bool := false
  duplicatable : Bool := false
  zeroSized : Bool := false
  size : Int64 := 0
deriving DecidableEq, Repr

/-- The generic type that a concrete type was made from, with its arguments. -/
inductive Shape where
  | felt252
  | uint (bits : Nat)
  | rangeCheck
  | gasBuiltin
  | nonZero (inner : Ident)
  | box (inner : Ident)
  | struct (userType : Ident) (members : List Ident)
  | const (inner : Ident) (value : Int)
  | uninitialized (inner : Ident)
deriving DecidableEq, Repr

/-- A specialized type declaration. -/
structure ConcreteType where
  shape : Shape
  info : TypeInfo
deriving DecidableEq, Repr

/-- The generic types of the catalog. -/
inductive GenericType where
  | felt252
  | uint (bits : Nat)
  | rangeCheck
  | gasBuiltin
  | nonZero
  | box
  | struct
  | const
  | uninitialized
deriving DecidableEq, Repr

def GenericType.ofName? : String → Option GenericType
  | "felt252" => some .felt252
  | "u8" => some (.uint 8)
  | "u16" => some (.uint 16)
  | "u32" => some (.uint 32)
  | "u64" => some (.uint 64)
  | "u128" => some (.uint 128)
  | "RangeCheck" => some .rangeCheck
  | "GasBuiltin" => some .gasBuiltin
  | "NonZero" => some .nonZero
  | "Box" => some .box
  | "Struct" => some .struct
  | "Const" => some .const
  | "Uninitialized" => some .uninitialized
  | _ => none

def uintName (bits : Nat) : String := "u" ++ toString bits

/-- An answer for every declared type. -/
abbrev TypeLookup := Ident → Option ConcreteType

/-! ### Arguments -/

/-- Accepts a long id without arguments. -/
def checkNoArgs (long : LongId) : Except SpecializationError Unit :=
  if long.args.isEmpty then .ok () else reject long (.argumentsNotExpected long.args.length)

/-- The declared type that argument `i` names. -/
def typeArg (types : TypeLookup) (long : LongId) (i : Nat) (arg : GenericArg) :
    Except SpecializationError (Ident × ConcreteType) :=
  match arg with
  | .type id =>
    match types id with
    | some ty => .ok (id, ty)
    | none => reject long (.typeNotDeclaredBefore i id)
  | other => reject long (.typeExpected i other.kind)

/-- The declared type that the only argument names. -/
def singleTypeArg (types : TypeLookup) (long : LongId) :
    Except SpecializationError (Ident × ConcreteType) :=
  match long.args with
  | [arg] => typeArg types long 0 arg
  | args => reject long (.oneArgumentExpected args.length)

/-- A value is a constant of the unsigned integers of some width. -/
def fitsBits (bits : Nat) (v : Int) : Bool := 0 ≤ v && v < Nat.pow 2 bits

/-- Accepts the constants of a scalar type. -/
def checkConstant (long : LongId) (ty : ConcreteType) (arg : GenericArg) :
    Except SpecializationError Int :=
  match ty.shape, arg with
  | .felt252, .value v =>
    if Felt.inRange v then .ok v else reject long (.outOfRange v "felt252")
  | .uint bits, .value v =>
    if fitsBits bits v then .ok v else reject long (.outOfRange v (uintName bits))
  | .felt252, other => reject long (.valueExpected other.kind)
  | .uint _, other => reject long (.valueExpected other.kind)
  | _, _ => reject long (.constantsNotSupported ty.info.longId.generic)

/-! ### Specialization -/

/-- One cell that can be stored, dropped and duplicated. -/
def TypeInfo.plain (long : LongId) : TypeInfo :=
  { longId := long, storable := true, droppable := true, duplicatable := true, size := 1 }

/-- One cell that can be stored but neither dropped nor duplicated. -/
def TypeInfo.linear (long : LongId) : TypeInfo :=
  { longId := long, storable := true, size := 1 }

/-- A wrapper around a value that is known not to be zero has the properties of the value. -/
def specializeNonZero (types : TypeLookup) (long : LongId) :
    Except SpecializationError ConcreteType := do
  let (id, inner) ← singleTypeArg types long
  if inner.info.storable then
    return ⟨.nonZero id, { inner.info with longId := long }⟩
  else
    reject long (.wrappedNotStorable id)

/-- A box is one cell, an address; what may be done with it depends on its contents. -/
def specializeBox (types : TypeLookup) (long : LongId) :
    Except SpecializationError ConcreteType := do
  let (id, inner) ← singleTypeArg types long
  if inner.info.storable then
    return ⟨.box id,
      { longId := long, storable := true, droppable := inner.info.droppable,
        duplicatable := inner.info.duplicatable, size := 1 }⟩
  else
    reject long (.boxedNotStorable id)

/-- The member of a struct that argument `i` names. -/
def memberArg (types : TypeLookup) (long : LongId) (arg : GenericArg × Nat) :
    Except SpecializationError (Ident × ConcreteType) := do
  let (id, member) ← typeArg types long arg.2 arg.1
  if member.info.storable then return (id, member) else reject long (.memberNotStorable id)

/-- The properties of a struct: those that all members share, and the sum of their sizes. -/
def TypeInfo.ofMembers (long : LongId) (members : List TypeInfo) : TypeInfo :=
  let size := members.foldl (fun n m => n + m.size) 0
  { longId := long
    storable := true
    droppable := members.all (·.droppable)
    duplicatable := members.all (·.duplicatable)
    zeroSized := size == 0
    size := size }

/-- A struct names a user type and then the types of its members. -/
def specializeStruct (types : TypeLookup) (long : LongId) :
    Except SpecializationError ConcreteType :=
  match long.args with
  | .userType user :: args => do
    let members ← (args.zipIdx 1).mapM (memberArg types long)
    return ⟨.struct user (members.map (·.1)),
      TypeInfo.ofMembers long (members.map (·.2.info))⟩
  | _ => reject long .userTypeExpectedFirst

/-- A constant is a value at compile time; it takes no cells and can be neither stored, dropped
nor duplicated. -/
def specializeConst (types : TypeLookup) (long : LongId) :
    Except SpecializationError ConcreteType :=
  match long.args with
  | [typeArgument, valueArgument] => do
    let (id, inner) ← typeArg types long 0 typeArgument
    if valueArgument.kind = .value then
      let v ← checkConstant long inner valueArgument
      return ⟨.const id v, { longId := long, zeroSized := true }⟩
    else
      reject long (.valueExpected valueArgument.kind)
  | args => reject long (.twoArgumentsExpected args.length)

/-- Reserved cells that hold no value yet; all one can do is drop them. -/
def specializeUninitialized (types : TypeLookup) (long : LongId) :
    Except SpecializationError ConcreteType := do
  let (id, inner) ← singleTypeArg types long
  return ⟨.uninitialized id, { longId := long, droppable := true, size := inner.info.size }⟩

/-- A type without arguments. -/
def specializeLeaf (shape : Shape) (info : TypeInfo) :
    Except SpecializationError ConcreteType := do
  checkNoArgs info.longId
  return ⟨shape, info⟩

/-- The concrete type of a long id, given the types declared before it. -/
def specializeType (types : TypeLookup) (long : LongId) :
    Except SpecializationError ConcreteType :=
  match GenericType.ofName? long.generic with
  | none => reject long .unsupportedType
  | some .felt252 => specializeLeaf .felt252 (.plain long)
  | some (.uint bits) => specializeLeaf (.uint bits) (.plain long)
  | some .rangeCheck => specializeLeaf .rangeCheck (.linear long)
  | some .gasBuiltin => specializeLeaf .gasBuiltin (.linear long)
  | some .nonZero => specializeNonZero types long
  | some .box => specializeBox types long
  | some .struct => specializeStruct types long
  | some .const => specializeConst types long
  | some .uninitialized => specializeUninitialized types long

end SierraCasm.Concrete
