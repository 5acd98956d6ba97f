import Mathlib.Algebra.Group.Int.Defs
import SierraCasm.Proofs.Registry.Specialized
import SierraCasm.Proofs.Sierra.Unnamed

/-! # Well-formed programs

The rules that a program has to follow, said of its declarations and statements alone.  A type is
formed from types declared before it (`TypeFormed`).  A libfunc is formed from the declared types
and functions (`LibfuncFormed`); its rule also gives the `Arity` that the statements which invoke
it must have (`Arity.Admits`).

The rules come in five groups, and a program that breaks some of them is refused with a code of
the first group that it breaks. -/

namespace SierraCasm.Sierra

open Concrete

/-! ### Declared types -/

/-- A type with the number of `id` is declared with a long id. -/
def DeclaredAs (types : List Declaration) (id : Ident) (long : LongId) : Prop :=
  ∃ d ∈ types, d.id.id = id.id ∧ d.longId = long

/-- A type with the number of `id` is declared. -/
def Declared (types : List Declaration) (id : Ident) : Prop := ∃ long, DeclaredAs types id long

/-- A type is declared with a long id, up to debug names. -/
def Declares (types : List Declaration) (long : LongId) : Prop :=
  ∃ d ∈ types, d.longId.unnamed = long.unnamed

/-- The first type declared with a long id, up to debug names. -/
def firstDeclared? (types : List Declaration) (long : LongId) : Option Declaration :=
  types.find? fun d => d.longId.unnamed = long.unnamed

/-- The generic types whose values are not kept in memory. -/
def fleetingNames : List String := ["Const", "Uninitialized"]

/-- A type is declared, and its values are kept in memory. -/
def Storable (types : List Declaration) (id : Ident) : Prop :=
  ∃ long, DeclaredAs types id long ∧ long.generic ∉ fleetingNames

/-- The generic types that have constants. -/
def numberNames : List String := "felt252" :: uintWidths.map uintName

/-- The generic types without arguments. -/
def wordNames : List String := "RangeCheck" :: "GasBuiltin" :: numberNames

/-- The generic types whose argument is the type of what is inside. -/
def wrapperNames : List String := ["NonZero", "Box"]

/-- The generic types whose values are made of other values. -/
def compoundNames : List String := "Struct" :: wrapperNames

/-- What may be done with a value besides using it once. -/
inductive Use where
  | drop
  | dup
deriving DecidableEq, Repr

/-- The generic types that allow a use whatever their arguments are. -/
def Use.names : Use → List String
  | .drop => "Uninitialized" :: numberNames
  | .dup => numberNames

/-- The types that allow a use: some by themselves, and a compound type when all types that it is
made of do. -/
inductive Allows (types : List Declaration) (use : Use) : Ident → Prop
  | simple {id : Ident} {long : LongId} : DeclaredAs types id long → long.generic ∈ use.names →
      Allows types use id
  | compound {id : Ident} {long : LongId} : DeclaredAs types id long →
      long.generic ∈ compoundNames → (∀ inner, .type inner ∈ long.args → Allows types use inner) →
      Allows types use id

/-- The integers that stand for constants of a generic type. -/
inductive InRange : String → Int → Prop
  | felt252 {v : Int} : -starkPrime < v → v < starkPrime → InRange "felt252" v
  | uint {bits : Nat} {v : Int} : bits ∈ uintWidths → 0 ≤ v → v < 2 ^ bits →
      InRange (uintName bits) v

/-- The long ids of types that can be declared after some others. -/
inductive TypeFormed (earlier : List Declaration) : LongId → Prop
  | word {name : String} : name ∈ wordNames → TypeFormed earlier ⟨name, []⟩
  | wrapper {name : String} {id : Ident} : name ∈ wrapperNames → Storable earlier id →
      TypeFormed earlier ⟨name, [.type id]⟩
  | struct {user : Ident} {members : List Ident} : (∀ id ∈ members, Storable earlier id) →
      TypeFormed earlier ⟨"Struct", .userType user :: members.map .type⟩
  | const {id : Ident} {long : LongId} {v : Int} : DeclaredAs earlier id long →
      InRange long.generic v → TypeFormed earlier ⟨"Const", [.type id, .value v]⟩
  | uninitialized {id : Ident} : Declared earlier id →
      TypeFormed earlier ⟨"Uninitialized", [.type id]⟩

/-! ### Libfuncs -/

/-- How many variables an invocation of a libfunc takes, how many each branch binds, and the branch
that continues with the next statement. -/
structure Arity where
  params : Nat
  results : List Nat
  fallthrough : Option Nat
deriving DecidableEq, Repr

/-- One branch, which falls through. -/
def Arity.single (params results : Nat) : Arity := ⟨params, [results], some 0⟩

/-- The long ids of libfuncs that a program can declare, with their arities. -/
inductive LibfuncFormed (p : Program) : LongId → Arity → Prop
  | feltConst {v : Int} : InRange "felt252" v → Declares p.types ⟨"felt252", []⟩ →
      LibfuncFormed p ⟨"felt252_const", [.value v]⟩ (.single 0 1)
  | feltBinary {name : String} : name ∈ ["felt252_add", "felt252_sub", "felt252_mul"] →
      Declares p.types ⟨"felt252", []⟩ → LibfuncFormed p ⟨name, []⟩ (.single 2 1)
  | feltIsZero {felt : Declaration} : firstDeclared? p.types ⟨"felt252", []⟩ = some felt →
      Declares p.types ⟨"NonZero", [.type felt.id]⟩ →
      LibfuncFormed p ⟨"felt252_is_zero", []⟩ ⟨1, [0, 1], some 0⟩
  | uintConst {bits : Nat} {v : Int} : bits ∈ uintWidths → InRange (uintName bits) v →
      Declares p.types ⟨uintName bits, []⟩ →
      LibfuncFormed p ⟨uintName bits ++ "_const", [.value v]⟩ (.single 0 1)
  | uintToFelt {bits : Nat} : bits ∈ uintWidths → Declares p.types ⟨uintName bits, []⟩ →
      Declares p.types ⟨"felt252", []⟩ →
      LibfuncFormed p ⟨uintName bits ++ "_to_felt252", []⟩ (.single 1 1)
  | storeTemp {id : Ident} : Storable p.types id →
      LibfuncFormed p ⟨"store_temp", [.type id]⟩ (.single 1 1)
  | rename {id : Ident} : Declared p.types id →
      LibfuncFormed p ⟨"rename", [.type id]⟩ (.single 1 1)
  | drop {id : Ident} : Allows p.types .drop id →
      LibfuncFormed p ⟨"drop", [.type id]⟩ (.single 1 0)
  | dup {id : Ident} : Allows p.types .dup id →
      LibfuncFormed p ⟨"dup", [.type id]⟩ (.single 1 2)
  | jump : LibfuncFormed p ⟨"jump", []⟩ ⟨0, [0], none⟩
  | marker {name : String} :
      name ∈ ["branch_align", "disable_ap_tracking", "enable_ap_tracking"] →
      LibfuncFormed p ⟨name, []⟩ (.single 0 0)
  | functionCall {id : Ident} {f : Function} : f ∈ p.functions → f.id.id = id.id →
      LibfuncFormed p ⟨"function_call", [.userFunc id]⟩
        (.single f.paramTypes.length f.retTypes.length)
  | withdrawGas : Declares p.types ⟨"RangeCheck", []⟩ → Declares p.types ⟨"GasBuiltin", []⟩ →
      LibfuncFormed p ⟨"withdraw_gas", []⟩ ⟨2, [2, 2], some 0⟩
  | structConstruct {id user : Ident} {members : List GenericArg} :
      DeclaredAs p.types id ⟨"Struct", .userType user :: members⟩ →
      LibfuncFormed p ⟨"struct_construct", [.type id]⟩ (.single members.length 1)
  | structDeconstruct {id user : Ident} {members : List GenericArg} :
      DeclaredAs p.types id ⟨"Struct", .userType user :: members⟩ →
      LibfuncFormed p ⟨"struct_deconstruct", [.type id]⟩ (.single 1 members.length)
  | unbox {id : Ident} : Declared p.types id → Declares p.types ⟨"Box", [.type id]⟩ →
      LibfuncFormed p ⟨"unbox", [.type id]⟩ (.single 1 1)
  | unwrapNonZero {id : Ident} : Declared p.types id → Declares p.types ⟨"NonZero", [.type id]⟩ →
      LibfuncFormed p ⟨"unwrap_non_zero", [.type id]⟩ (.single 1 1)
  | constAsImmediate {id inner : Ident} {v : Int} :
      DeclaredAs p.types id ⟨"Const", [.type inner, .value v]⟩ →
      LibfuncFormed p ⟨"const_as_immediate", [.type id]⟩ (.single 0 1)
  | constAsBox {id inner : Ident} {v segment : Int} :
      DeclaredAs p.types id ⟨"Const", [.type inner, .value v]⟩ → 0 ≤ segment →
      segment < 2 ^ 16 → Declares p.types ⟨"Box", [.type inner]⟩ →
      LibfuncFormed p ⟨"const_as_box", [.type id, .value segment]⟩ (.single 0 1)

/-! ### Functions and statements -/

/-- The types of a function are declared, its parameters are distinct and those of its signature,
and its body starts in the program or at its end. -/
structure FunctionFormed (p : Program) (f : Function) : Prop where
  paramTypes : ∀ id ∈ f.paramTypes, Declared p.types id
  retTypes : ∀ id ∈ f.retTypes, Declared p.types id
  params : f.params.map (·.type.id) = f.paramTypes.map (·.id)
  distinct : (f.params.map (·.var)).Nodup
  entry_nonneg : 0 ≤ f.entry
  entry_le : f.entry ≤ p.statements.length

/-- An invocation in a program with `n` statements that a libfunc of some arity admits. -/
structure Arity.Admits (a : Arity) (n : Nat) (inv : Invocation) : Prop where
  args : inv.args.length = a.params
  results : inv.branches.map (·.results.length) = a.results
  fallthrough : ∀ b branch, inv.branches[b]? = some branch →
    (branch.target = .fallthrough ↔ a.fallthrough = some b)
  target : ∀ branch ∈ inv.branches, ∀ t, branch.target = .statement t → 0 ≤ t ∧ t < n

/-- An invocation names a declared libfunc whose arity admits it. -/
def InvocationFormed (p : Program) (inv : Invocation) : Prop :=
  ∃ d ∈ p.libfuncs, d.id.id = inv.libfunc.id ∧
    ∃ a, LibfuncFormed p d.longId a ∧ a.Admits p.statements.length inv

/-! ### Groups -/

/-- The groups of rules, in the order in which they are checked. -/
inductive RuleGroup where
  | ids
  | functions
  | types
  | libfuncs
  | statements
deriving DecidableEq, Repr

namespace RuleGroup

def place : RuleGroup → Nat
  | .ids => 1
  | .functions => 2
  | .types => 3
  | .libfuncs => 4
  | .statements => 5

def codes : RuleGroup → List String
  | .ids => ["E110"]
  | .functions => ["E111", "E112", "E113", "E122"]
  | .types => ["E114"]
  | .libfuncs => ["E115"]
  | .statements => ["E116", "E117", "E118", "E119", "E120", "E121"]

/-- A program follows the rules of a group. -/
def Holds (p : Program) : RuleGroup → Prop
  | .ids => (p.types.map (·.id.id)).Nodup ∧ (p.libfuncs.map (·.id.id)).Nodup ∧
      (p.functions.map (·.id.id)).Nodup
  | .functions => ∀ f ∈ p.functions, FunctionFormed p f
  | .types => ∀ earlier d later, p.types = earlier ++ d :: later → TypeFormed earlier d.longId
  | .libfuncs => ∀ d ∈ p.libfuncs, ∃ a, LibfuncFormed p d.longId a
  | .statements => ∀ inv, .invoke inv ∈ p.statements → InvocationFormed p inv

end RuleGroup

/-- A program that follows all rules. -/
def Program.WellFormed (p : Program) : Prop := ∀ g : RuleGroup, g.Holds p

/-- The first group of rules that a program breaks. -/
def Program.FirstBroken (p : Program) (g : RuleGroup) : Prop :=
  ¬ g.Holds p ∧ ∀ earlier : RuleGroup, earlier.place < g.place → earlier.Holds p

end SierraCasm.Sierra
