import SierraCasm.Proofs.Sierra.Unnamed
import SierraCasm.Registry.Basic

/-! # Validation without debug names

Validation is compared on a program and on the same program without debug names.  Two computations
agree (`Agree`) when both succeed, with related results, or both stop, with related errors.  On a
program without debug names validation succeeds exactly when it does on the program itself, with
the same registry up to debug names, and otherwise stops with the same code (`agree_build`). -/

namespace SierraCasm

/-! ### Computations that agree -/

/-- Two computations both succeed with related results, or both stop with related errors. -/
inductive Agree {ε ε' α β : Type} (E : ε → ε' → Prop) (R : α → β → Prop) :
    Except ε α → Except ε' β → Prop
  | ok {a : α} {b : β} : R a b → Agree E R (.ok a) (.ok b)
  | error {e : ε} {e' : ε'} : E e e' → Agree E R (.error e) (.error e')

/-- The second computation succeeds when the first one does, with the image of its result. -/
abbrev Mirrored {ε ε' α β : Type} (u : α → β) (x : Except ε α) (y : Except ε' β) : Prop :=
  Agree (fun _ _ => True) (fun a b => b = u a) x y

namespace Agree

variable {ε ε' α α' β β' : Type} {E : ε → ε' → Prop} {R : α → α' → Prop} {S : β → β' → Prop}
  {x : Except ε α} {y : Except ε' α'}

theorem bind {f : α → Except ε β} {g : α' → Except ε' β'} (h : Agree E R x y)
    (hf : ∀ a b, R a b → Agree E S (f a) (g b)) : Agree E S (x >>= f) (y >>= g) := by
  cases h with
  | ok hab => exact hf _ _ hab
  | error he => exact .error he

theorem mapError {δ δ' : Type} {D : δ → δ' → Prop} {f : ε → δ} {g : ε' → δ'} (h : Agree E R x y)
    (hf : ∀ e e', E e e' → D (f e) (g e')) : Agree D R (x.mapError f) (y.mapError g) := by
  cases h with
  | ok hab => exact .ok hab
  | error he => exact .error (hf _ _ he)

theorem mono {E' : ε → ε' → Prop} {R' : α → α' → Prop} (h : Agree E R x y)
    (hE : ∀ e e', E e e' → E' e e') (hR : ∀ a b, R a b → R' a b) : Agree E' R' x y := by
  cases h with
  | ok hab => exact .ok (hR _ _ hab)
  | error he => exact .error (hE _ _ he)

theorem of_common {δ γ : Type} {D : δ → ε' → Prop} {Q : γ → α' → Prop} {z : Except δ γ}
    (h : Agree E R x y) (h' : Agree D Q z y) :
    Agree (fun e d => ∃ e', E e e' ∧ D d e') (fun a c => ∃ b, R a b ∧ Q c b) x z := by
  cases h with
  | ok hab =>
    obtain ⟨hcb⟩ := h'
    exact .ok ⟨_, hab, hcb⟩
  | error he =>
    obtain - | hd := h'
    exact .error ⟨_, he, hd⟩

theorem cases (h : Agree E R x y) : (∃ a b, x = .ok a ∧ y = .ok b ∧ R a b) ∨
    ∃ e e', x = .error e ∧ y = .error e' ∧ E e e' := by
  cases h with
  | ok hab => exact .inl ⟨_, _, rfl, rfl, hab⟩
  | error he => exact .inr ⟨_, _, rfl, rfl, he⟩

theorem exists_ok {a : α} (h : Agree E R x y) (hx : x = .ok a) : ∃ b, y = .ok b ∧ R a b := by
  subst hx
  obtain ⟨hab⟩ := h
  exact ⟨_, rfl, hab⟩

theorem exists_error {e : ε} (h : Agree E R x y) (hx : x = .error e) :
    ∃ e', y = .error e' ∧ E e e' := by
  subst hx
  obtain - | he := h
  exact ⟨_, rfl, he⟩

theorem ite {c c' : Prop} [Decidable c] [Decidable c'] {x' : Except ε α} {y' : Except ε' α'}
    (hc : c ↔ c') (h : Agree E R x y) (h' : Agree E R x' y') :
    Agree E R (if c then x else x') (if c' then y else y') := by
  by_cases hpos : c
  · rwa [if_pos hpos, if_pos (hc.mp hpos)]
  · rwa [if_neg hpos, if_neg fun hpos' => hpos (hc.mpr hpos')]

theorem require {c c' : Bool} {e : ε} {e' : ε'} (hc : c = c') (he : E e e') :
    Agree E Eq (SierraCasm.require c e) (SierraCasm.require c' e') := by
  subst hc
  cases c with
  | true => exact .ok rfl
  | false => exact .error he

theorem checkAll {γ γ' : Type} {u : γ → γ'} {check : γ → Except ε Unit}
    {check' : γ' → Except ε' Unit} {xs : List γ}
    (h : ∀ x ∈ xs, Agree E Eq (check x) (check' (u x))) :
    Agree E Eq (SierraCasm.checkAll check xs) (SierraCasm.checkAll check' (xs.map u)) := by
  induction xs with
  | nil => exact .ok rfl
  | cons x xs ih =>
    refine (h x List.mem_cons_self).bind fun _ _ _ => ?_
    exact ih fun y hy => h y (List.mem_cons_of_mem x hy)

theorem mapM {γ γ' : Type} {u : γ → γ'} {v : α → α'} {f : γ → Except ε α} {g : γ' → Except ε' α'}
    {xs : List γ} (h : ∀ x ∈ xs, Agree E (fun a b => b = v a) (f x) (g (u x))) :
    Agree E (fun a b => b = a.map v) (xs.mapM f) ((xs.map u).mapM g) := by
  induction xs with
  | nil => exact .ok rfl
  | cons x xs ih =>
    rw [List.map_cons, List.mapM_cons, List.mapM_cons]
    refine (h x List.mem_cons_self).bind ?_
    rintro a _ rfl
    refine (ih fun y hy => h y (List.mem_cons_of_mem x hy)).bind ?_
    rintro as _ rfl
    exact .ok rfl

end Agree

open Sierra Concrete

/-! ### Concrete declarations without debug names -/

namespace Concrete

def Shape.unnamed : Shape → Shape
  | .felt252 => .felt252
  | .uint bits => .uint bits
  | .rangeCheck => .rangeCheck
  | .gasBuiltin => .gasBuiltin
  | .nonZero inner => .nonZero inner.unnamed
  | .box inner => .box inner.unnamed
  | .struct user members => .struct user.unnamed (members.map (·.unnamed))
  | .const inner v => .const inner.unnamed v
  | .uninitialized inner => .uninitialized inner.unnamed

def ConcreteType.unnamed (ty : ConcreteType) : ConcreteType :=
  ⟨ty.shape.unnamed, { ty.info with longId := ty.info.longId.unnamed }⟩

def ApEffect.unnamed : ApEffect → ApEffect
  | .known cells => .known cells
  | .call callee => .call callee.unnamed
  | .enableTracking => .enableTracking
  | .disableTracking => .disableTracking

def BranchSignature.unnamed (b : BranchSignature) : BranchSignature :=
  ⟨b.outputs.map (·.unnamed), b.ap.unnamed⟩

def Signature.unnamed (s : Signature) : Signature :=
  ⟨s.params.map (·.unnamed), s.branches.map (·.unnamed), s.fallthrough⟩

def Operation.unnamed : Operation → Operation
  | .functionCall callee => .functionCall callee.unnamed
  | .unbox contents => .unbox contents.unnamed
  | .felt252Const v => .felt252Const v
  | .felt252Binary op => .felt252Binary op
  | .felt252IsZero => .felt252IsZero
  | .uintConst v => .uintConst v
  | .uintToFelt252 => .uintToFelt252
  | .storeTemp => .storeTemp
  | .rename => .rename
  | .drop => .drop
  | .dup => .dup
  | .jump => .jump
  | .branchAlign => .branchAlign
  | .disableApTracking => .disableApTracking
  | .enableApTracking => .enableApTracking
  | .withdrawGas => .withdrawGas
  | .structConstruct => .structConstruct
  | .structDeconstruct => .structDeconstruct
  | .unwrapNonZero => .unwrapNonZero
  | .constAsImmediate v => .constAsImmediate v
  | .constAsBox v segment => .constAsBox v segment

def ConcreteLibfunc.unnamed (lib : ConcreteLibfunc) : ConcreteLibfunc :=
  ⟨lib.operation.unnamed, lib.signature.unnamed, lib.type.map (·.unnamed)⟩

theorem ConcreteLibfunc.zip_branches_unnamed (lib : ConcreteLibfunc) (branches : List Branch) :
    branches.zip lib.unnamed.signature.branches =
      (branches.zip lib.signature.branches).map fun x => (x.1, x.2.unnamed) :=
  List.zip_map_right

end Concrete

namespace Registry

def unnamedTypes (types : List (Ident × ConcreteType)) : List (Ident × ConcreteType) :=
  types.map fun entry => (entry.1.unnamed, entry.2.unnamed)

def unnamedLibfuncs (libfuncs : List (Ident × ConcreteLibfunc)) :
    List (Ident × ConcreteLibfunc) :=
  libfuncs.map fun entry => (entry.1.unnamed, entry.2.unnamed)

def unnamed (r : Registry) : Registry :=
  ⟨r.program.unnamed, unnamedTypes r.types, unnamedLibfuncs r.libfuncs⟩

end Registry

/-! ### Look-ups -/

theorem Sierra.Program.function?_unnamed (p : Program) (id : Ident) :
    p.unnamed.function? id.unnamed = (p.function? id).map (·.unnamed) := by
  simp only [Program.function?, Program.unnamed, List.find?_map]
  rfl

theorem Sierra.Program.length_statements_unnamed (p : Program) :
    p.unnamed.statements.length = p.statements.length :=
  List.length_map _

namespace Registry

theorem findIdent_unnamed {α : Type} (u : α → α) (table : List (Ident × α)) (id : Ident) :
    findIdent (table.map fun entry => (entry.1.unnamed, u entry.2)) id.unnamed =
      (findIdent table id).map u := by
  simp only [findIdent, List.find?_map, Option.map_map]
  rfl

theorem findLongId_unnamed (types : List (Ident × ConcreteType)) (long : LongId) :
    findLongId (unnamedTypes types) long.unnamed = (findLongId types long).map (·.unnamed) := by
  have hkey : ((fun entry : Ident × ConcreteType => entry.2.info.longId.key == long.key) ∘
      fun entry : Ident × ConcreteType => (entry.1.unnamed, entry.2.unnamed)) =
      fun entry : Ident × ConcreteType => entry.2.info.longId.key == long.key := by
    funext entry
    simp [ConcreteType.unnamed]
  simp only [findLongId, unnamedTypes, List.find?_map, Option.map_map, LongId.key_unnamed, hkey]
  rfl

end Registry

/-! ### Types -/

namespace Concrete

/-- The second look-up gives the answers of the first one without debug names. -/
def TypeLookup.Mirrors (types types' : TypeLookup) : Prop :=
  ∀ id, types' id.unnamed = (types id).map (·.unnamed)

section types

variable {types types' : TypeLookup} (h : types.Mirrors types') (long : LongId)

omit h in
theorem mirrored_checkNoArgs : Mirrored id (checkNoArgs long) (checkNoArgs long.unnamed) := by
  refine .ite ?_ (.ok rfl) (.error trivial)
  simp [LongId.unnamed]

include h

theorem mirrored_typeArg (i : Nat) (arg : GenericArg) :
    Mirrored (fun x => (x.1.unnamed, x.2.unnamed)) (typeArg types long i arg)
      (typeArg types' long.unnamed i arg.unnamed) := by
  cases arg with
  | type id =>
    simp only [typeArg, GenericArg.unnamed, h id]
    cases types id with
    | none => exact .error trivial
    | some ty => exact .ok rfl
  | userType | value | libfunc | userFunc | blank => exact .error trivial

theorem mirrored_singleTypeArg :
    Mirrored (fun x => (x.1.unnamed, x.2.unnamed)) (singleTypeArg types long)
      (singleTypeArg types' long.unnamed) := by
  obtain ⟨generic, args⟩ := long
  rcases args with _ | ⟨arg, _ | ⟨_, _⟩⟩
  · exact .error trivial
  · exact mirrored_typeArg h ⟨generic, [arg]⟩ 0 arg
  · exact .error trivial

theorem mirrored_memberArg (arg : GenericArg × Nat) :
    Mirrored (fun x => (x.1.unnamed, x.2.unnamed)) (memberArg types long arg)
      (memberArg types' long.unnamed (arg.1.unnamed, arg.2)) := by
  refine (mirrored_typeArg h long arg.2 arg.1).bind ?_
  rintro ⟨id, ty⟩ _ rfl
  exact .ite Iff.rfl (.ok rfl) (.error trivial)

theorem mirrored_specializeNonZero :
    Mirrored (·.unnamed) (specializeNonZero types long)
      (specializeNonZero types' long.unnamed) := by
  refine (mirrored_singleTypeArg h long).bind ?_
  rintro ⟨id, ty⟩ _ rfl
  exact .ite Iff.rfl (.ok rfl) (.error trivial)

theorem mirrored_specializeBox :
    Mirrored (·.unnamed) (specializeBox types long) (specializeBox types' long.unnamed) := by
  refine (mirrored_singleTypeArg h long).bind ?_
  rintro ⟨id, ty⟩ _ rfl
  exact .ite Iff.rfl (.ok rfl) (.error trivial)

theorem mirrored_specializeUninitialized :
    Mirrored (·.unnamed) (specializeUninitialized types long)
      (specializeUninitialized types' long.unnamed) := by
  refine (mirrored_singleTypeArg h long).bind ?_
  rintro ⟨id, ty⟩ _ rfl
  exact .ok rfl

theorem mirrored_specializeStruct :
    Mirrored (·.unnamed) (specializeStruct types long) (specializeStruct types' long.unnamed) := by
  obtain ⟨generic, args⟩ := long
  rcases args with _ | ⟨first, rest⟩
  · exact .error trivial
  · cases first with
    | type | value | libfunc | userFunc | blank => exact .error trivial
    | userType user =>
      have hmembers := Agree.mapM fun arg (_ : arg ∈ rest.zipIdx 1) =>
        mirrored_memberArg h ⟨generic, .userType user :: rest⟩ arg
      rw [show (fun arg : GenericArg × Nat => (arg.1.unnamed, arg.2)) = Prod.map (·.unnamed) id from
        rfl, ← List.zipIdx_map] at hmembers
      refine hmembers.bind ?_
      rintro members _ rfl
      refine .ok ?_
      simp [ConcreteType.unnamed, Shape.unnamed, TypeInfo.ofMembers, List.foldl_map, List.all_map,
        Function.comp_def, LongId.unnamed, GenericArg.unnamed]

omit h in
theorem mirrored_checkConstant (ty : ConcreteType) (arg : GenericArg) :
    Mirrored id (checkConstant long ty arg)
      (checkConstant long.unnamed ty.unnamed arg.unnamed) := by
  obtain ⟨shape, info⟩ := ty
  cases shape with
  | felt252 | uint =>
    cases arg with
    | value v => exact .ite Iff.rfl (.ok rfl) (.error trivial)
    | type | userType | libfunc | userFunc | blank => exact .error trivial
  | rangeCheck | gasBuiltin | nonZero | box | struct | const | uninitialized =>
    exact .error trivial

theorem mirrored_specializeConst :
    Mirrored (·.unnamed) (specializeConst types long) (specializeConst types' long.unnamed) := by
  obtain ⟨generic, args⟩ := long
  rcases args with _ | ⟨typeArgument, _ | ⟨valueArgument, _ | ⟨_, _⟩⟩⟩
  · exact .error trivial
  · exact .error trivial
  · refine (mirrored_typeArg h ⟨generic, [typeArgument, valueArgument]⟩ 0 typeArgument).bind ?_
    rintro ⟨id, ty⟩ _ rfl
    refine .ite (by rw [GenericArg.kind_unnamed]) ?_ (.error trivial)
    refine (mirrored_checkConstant _ ty valueArgument).bind ?_
    rintro v _ rfl
    exact .ok rfl
  · exact .error trivial

omit h in
theorem mirrored_specializeLeaf (shape : Shape) (info : TypeInfo) :
    Mirrored (·.unnamed) (specializeLeaf shape info)
      (specializeLeaf shape.unnamed { info with longId := info.longId.unnamed }) := by
  refine (mirrored_checkNoArgs info.longId).bind ?_
  rintro _ _ rfl
  exact .ok rfl

theorem mirrored_specializeType :
    Mirrored (·.unnamed) (specializeType types long) (specializeType types' long.unnamed) := by
  unfold specializeType
  rw [show long.unnamed.generic = long.generic from rfl]
  cases GenericType.ofName? long.generic with
  | none => exact .error trivial
  | some g =>
    cases g with
    | felt252 | uint | rangeCheck | gasBuiltin => exact mirrored_specializeLeaf _ _
    | nonZero => exact mirrored_specializeNonZero h long
    | box => exact mirrored_specializeBox h long
    | struct => exact mirrored_specializeStruct h long
    | const => exact mirrored_specializeConst h long
    | uninitialized => exact mirrored_specializeUninitialized h long

end types

/-! ### Libfuncs -/

/-- The second context gives the answers of the first one without debug names. -/
structure LibfuncContext.Mirrors (ctx ctx' : LibfuncContext) : Prop where
  type : ctx.type?.Mirrors ctx'.type?
  lookup : ∀ long, ctx'.lookup? long.unnamed = (ctx.lookup? long).map (·.unnamed)
  function : ∀ id, ctx'.function? id.unnamed = (ctx.function? id).map (·.unnamed)

section libfuncs

variable {ctx ctx' : LibfuncContext} (h : ctx.Mirrors ctx') (long : LongId)

omit h in
theorem mirrored_singleValueArg :
    Mirrored id (singleValueArg long) (singleValueArg long.unnamed) := by
  obtain ⟨generic, args⟩ := long
  rcases args with _ | ⟨arg, _ | ⟨_, _⟩⟩
  · exact .error trivial
  · cases arg with
    | value v => exact .ok rfl
    | type | userType | libfunc | userFunc | blank => exact .error trivial
  · cases arg <;> exact .error trivial

omit h in
theorem mirrored_segmentArg (arg : GenericArg) :
    Mirrored id (segmentArg long arg) (segmentArg long.unnamed arg.unnamed) := by
  cases arg with
  | value v => exact .ite Iff.rfl (.ok rfl) (.error trivial)
  | type | userType | libfunc | userFunc | blank => exact .error trivial

omit h in
theorem mirrored_specializeMarker {operation : Operation} {ap : ApEffect}
    (hop : operation.unnamed = operation) (hap : ap.unnamed = ap) :
    Mirrored (·.unnamed) (specializeMarker long operation ap)
      (specializeMarker long.unnamed operation ap) := by
  refine (mirrored_checkNoArgs long).bind ?_
  rintro _ _ rfl
  refine .ok ?_
  simp [ConcreteLibfunc.unnamed, hop, Signature.single, Signature.unnamed, BranchSignature.unnamed,
    hap]

omit h in
theorem mirrored_specializeJump :
    Mirrored (·.unnamed) (specializeJump long) (specializeJump long.unnamed) := by
  refine (mirrored_checkNoArgs long).bind ?_
  rintro _ _ rfl
  exact .ok rfl

include h

theorem mirrored_requireType (required : LongId) :
    Mirrored (·.unnamed) (requireType ctx long required)
      (requireType ctx' long.unnamed required.unnamed) := by
  simp only [requireType, h.lookup required]
  cases ctx.lookup? required with
  | none => exact .error trivial
  | some id => exact .ok rfl

theorem mirrored_structArg :
    Mirrored (fun x => (x.1.unnamed, x.2.map (·.unnamed))) (structArg ctx long)
      (structArg ctx' long.unnamed) := by
  refine (mirrored_singleTypeArg h.type long).bind ?_
  rintro ⟨id, ⟨shape, info⟩⟩ _ rfl
  cases shape with
  | struct => exact .ok rfl
  | felt252 | uint | rangeCheck | gasBuiltin | nonZero | box | const | uninitialized =>
    exact .error trivial

theorem mirrored_constArg (arg : GenericArg) :
    Mirrored (fun x => (x.1.unnamed, x.2)) (constArg ctx long arg)
      (constArg ctx' long.unnamed arg.unnamed) := by
  refine (mirrored_typeArg h.type long 0 arg).bind ?_
  rintro ⟨id, ⟨shape, info⟩⟩ _ rfl
  cases shape with
  | const => exact .ok rfl
  | felt252 | uint | rangeCheck | gasBuiltin | nonZero | box | struct | uninitialized =>
    exact .error trivial

theorem mirrored_specializeFeltConst :
    Mirrored (·.unnamed) (specializeFeltConst ctx long)
      (specializeFeltConst ctx' long.unnamed) := by
  refine (mirrored_singleValueArg long).bind ?_
  rintro v _ rfl
  refine .ite Iff.rfl ?_ (.error trivial)
  refine (mirrored_requireType h long { generic := "felt252" }).bind ?_
  rintro felt _ rfl
  exact .ok rfl

theorem mirrored_specializeFeltBinary (op : BinaryOp) :
    Mirrored (·.unnamed) (specializeFeltBinary ctx long op)
      (specializeFeltBinary ctx' long.unnamed op) := by
  refine (mirrored_checkNoArgs long).bind ?_
  rintro _ _ rfl
  refine (mirrored_requireType h long { generic := "felt252" }).bind ?_
  rintro felt _ rfl
  exact .ok rfl

theorem mirrored_specializeFeltIsZero :
    Mirrored (·.unnamed) (specializeFeltIsZero ctx long)
      (specializeFeltIsZero ctx' long.unnamed) := by
  refine (mirrored_checkNoArgs long).bind ?_
  rintro _ _ rfl
  refine (mirrored_requireType h long { generic := "felt252" }).bind ?_
  rintro felt _ rfl
  refine (mirrored_requireType h long { generic := "NonZero", args := [.type felt] }).bind ?_
  rintro nonZero _ rfl
  exact .ok rfl

theorem mirrored_specializeUintConst (bits : Nat) :
    Mirrored (·.unnamed) (specializeUintConst ctx long bits)
      (specializeUintConst ctx' long.unnamed bits) := by
  refine (mirrored_singleValueArg long).bind ?_
  rintro v _ rfl
  refine .ite Iff.rfl ?_ (.error trivial)
  refine (mirrored_requireType h long { generic := uintName bits }).bind ?_
  rintro uint _ rfl
  exact .ok rfl

theorem mirrored_specializeUintToFelt (bits : Nat) :
    Mirrored (·.unnamed) (specializeUintToFelt ctx long bits)
      (specializeUintToFelt ctx' long.unnamed bits) := by
  refine (mirrored_checkNoArgs long).bind ?_
  rintro _ _ rfl
  refine (mirrored_requireType h long { generic := uintName bits }).bind ?_
  rintro uint _ rfl
  refine (mirrored_requireType h long { generic := "felt252" }).bind ?_
  rintro felt _ rfl
  exact .ok rfl

theorem mirrored_specializeStoreTemp :
    Mirrored (·.unnamed) (specializeStoreTemp ctx long)
      (specializeStoreTemp ctx' long.unnamed) := by
  refine (mirrored_singleTypeArg h.type long).bind ?_
  rintro ⟨id, ty⟩ _ rfl
  exact .ite Iff.rfl (.ok rfl) (.error trivial)

theorem mirrored_specializeRename :
    Mirrored (·.unnamed) (specializeRename ctx long) (specializeRename ctx' long.unnamed) := by
  refine (mirrored_singleTypeArg h.type long).bind ?_
  rintro ⟨id, ty⟩ _ rfl
  exact .ok rfl

theorem mirrored_specializeDrop :
    Mirrored (·.unnamed) (specializeDrop ctx long) (specializeDrop ctx' long.unnamed) := by
  refine (mirrored_singleTypeArg h.type long).bind ?_
  rintro ⟨id, ty⟩ _ rfl
  exact .ite Iff.rfl (.ok rfl) (.error trivial)

theorem mirrored_specializeDup :
    Mirrored (·.unnamed) (specializeDup ctx long) (specializeDup ctx' long.unnamed) := by
  refine (mirrored_singleTypeArg h.type long).bind ?_
  rintro ⟨id, ty⟩ _ rfl
  exact .ite Iff.rfl (.ok rfl) (.error trivial)

theorem mirrored_specializeFunctionCall :
    Mirrored (·.unnamed) (specializeFunctionCall ctx long)
      (specializeFunctionCall ctx' long.unnamed) := by
  obtain ⟨generic, args⟩ := long
  rcases args with _ | ⟨arg, _ | ⟨_, _⟩⟩
  · exact .error trivial
  · cases arg with
    | userFunc id =>
      simp only [specializeFunctionCall, LongId.unnamed, List.map_cons, List.map_nil,
        GenericArg.unnamed, h.function id]
      cases ctx.function? id with
      | none => exact .error trivial
      | some f => exact .ok rfl
    | type | userType | value | libfunc | blank => exact .error trivial
  · cases arg <;> exact .error trivial

theorem mirrored_specializeWithdrawGas :
    Mirrored (·.unnamed) (specializeWithdrawGas ctx long)
      (specializeWithdrawGas ctx' long.unnamed) := by
  refine (mirrored_checkNoArgs long).bind ?_
  rintro _ _ rfl
  refine (mirrored_requireType h long { generic := "RangeCheck" }).bind ?_
  rintro rangeCheck _ rfl
  refine (mirrored_requireType h long { generic := "GasBuiltin" }).bind ?_
  rintro gas _ rfl
  exact .ok rfl

theorem mirrored_specializeStructConstruct :
    Mirrored (·.unnamed) (specializeStructConstruct ctx long)
      (specializeStructConstruct ctx' long.unnamed) := by
  refine (mirrored_structArg h long).bind ?_
  rintro ⟨id, members⟩ _ rfl
  exact .ok rfl

theorem mirrored_specializeStructDeconstruct :
    Mirrored (·.unnamed) (specializeStructDeconstruct ctx long)
      (specializeStructDeconstruct ctx' long.unnamed) := by
  refine (mirrored_structArg h long).bind ?_
  rintro ⟨id, members⟩ _ rfl
  exact .ok rfl

theorem mirrored_specializeUnbox :
    Mirrored (·.unnamed) (specializeUnbox ctx long) (specializeUnbox ctx' long.unnamed) := by
  refine (mirrored_singleTypeArg h.type long).bind ?_
  rintro ⟨id, ty⟩ _ rfl
  refine (mirrored_requireType h long { generic := "Box", args := [.type id] }).bind ?_
  rintro box _ rfl
  exact .ok rfl

theorem mirrored_specializeUnwrapNonZero :
    Mirrored (·.unnamed) (specializeUnwrapNonZero ctx long)
      (specializeUnwrapNonZero ctx' long.unnamed) := by
  refine (mirrored_singleTypeArg h.type long).bind ?_
  rintro ⟨id, ty⟩ _ rfl
  refine (mirrored_requireType h long { generic := "NonZero", args := [.type id] }).bind ?_
  rintro nonZero _ rfl
  exact .ok rfl

theorem mirrored_specializeConstAsImmediate :
    Mirrored (·.unnamed) (specializeConstAsImmediate ctx long)
      (specializeConstAsImmediate ctx' long.unnamed) := by
  obtain ⟨generic, args⟩ := long
  rcases args with _ | ⟨arg, _ | ⟨_, _⟩⟩
  · exact .error trivial
  · refine (mirrored_constArg h ⟨generic, [arg]⟩ arg).bind ?_
    rintro ⟨inner, v⟩ _ rfl
    exact .ok rfl
  · exact .error trivial

theorem mirrored_specializeConstAsBox :
    Mirrored (·.unnamed) (specializeConstAsBox ctx long)
      (specializeConstAsBox ctx' long.unnamed) := by
  obtain ⟨generic, args⟩ := long
  rcases args with _ | ⟨arg, _ | ⟨segmentArgument, _ | ⟨_, _⟩⟩⟩
  · exact .error trivial
  · exact .error trivial
  · refine (mirrored_constArg h ⟨generic, [arg, segmentArgument]⟩ arg).bind ?_
    rintro ⟨inner, v⟩ _ rfl
    refine (mirrored_segmentArg _ segmentArgument).bind ?_
    rintro segment _ rfl
    refine (mirrored_requireType h _ { generic := "Box", args := [.type inner] }).bind ?_
    rintro box _ rfl
    exact .ok rfl
  · exact .error trivial

/-- A libfunc without debug names specializes when the libfunc itself does, to the same meaning. -/
theorem mirrored_specializeLibfunc :
    Mirrored (·.unnamed) (specializeLibfunc ctx long) (specializeLibfunc ctx' long.unnamed) := by
  unfold specializeLibfunc
  rw [show long.unnamed.generic = long.generic from rfl]
  cases GenericLibfunc.ofName? long.generic with
  | none => exact .error trivial
  | some g =>
    cases g with
    | felt252Const => exact mirrored_specializeFeltConst h long
    | felt252Binary op => exact mirrored_specializeFeltBinary h long op
    | felt252IsZero => exact mirrored_specializeFeltIsZero h long
    | uintConst bits => exact mirrored_specializeUintConst h long bits
    | uintToFelt252 bits => exact mirrored_specializeUintToFelt h long bits
    | storeTemp => exact mirrored_specializeStoreTemp h long
    | rename => exact mirrored_specializeRename h long
    | drop => exact mirrored_specializeDrop h long
    | dup => exact mirrored_specializeDup h long
    | jump => exact mirrored_specializeJump long
    | branchAlign | disableApTracking | enableApTracking =>
      exact mirrored_specializeMarker long rfl rfl
    | functionCall => exact mirrored_specializeFunctionCall h long
    | withdrawGas => exact mirrored_specializeWithdrawGas h long
    | structConstruct => exact mirrored_specializeStructConstruct h long
    | structDeconstruct => exact mirrored_specializeStructDeconstruct h long
    | unbox => exact mirrored_specializeUnbox h long
    | unwrapNonZero => exact mirrored_specializeUnwrapNonZero h long
    | constAsImmediate => exact mirrored_specializeConstAsImmediate h long
    | constAsBox => exact mirrored_specializeConstAsBox h long

end libfuncs

end Concrete

/-! ### The passes of validation -/

namespace Registry

/-- Two violations with the same code. -/
def SameCode (v w : Violation) : Prop := v.code = w.code

theorem firstRepeated_unnamed (seen : List UInt64) (ids : List Ident) :
    firstRepeated seen (ids.map (·.unnamed)) = (firstRepeated seen ids).map (·.unnamed) := by
  induction ids generalizing seen with
  | nil => rfl
  | cons id ids ih =>
    by_cases hseen : id.id ∈ seen
    · simp [firstRepeated, hseen]
    · simp [firstRepeated, hseen, ih]

theorem agree_checkDistinct (violation : Ident → Violation)
    (h : ∀ a b, SameCode (violation a) (violation b)) (ids : List Ident) :
    Agree SameCode Eq (checkDistinct violation ids)
      (checkDistinct violation (ids.map (·.unnamed))) := by
  unfold checkDistinct
  rw [firstRepeated_unnamed]
  cases firstRepeated [] ids with
  | none => exact .ok rfl
  | some id => exact .error (h _ _)

theorem agree_checkDuplicates (p : Program) :
    Agree SameCode Eq (checkDuplicates p) (checkDuplicates p.unnamed) := by
  have hids : ∀ ds : List Declaration,
      (ds.map (·.unnamed)).map (·.id) = (ds.map (·.id)).map (·.unnamed) := by
    intro ds
    rw [List.map_map, List.map_map]
    rfl
  have hfunctions : (p.functions.map (·.unnamed)).map (·.id) =
      (p.functions.map (·.id)).map (·.unnamed) := by
    rw [List.map_map, List.map_map]
    rfl
  simp only [checkDuplicates, Program.unnamed, hids, hfunctions]
  refine (agree_checkDistinct .duplicateType (fun _ _ => rfl) _).bind fun _ _ _ => ?_
  refine (agree_checkDistinct .duplicateLibfunc (fun _ _ => rfl) _).bind fun _ _ _ => ?_
  exact agree_checkDistinct .duplicateFunction (fun _ _ => rfl) _

theorem declared_unnamed (p : Program) (id : Ident) :
    declared p.unnamed id.unnamed = declared p id := by
  simp only [declared, Program.unnamed, List.any_map]
  rfl

theorem agree_require {c c' : Bool} {v w : Violation} (hc : c = c') (hcode : v.code = w.code) :
    Agree SameCode Eq (require c v) (require c' w) :=
  .require hc hcode

theorem agree_checkParams (f : Function) (bound : List UInt64) (params : List (Param × Ident)) :
    Agree SameCode Eq (checkParams f bound params)
      (checkParams f.unnamed bound (params.map fun x => (x.1.unnamed, x.2.unnamed))) := by
  induction params generalizing bound with
  | nil => exact .ok rfl
  | cons x params ih =>
    refine Agree.bind (agree_require rfl rfl) fun _ _ _ => ?_
    refine Agree.bind (agree_require rfl rfl) fun _ _ _ => ?_
    exact ih _

theorem agree_checkFunction (p : Program) (f : Function) :
    Agree SameCode Eq (checkFunction p f) (checkFunction p.unnamed f.unnamed) := by
  have hzip : f.unnamed.params.zip f.unnamed.paramTypes =
      (f.params.zip f.paramTypes).map fun x => (x.1.unnamed, x.2.unnamed) := List.zip_map
  have hdeclared : ∀ {v w : Ident → Violation} (ids : List Ident),
      (∀ a b, (v a).code = (w b).code) →
      Agree SameCode Eq (checkAll (fun ty => require (declared p ty) (v ty)) ids)
        (checkAll (fun ty => require (declared p.unnamed ty) (w ty)) (ids.map (·.unnamed))) :=
    fun ids hcode => .checkAll fun ty _ => agree_require (declared_unnamed p ty).symm (hcode _ _)
  refine Agree.bind (hdeclared f.paramTypes fun _ _ => rfl) fun _ _ _ => ?_
  refine Agree.bind (hdeclared f.retTypes fun _ _ => rfl) fun _ _ _ => ?_
  refine Agree.bind (agree_require (by simp [Function.unnamed]) rfl) fun _ _ _ => ?_
  rw [hzip]
  refine Agree.bind (agree_checkParams f [] _) fun _ _ _ => ?_
  exact agree_require (by rw [p.length_statements_unnamed]; rfl) rfl

theorem mirrors_findIdent (types : List (Ident × ConcreteType)) :
    TypeLookup.Mirrors (findIdent types) (findIdent (unnamedTypes types)) :=
  findIdent_unnamed ConcreteType.unnamed types

theorem agree_specializeTypes (known : List (Ident × ConcreteType)) (ds : List Declaration) :
    Agree SameCode (fun a b => b = unnamedTypes a) (specializeTypes known ds)
      (specializeTypes (unnamedTypes known) (ds.map (·.unnamed))) := by
  induction ds generalizing known with
  | nil => exact .ok rfl
  | cons d ds ih =>
    simp only [List.map_cons, specializeTypes, Declaration.unnamed]
    obtain ⟨ty, _, hty, hty', rfl⟩ | ⟨e, e', he, he', -⟩ :=
      (mirrored_specializeType (mirrors_findIdent known) d.longId).cases
    · rw [hty, hty']
      have hrest := ih (known ++ [(d.id, ty)])
      rwa [unnamedTypes, List.map_append] at hrest
    · rw [he, he']
      exact .error rfl

theorem mirrors_context (p : Program) (types : List (Ident × ConcreteType)) :
    (context p types).Mirrors (context p.unnamed (unnamedTypes types)) where
  type := mirrors_findIdent types
  lookup := findLongId_unnamed types
  function := p.function?_unnamed

theorem agree_specializeDeclaration {ctx ctx' : LibfuncContext} (h : ctx.Mirrors ctx')
    (d : Declaration) :
    Agree SameCode (fun a b => b = (a.1.unnamed, a.2.unnamed)) (specializeDeclaration ctx d)
      (specializeDeclaration ctx' d.unnamed) := by
  simp only [specializeDeclaration, Declaration.unnamed]
  obtain ⟨lib, _, hlib, hlib', rfl⟩ | ⟨e, e', he, he', -⟩ :=
    (mirrored_specializeLibfunc h d.longId).cases
  · rw [hlib, hlib']
    exact .ok rfl
  · rw [he, he']
    exact .error rfl

theorem agree_checkBranches (n i : Nat) (lib : Ident) (sig : Signature) (b : Nat)
    (bs : List (Branch × BranchSignature)) :
    Agree SameCode Eq (checkBranches n i lib sig b bs)
      (checkBranches n i lib.unnamed sig.unnamed b (bs.map fun x => (x.1, x.2.unnamed))) := by
  induction bs generalizing b with
  | nil => exact .ok rfl
  | cons x bs ih =>
    obtain ⟨branch, expected⟩ := x
    refine Agree.bind (R := Eq) ?_ fun _ _ _ => ih _
    refine Agree.bind (agree_require ?_ rfl) fun _ _ _ => ?_
    · simp [BranchSignature.unnamed]
    · cases branch.target with
      | fallthrough => exact agree_require rfl rfl
      | statement t => exact Agree.bind (agree_require rfl rfl) fun _ _ _ => agree_require rfl rfl

theorem agree_checkInvocation (n i : Nat) (libfuncs : List (Ident × ConcreteLibfunc))
    (inv : Invocation) :
    Agree SameCode Eq (checkInvocation n (findIdent libfuncs) i inv)
      (checkInvocation n (findIdent (unnamedLibfuncs libfuncs)) i
        { inv with libfunc := inv.libfunc.unnamed }) := by
  have hfind := findIdent_unnamed ConcreteLibfunc.unnamed libfuncs inv.libfunc
  simp only [checkInvocation, unnamedLibfuncs, hfind]
  cases findIdent libfuncs inv.libfunc with
  | none => exact .error rfl
  | some lib =>
    refine Agree.bind (agree_require ?_ rfl) fun _ _ _ => ?_
    · simp [ConcreteLibfunc.unnamed, Signature.unnamed]
    refine Agree.bind (agree_require ?_ rfl) fun _ _ _ => ?_
    · simp [ConcreteLibfunc.unnamed, Signature.unnamed]
    rw [lib.zip_branches_unnamed]
    exact agree_checkBranches n i inv.libfunc lib.signature 0 _

theorem agree_checkStatement (n : Nat) (libfuncs : List (Ident × ConcreteLibfunc))
    (s : Statement × Nat) :
    Agree SameCode Eq (checkStatement n (findIdent libfuncs) s)
      (checkStatement n (findIdent (unnamedLibfuncs libfuncs)) (s.1.unnamed, s.2)) := by
  obtain ⟨statement, i⟩ := s
  cases statement with
  | ret vars => exact .ok rfl
  | invoke inv => exact agree_checkInvocation n i libfuncs inv

theorem agree_build (p : Program) :
    Agree SameCode (fun r s => s = r.unnamed) (build p) (build p.unnamed) := by
  refine (agree_checkDuplicates p).bind fun _ _ _ => ?_
  refine Agree.bind (.checkAll fun f _ => agree_checkFunction p f) fun _ _ _ => ?_
  refine (agree_specializeTypes [] p.types).bind ?_
  rintro types _ rfl
  have hctx := mirrors_context p types
  refine Agree.bind (.mapM fun d _ => agree_specializeDeclaration hctx d) ?_
  rintro libfuncs _ rfl
  have hstatements : Agree SameCode Eq
      (checkAll (checkStatement p.statements.length (findIdent libfuncs)) p.statements.zipIdx)
      (checkAll (checkStatement p.unnamed.statements.length (findIdent (unnamedLibfuncs libfuncs)))
        p.unnamed.statements.zipIdx) := by
    rw [p.length_statements_unnamed, Program.unnamed, List.zipIdx_map]
    exact .checkAll fun s _ => agree_checkStatement _ libfuncs s
  exact hstatements.bind fun _ _ _ => .ok rfl

end Registry

end SierraCasm
