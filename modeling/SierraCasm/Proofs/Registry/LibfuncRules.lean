import Mathlib.Algebra.Group.Nat.Defs
import Mathlib.Data.List.Find
import Mathlib.Data.List.Nodup
import SierraCasm.Proofs.Registry.LookUp

/-! # The libfuncs that are accepted

A libfunc specializes exactly when it is formed from the declared types and functions, and its
signature has the arity of its rule (`Settled.formed_iff`). -/

namespace SierraCasm

open Sierra Concrete

namespace Concrete

def Signature.arity (s : Signature) : Arity :=
  ⟨s.params.length, s.branches.map (·.outputs.length), s.fallthrough⟩

/-! ### Names -/

def BinaryOp.name : BinaryOp → String
  | .add => "felt252_add"
  | .sub => "felt252_sub"
  | .mul => "felt252_mul"

def GenericLibfunc.name : GenericLibfunc → String
  | .felt252Const => "felt252_const"
  | .felt252Binary op => op.name
  | .felt252IsZero => "felt252_is_zero"
  | .uintConst bits => uintName bits ++ "_const"
  | .uintToFelt252 bits => uintName bits ++ "_to_felt252"
  | .storeTemp => "store_temp"
  | .rename => "rename"
  | .drop => "drop"
  | .dup => "dup"
  | .jump => "jump"
  | .branchAlign => "branch_align"
  | .disableApTracking => "disable_ap_tracking"
  | .enableApTracking => "enable_ap_tracking"
  | .functionCall => "function_call"
  | .withdrawGas => "withdraw_gas"
  | .structConstruct => "struct_construct"
  | .structDeconstruct => "struct_deconstruct"
  | .unbox => "unbox"
  | .unwrapNonZero => "unwrap_non_zero"
  | .constAsImmediate => "const_as_immediate"
  | .constAsBox => "const_as_box"

theorem name_of_ofName? {name : String} {g : GenericLibfunc}
    (h : GenericLibfunc.ofName? name = some g) : name = g.name := by
  unfold GenericLibfunc.ofName? at h
  split at h <;> cases h <;> decide +kernel

theorem BinaryOp.name_mem (op : BinaryOp) :
    op.name ∈ ["felt252_add", "felt252_sub", "felt252_mul"] := by
  cases op <;> simp [BinaryOp.name]

theorem exists_binaryOp {name : String} (h : name ∈ ["felt252_add", "felt252_sub", "felt252_mul"]) :
    ∃ op : BinaryOp, name = op.name := by
  simp only [List.mem_cons, List.not_mem_nil, or_false] at h
  rcases h with rfl | rfl | rfl
  · exact ⟨.add, rfl⟩
  · exact ⟨.sub, rfl⟩
  · exact ⟨.mul, rfl⟩

/-! ### Specialization by name -/

section names

variable {ctx : LibfuncContext} {args : List GenericArg}

theorem specializeLibfunc_felt252Binary (op : BinaryOp) :
    specializeLibfunc ctx ⟨op.name, args⟩ = specializeFeltBinary ctx ⟨op.name, args⟩ op := by
  cases op <;> rfl

theorem specializeLibfunc_uintConst {bits : Nat} (h : bits ∈ uintWidths) :
    specializeLibfunc ctx ⟨uintName bits ++ "_const", args⟩ =
      specializeUintConst ctx ⟨uintName bits ++ "_const", args⟩ bits := by
  have hname : ∀ bits ∈ uintWidths,
      GenericLibfunc.ofName? (uintName bits ++ "_const") = some (.uintConst bits) := by
    decide +kernel
  rw [specializeLibfunc, hname bits h]

theorem specializeLibfunc_uintToFelt {bits : Nat} (h : bits ∈ uintWidths) :
    specializeLibfunc ctx ⟨uintName bits ++ "_to_felt252", args⟩ =
      specializeUintToFelt ctx ⟨uintName bits ++ "_to_felt252", args⟩ bits := by
  have hname : ∀ bits ∈ uintWidths,
      GenericLibfunc.ofName? (uintName bits ++ "_to_felt252") = some (.uintToFelt252 bits) := by
    decide +kernel
  rw [specializeLibfunc, hname bits h]

theorem specializeLibfunc_functionCall : specializeLibfunc ctx ⟨"function_call", args⟩ =
    specializeFunctionCall ctx ⟨"function_call", args⟩ := rfl

theorem specializeLibfunc_constAsImmediate : specializeLibfunc ctx ⟨"const_as_immediate", args⟩ =
    specializeConstAsImmediate ctx ⟨"const_as_immediate", args⟩ := rfl

theorem specializeLibfunc_constAsBox : specializeLibfunc ctx ⟨"const_as_box", args⟩ =
    specializeConstAsBox ctx ⟨"const_as_box", args⟩ := rfl

end names

/-! ### Structs and constants -/

section shapes

variable {types : TypeLookup} {long : LongId} {ty : ConcreteType}

theorem SpecializesTo.shape_of_userType (h : SpecializesTo types long ty) {user : Ident}
    {members : List GenericArg} (hargs : long.args = .userType user :: members) :
    ∃ ids, ty.shape = .struct user ids ∧ members = ids.map .type := by
  cases h with
  | struct =>
    cases hargs
    exact ⟨_, rfl, by simp⟩
  | felt252 | uint | rangeCheck | gasBuiltin | nonZero | box | const | uninitialized =>
    simp at hargs

theorem SpecializesTo.longId_of_struct (h : SpecializesTo types long ty) {user : Ident}
    {ids : List Ident} (hshape : ty.shape = .struct user ids) :
    long = ⟨"Struct", .userType user :: ids.map .type⟩ := by
  cases h <;> cases hshape
  simp

theorem SpecializesTo.shape_of_value (h : SpecializesTo types long ty) {inner : Ident} {v : Int}
    (hargs : long.args = [.type inner, .value v]) : ty.shape = .const inner v := by
  cases h with
  | const =>
    cases hargs
    rfl
  | felt252 | uint | rangeCheck | gasBuiltin | nonZero | box | struct | uninitialized =>
    simp at hargs

theorem SpecializesTo.longId_of_const (h : SpecializesTo types long ty) {inner : Ident} {v : Int}
    (hshape : ty.shape = .const inner v) : long = ⟨"Const", [.type inner, .value v]⟩ := by
  cases h <;> cases hshape
  rfl

end shapes

end Concrete

namespace Registry

/-! ### What the declarations answer -/

/-- A program whose numbers are distinct, with the table of its types. -/
structure Settled (p : Program) (types : List (Ident × ConcreteType)) : Prop where
  table : Tabulates p.types types
  distinctTypes : (p.types.map (·.id.id)).Nodup
  distinctFunctions : (p.functions.map (·.id.id)).Nodup

namespace Settled

variable {p : Program} {types : List (Ident × ConcreteType)} (h : Settled p types) {id : Ident}
  {long : LongId}
include h

theorem struct_iff {user : Ident} {members : List GenericArg} :
    DeclaredAs p.types id ⟨"Struct", .userType user :: members⟩ ↔
      ∃ ty ids, findIdent types id = some ty ∧ ty.shape = .struct user ids ∧
        members = ids.map .type := by
  constructor
  · intro hid
    obtain ⟨ty, hty, hlong⟩ := h.table.find_of_declaredAs h.distinctTypes hid
    have hargs : ty.info.longId.args = .userType user :: members := by rw [hlong]
    obtain ⟨ids, hshape, hids⟩ := (h.table.specializesTo hty).shape_of_userType hargs
    exact ⟨ty, ids, hty, hshape, hids⟩
  · rintro ⟨ty, ids, hty, hshape, rfl⟩
    have hdeclared := h.table.declaredAs hty
    rwa [(h.table.specializesTo hty).longId_of_struct hshape] at hdeclared

theorem const_iff {inner : Ident} {v : Int} :
    DeclaredAs p.types id ⟨"Const", [.type inner, .value v]⟩ ↔
      ∃ ty, findIdent types id = some ty ∧ ty.shape = .const inner v := by
  constructor
  · intro hid
    obtain ⟨ty, hty, hlong⟩ := h.table.find_of_declaredAs h.distinctTypes hid
    exact ⟨ty, hty, (h.table.specializesTo hty).shape_of_value (by rw [hlong])⟩
  · rintro ⟨ty, hty, hshape⟩
    have hdeclared := h.table.declaredAs hty
    rwa [(h.table.specializesTo hty).longId_of_const hshape] at hdeclared

theorem declares_iff (hlong : long.WellFormed) :
    Declares p.types long ↔ ∃ id, findLongId types long = some id := by
  rw [h.table.findLongId_eq hlong, ← Option.isSome_iff_exists, Option.isSome_map, firstDeclared?,
    List.find?_isSome]
  simp [Declares]

theorem declared_iff : Declared p.types id ↔ ∃ ty, findIdent types id = some ty :=
  h.table.declared_iff h.distinctTypes

theorem storable_iff : Storable p.types id ↔
    ∃ ty, findIdent types id = some ty ∧ ty.info.storable = true :=
  h.table.storable_iff h.distinctTypes

theorem allows_iff (use : Use) : Allows p.types use id ↔
    ∃ ty, findIdent types id = some ty ∧ ty.info.allows use = true :=
  h.table.allows_iff h.distinctTypes use

theorem word_iff {name : String} :
    Declares p.types ⟨name, []⟩ ↔ ∃ id, findLongId types ⟨name, []⟩ = some id :=
  h.declares_iff (wellFormed_nil name)

theorem wrapper_iff {name : String} :
    Declares p.types ⟨name, [.type id]⟩ ↔ ∃ id', findLongId types ⟨name, [.type id]⟩ = some id' :=
  h.declares_iff (wellFormed_type name id)

theorem function_iff {f : Function} :
    p.function? id = some f ↔ f ∈ p.functions ∧ f.id.id = id.id := by
  constructor
  · intro hf
    have hsame := List.find?_some (p := fun g : Function => g.id.same id) hf
    exact ⟨List.mem_of_find?_eq_some hf, (Ident.same_iff _ _).mp hsame⟩
  · rintro ⟨hmem, hid⟩
    cases hfind : p.function? id with
    | none =>
      have hnone := List.find?_eq_none.mp hfind f hmem
      exact absurd ((Ident.same_iff _ _).mpr hid) hnone
    | some g =>
      have hsame := List.find?_some (p := fun g : Function => g.id.same id) hfind
      have heq : g.id.id = f.id.id := ((Ident.same_iff _ _).mp hsame).trans hid.symm
      rw [List.inj_on_of_nodup_map h.distinctFunctions (List.mem_of_find?_eq_some hfind) hmem heq]

end Settled

/-! ### Formed libfuncs -/

section formed

variable {p : Program} {types : List (Ident × ConcreteType)} {long : LongId}

/-- A formed libfunc specializes, to a signature of its arity. -/
theorem Settled.specializes_of_formed (h : Settled p types) {a : Arity}
    (hform : LibfuncFormed p long a) :
    ∃ lib, specializeLibfunc (context p types) long = .ok lib ∧ lib.signature.arity = a := by
  cases hform with
  | feltConst hrange hfelt =>
    obtain ⟨felt, hfelt⟩ := h.word_iff.mp hfelt
    exact ⟨_, specializeFeltConst_eq_ok_iff.mpr
      ⟨_, rfl, inRange_felt252_iff.mp hrange, felt, hfelt, rfl⟩, rfl⟩
  | feltBinary hname hfelt =>
    obtain ⟨felt, hfelt⟩ := h.word_iff.mp hfelt
    obtain ⟨op, rfl⟩ := exists_binaryOp hname
    exact ⟨_, (specializeLibfunc_felt252Binary op).trans
      (specializeFeltBinary_eq_ok_iff.mpr ⟨rfl, felt, hfelt, rfl⟩), rfl⟩
  | @feltIsZero felt hfelt hnonZero =>
    obtain ⟨nonZero, hnonZero⟩ := h.wrapper_iff.mp hnonZero
    have hfirst : findLongId types ⟨"felt252", []⟩ = some felt.id := by
      rw [h.table.findLongId_eq (wellFormed_nil _), hfelt, Option.map_some]
    exact ⟨_, specializeFeltIsZero_eq_ok_iff.mpr ⟨rfl, _, hfirst, nonZero, hnonZero, rfl⟩, rfl⟩
  | uintConst hbits hrange huint =>
    obtain ⟨uint, huint⟩ := h.word_iff.mp huint
    exact ⟨_, (specializeLibfunc_uintConst hbits).trans (specializeUintConst_eq_ok_iff.mpr
      ⟨_, rfl, (inRange_uintName_iff hbits).mp hrange, uint, huint, rfl⟩), rfl⟩
  | uintToFelt hbits huint hfelt =>
    obtain ⟨uint, huint⟩ := h.word_iff.mp huint
    obtain ⟨felt, hfelt⟩ := h.word_iff.mp hfelt
    exact ⟨_, (specializeLibfunc_uintToFelt hbits).trans
      (specializeUintToFelt_eq_ok_iff.mpr ⟨rfl, uint, huint, felt, hfelt, rfl⟩), rfl⟩
  | storeTemp hid =>
    obtain ⟨ty, hty, hstorable⟩ := h.storable_iff.mp hid
    exact ⟨_, specializeStoreTemp_eq_ok_iff.mpr ⟨_, ty, rfl, hty, hstorable, rfl⟩, rfl⟩
  | rename hid =>
    obtain ⟨ty, hty⟩ := h.declared_iff.mp hid
    exact ⟨_, specializeRename_eq_ok_iff.mpr ⟨_, ty, rfl, hty, rfl⟩, rfl⟩
  | drop hid =>
    obtain ⟨ty, hty, hallows⟩ := (h.allows_iff .drop).mp hid
    exact ⟨_, specializeDrop_eq_ok_iff.mpr ⟨_, ty, rfl, hty, hallows, rfl⟩, rfl⟩
  | dup hid =>
    obtain ⟨ty, hty, hallows⟩ := (h.allows_iff .dup).mp hid
    exact ⟨_, specializeDup_eq_ok_iff.mpr ⟨_, ty, rfl, hty, hallows, rfl⟩, rfl⟩
  | jump => exact ⟨_, rfl, rfl⟩
  | marker hname =>
    simp only [List.mem_cons, List.not_mem_nil, or_false] at hname
    rcases hname with rfl | rfl | rfl <;> exact ⟨_, rfl, rfl⟩
  | functionCall hf hid =>
    have hfind := h.function_iff.mpr ⟨hf, hid⟩
    exact ⟨_, specializeLibfunc_functionCall.trans
      (specializeFunctionCall_eq_ok_iff.mpr ⟨_, _, rfl, hfind, rfl⟩), rfl⟩
  | withdrawGas hrangeCheck hgas =>
    obtain ⟨rangeCheck, hrangeCheck⟩ := h.word_iff.mp hrangeCheck
    obtain ⟨gas, hgas⟩ := h.word_iff.mp hgas
    exact ⟨_, specializeWithdrawGas_eq_ok_iff.mpr ⟨rfl, rangeCheck, hrangeCheck, gas, hgas, rfl⟩,
      rfl⟩
  | structConstruct hid =>
    obtain ⟨ty, ids, hty, hshape, rfl⟩ := h.struct_iff.mp hid
    rw [List.length_map]
    exact ⟨_, specializeStructConstruct_eq_ok_iff.mpr ⟨_, ids, rfl, ⟨ty, _, hty, hshape⟩, rfl⟩, rfl⟩
  | structDeconstruct hid =>
    obtain ⟨ty, ids, hty, hshape, rfl⟩ := h.struct_iff.mp hid
    rw [List.length_map]
    exact ⟨_, specializeStructDeconstruct_eq_ok_iff.mpr ⟨_, ids, rfl, ⟨ty, _, hty, hshape⟩, rfl⟩,
      rfl⟩
  | unbox hid hbox =>
    obtain ⟨ty, hty⟩ := h.declared_iff.mp hid
    obtain ⟨box, hbox⟩ := h.wrapper_iff.mp hbox
    exact ⟨_, specializeUnbox_eq_ok_iff.mpr ⟨_, ty, rfl, hty, box, hbox, rfl⟩, rfl⟩
  | unwrapNonZero hid hnonZero =>
    obtain ⟨ty, hty⟩ := h.declared_iff.mp hid
    obtain ⟨nonZero, hnonZero⟩ := h.wrapper_iff.mp hnonZero
    exact ⟨_, specializeUnwrapNonZero_eq_ok_iff.mpr ⟨_, ty, rfl, hty, nonZero, hnonZero, rfl⟩, rfl⟩
  | constAsImmediate hid =>
    obtain ⟨ty, hty, hshape⟩ := h.const_iff.mp hid
    exact ⟨_, specializeLibfunc_constAsImmediate.trans
      (specializeConstAsImmediate_eq_ok_iff.mpr ⟨_, ty, _, _, rfl, hty, hshape, rfl⟩), rfl⟩
  | constAsBox hid hlow hhigh hbox =>
    obtain ⟨ty, hty, hshape⟩ := h.const_iff.mp hid
    obtain ⟨box, hbox⟩ := h.wrapper_iff.mp hbox
    obtain ⟨n, rfl⟩ := Int.eq_ofNat_of_zero_le hlow
    have hlt : n < segmentBound := Int.ofNat_lt.mp hhigh
    exact ⟨_, specializeLibfunc_constAsBox.trans (specializeConstAsBox_eq_ok_iff.mpr
      ⟨_, ty, _, _, n, rfl, hty, hshape, hlt, box, hbox, rfl⟩), rfl⟩

/-- A libfunc that specializes is formed, with the arity of its signature. -/
theorem Settled.formed_of_specializes (h : Settled p types) {lib : ConcreteLibfunc}
    (hlib : specializeLibfunc (context p types) long = .ok lib) :
    LibfuncFormed p long lib.signature.arity := by
  obtain ⟨generic, args⟩ := long
  unfold specializeLibfunc at hlib
  cases hg : GenericLibfunc.ofName? generic with
  | none =>
    simp only [hg] at hlib
    cases hlib
  | some g =>
    have hbits := width_of_ofName? hg
    simp only [hg] at hlib
    obtain rfl := name_of_ofName? hg
    cases g with
    | felt252Const =>
      obtain ⟨v, rfl, hv, felt, hfelt, rfl⟩ := specializeFeltConst_eq_ok_iff.mp hlib
      exact .feltConst (inRange_felt252_iff.mpr hv) (h.word_iff.mpr ⟨felt, hfelt⟩)
    | felt252Binary op =>
      obtain ⟨rfl, felt, hfelt, rfl⟩ := specializeFeltBinary_eq_ok_iff.mp hlib
      exact .feltBinary op.name_mem (h.word_iff.mpr ⟨felt, hfelt⟩)
    | felt252IsZero =>
      obtain ⟨rfl, felt, hfelt, nonZero, hnonZero, rfl⟩ := specializeFeltIsZero_eq_ok_iff.mp hlib
      obtain ⟨d, hd, rfl⟩ := Option.map_eq_some_iff.mp
        ((h.table.findLongId_eq (wellFormed_nil _)).symm.trans hfelt)
      exact .feltIsZero hd (h.wrapper_iff.mpr ⟨nonZero, hnonZero⟩)
    | uintConst bits =>
      obtain ⟨v, rfl, hv, uint, huint, rfl⟩ := specializeUintConst_eq_ok_iff.mp hlib
      have hwidth := hbits bits (.inl rfl)
      exact .uintConst hwidth ((inRange_uintName_iff hwidth).mpr hv) (h.word_iff.mpr ⟨uint, huint⟩)
    | uintToFelt252 bits =>
      obtain ⟨rfl, uint, huint, felt, hfelt, rfl⟩ := specializeUintToFelt_eq_ok_iff.mp hlib
      exact .uintToFelt (hbits bits (.inr rfl)) (h.word_iff.mpr ⟨uint, huint⟩)
        (h.word_iff.mpr ⟨felt, hfelt⟩)
    | storeTemp =>
      obtain ⟨id, ty, rfl, hty, hstorable, rfl⟩ := specializeStoreTemp_eq_ok_iff.mp hlib
      exact .storeTemp (h.storable_iff.mpr ⟨ty, hty, hstorable⟩)
    | rename =>
      obtain ⟨id, ty, rfl, hty, rfl⟩ := specializeRename_eq_ok_iff.mp hlib
      exact .rename (h.declared_iff.mpr ⟨ty, hty⟩)
    | drop =>
      obtain ⟨id, ty, rfl, hty, hallows, rfl⟩ := specializeDrop_eq_ok_iff.mp hlib
      exact .drop ((h.allows_iff .drop).mpr ⟨ty, hty, hallows⟩)
    | dup =>
      obtain ⟨id, ty, rfl, hty, hallows, rfl⟩ := specializeDup_eq_ok_iff.mp hlib
      exact .dup ((h.allows_iff .dup).mpr ⟨ty, hty, hallows⟩)
    | jump =>
      obtain ⟨rfl, rfl⟩ := specializeJump_eq_ok_iff.mp hlib
      exact .jump
    | branchAlign | disableApTracking | enableApTracking =>
      obtain ⟨rfl, rfl⟩ := specializeMarker_eq_ok_iff.mp hlib
      exact .marker (by simp [GenericLibfunc.name])
    | functionCall =>
      obtain ⟨id, f, rfl, hf, rfl⟩ := specializeFunctionCall_eq_ok_iff.mp hlib
      obtain ⟨hmem, hid⟩ := h.function_iff.mp hf
      exact .functionCall hmem hid
    | withdrawGas =>
      obtain ⟨rfl, rangeCheck, hrangeCheck, gas, hgas, rfl⟩ :=
        specializeWithdrawGas_eq_ok_iff.mp hlib
      exact .withdrawGas (h.word_iff.mpr ⟨rangeCheck, hrangeCheck⟩) (h.word_iff.mpr ⟨gas, hgas⟩)
    | structConstruct =>
      obtain ⟨id, ids, rfl, ⟨ty, user, hty, hshape⟩, rfl⟩ :=
        specializeStructConstruct_eq_ok_iff.mp hlib
      have hformed := LibfuncFormed.structConstruct (h.struct_iff.mpr ⟨ty, ids, hty, hshape, rfl⟩)
      rwa [List.length_map] at hformed
    | structDeconstruct =>
      obtain ⟨id, ids, rfl, ⟨ty, user, hty, hshape⟩, rfl⟩ :=
        specializeStructDeconstruct_eq_ok_iff.mp hlib
      have hformed := LibfuncFormed.structDeconstruct (h.struct_iff.mpr ⟨ty, ids, hty, hshape, rfl⟩)
      rwa [List.length_map] at hformed
    | unbox =>
      obtain ⟨id, ty, rfl, hty, box, hbox, rfl⟩ := specializeUnbox_eq_ok_iff.mp hlib
      exact .unbox (h.declared_iff.mpr ⟨ty, hty⟩)
        (h.wrapper_iff.mpr ⟨box, hbox⟩)
    | unwrapNonZero =>
      obtain ⟨id, ty, rfl, hty, nonZero, hnonZero, rfl⟩ := specializeUnwrapNonZero_eq_ok_iff.mp hlib
      exact .unwrapNonZero (h.declared_iff.mpr ⟨ty, hty⟩)
        (h.wrapper_iff.mpr ⟨nonZero, hnonZero⟩)
    | constAsImmediate =>
      obtain ⟨id, ty, inner, v, rfl, hty, hshape, rfl⟩ :=
        specializeConstAsImmediate_eq_ok_iff.mp hlib
      exact .constAsImmediate (h.const_iff.mpr ⟨ty, hty, hshape⟩)
    | constAsBox =>
      obtain ⟨id, ty, inner, v, segment, rfl, hty, hshape, hlt, box, hbox, rfl⟩ :=
        specializeConstAsBox_eq_ok_iff.mp hlib
      exact .constAsBox (h.const_iff.mpr ⟨ty, hty, hshape⟩) (Int.natCast_nonneg segment)
        (Int.ofNat_lt.mpr hlt) (h.wrapper_iff.mpr ⟨box, hbox⟩)

/-- A libfunc is formed with an arity exactly when it specializes to a signature of this arity. -/
theorem Settled.formed_iff (h : Settled p types) {a : Arity} :
    LibfuncFormed p long a ↔
      ∃ lib, specializeLibfunc (context p types) long = .ok lib ∧ lib.signature.arity = a := by
  constructor
  · exact h.specializes_of_formed
  · rintro ⟨lib, hlib, rfl⟩
    exact h.formed_of_specializes hlib

/-! ### Boxed constants -/

theorem generic_of_constAsBox {ctx : LibfuncContext} {g : GenericLibfunc} {lib : ConcreteLibfunc}
    (hg : GenericLibfunc.ofName? long.generic = some g)
    (hlib : specializeLibfunc ctx long = .ok lib) {v : Int} {segment : Nat}
    (hop : lib.operation = .constAsBox v segment) : g = .constAsBox := by
  unfold specializeLibfunc at hlib
  simp only [hg] at hlib
  -- Every other generic libfunc has an operation of its own.
  cases g with
  | constAsBox => rfl
  | _ =>
    simp only [specializeFeltConst_eq_ok_iff, specializeFeltBinary_eq_ok_iff,
      specializeFeltIsZero_eq_ok_iff, specializeUintConst_eq_ok_iff, specializeUintToFelt_eq_ok_iff,
      specializeStoreTemp_eq_ok_iff, specializeRename_eq_ok_iff, specializeDrop_eq_ok_iff,
      specializeDup_eq_ok_iff, specializeJump_eq_ok_iff, specializeMarker_eq_ok_iff,
      specializeFunctionCall_eq_ok_iff, specializeWithdrawGas_eq_ok_iff,
      specializeStructConstruct_eq_ok_iff, specializeStructDeconstruct_eq_ok_iff,
      specializeUnbox_eq_ok_iff, specializeUnwrapNonZero_eq_ok_iff,
      specializeConstAsImmediate_eq_ok_iff] at hlib
    grind

/-- A libfunc that boxes a constant is declared as `const_as_box` with the type of the constant. -/
theorem longId_of_constAsBox {ctx : LibfuncContext} {lib : ConcreteLibfunc}
    (hlib : specializeLibfunc ctx long = .ok lib) {v : Int} {segment : Nat}
    (hop : lib.operation = .constAsBox v segment) :
    ∃ const inner ty, long = ⟨"const_as_box", [.type const, .value segment]⟩ ∧
      ctx.type? const = some ty ∧ ty.shape = .const inner v := by
  obtain ⟨generic, args⟩ := long
  cases hg : GenericLibfunc.ofName? generic with
  | none =>
    unfold specializeLibfunc at hlib
    simp only [hg] at hlib
    cases hlib
  | some g =>
    obtain rfl := generic_of_constAsBox hg hlib hop
    obtain rfl : generic = "const_as_box" := name_of_ofName? hg
    rw [specializeLibfunc_constAsBox] at hlib
    obtain ⟨const, ty, inner, w, n, rfl, hty, hshape, -, box, -, rfl⟩ :=
      specializeConstAsBox_eq_ok_iff.mp hlib
    cases hop
    exact ⟨const, inner, ty, rfl, hty, hshape⟩

end formed

end Registry

end SierraCasm
