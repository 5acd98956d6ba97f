import SierraCasm.Proofs.Registry.Sizes

/-! # Types without cells

A declared type carries a flag for types without cells beside its size.  Each way to form a type
sets the two on its own: a word and a box leave the flag out and take one cell, a constant sets it
and takes none, a struct reads it off its size, and `NonZero` copies both from the type inside.
`Uninitialized` copies the size but not the flag.

So a flag that is set is right, and a flag that is not set is wrong for the reservations of types
whose size is zero and for no others (`zeroSized_agrees_iff`).  The size is zero if the number of
cells is a multiple of `2 ^ 64`. -/

namespace SierraCasm

open Sierra Concrete

namespace Registry

/-- A type is declared as a reservation of cells for another type. -/
def IsReservation (types : List Declaration) (id : Ident) : Prop :=
  ∃ inner, DeclaredAs types id ⟨"Uninitialized", [.type inner]⟩

theorem ofNat_eq_zero_iff {n : Nat} : Int64.ofNat n = 0 ↔ 2 ^ 64 ∣ n := by
  have hzero : Int64.ofNat n = 0 ↔ (Int64.ofNat n).toInt = 0 := by
    rw [← Int64.toInt_inj]
    rfl
  rw [hzero, Int64.toInt_ofNat', ← Int.dvd_iff_bmod_eq_zero, Int.natCast_dvd_natCast]
  rfl

section flags

variable {p : Program} {r : Registry} {id : Ident} {ty : ConcreteType}

theorem storable_ne_uninitialized {types : TypeLookup} (h : SpecializedType types ty)
    (hstorable : ty.info.storable = true) : ∀ inner, ty.shape ≠ .uninitialized inner := by
  intro inner hshape
  cases h with
  | uninitialized => cases hstorable
  | felt252 | uint | rangeCheck | gasBuiltin | nonZero | box | struct | const => cases hshape

/-- The flag is set for the types of size zero that are not reservations. -/
theorem zeroSized_iff (hbuild : build p = .ok r) (hty : r.type? id = some ty) :
    ty.info.zeroSized = true ↔
      ty.info.size = 0 ∧ ∀ inner, ty.shape ≠ .uninitialized inner := by
  have htypes := build_typesValid hbuild
  -- The flag of a wrapper is that of the type inside, so the induction goes along the declarations.
  refine (build_layered hbuild).induct (P := fun _ ty => ty.info.zeroSized = true ↔
    ty.info.size = 0 ∧ ∀ inner, ty.shape ≠ .uninitialized inner) ?_ hty
  intro id ty hty hparts
  have hone : (1 : Int64) ≠ 0 := by decide
  cases htypes.type hty with
  | felt252 | uint => simp [TypeInfo.plain, hone]
  | rangeCheck | gasBuiltin => simp [TypeInfo.linear, hone]
  | box => simp [hone]
  | struct => simp [TypeInfo.ofMembers]
  | const | uninitialized => simp
  | nonZero _ _ hinner hstorable =>
    have hflag := hparts _ (List.mem_singleton.mpr rfl) hinner
    have hvalue := storable_ne_uninitialized (htypes.type hinner) hstorable
    simpa [hvalue] using hflag

theorem isReservation_iff (hbuild : build p = .ok r) (hty : r.type? id = some ty) :
    IsReservation p.types id ↔ ∃ inner, ty.shape = .uninitialized inner := by
  obtain ⟨hsettled, -⟩ := settled_of_build hbuild
  have htypes := build_typesValid hbuild
  constructor
  · rintro ⟨inner, hid⟩
    obtain ⟨ty', hty', hspecialized⟩ := specializesTo_of_declaredAs hbuild hid
    obtain rfl := Option.some.inj (hty.symm.trans hty')
    have hgeneric := (htypes.type hty).ofName?
    rw [hspecialized.longId_eq] at hgeneric
    cases hshape : ty.shape with
    | uninitialized inner' => exact ⟨inner', rfl⟩
    | felt252 | uint | rangeCheck | gasBuiltin | nonZero | box | struct | const =>
      rw [hshape] at hgeneric
      cases hgeneric
  · rintro ⟨inner, hshape⟩
    have hid : DeclaredAs p.types id ty.info.longId := hsettled.table.declaredAs hty
    have hspecialized : SpecializesTo r.type? ty.info.longId ty :=
      hsettled.table.specializesTo hty
    generalize ty.info.longId = long at hid hspecialized
    cases hspecialized with
    | uninitialized => exact ⟨_, hid⟩
    | felt252 | uint | rangeCheck | gasBuiltin | nonZero | box | struct | const => cases hshape

end flags

/-- Every declared type has a number of cells, and its flag for types without cells agrees with its
recorded size, except for a reservation whose number of cells wraps to zero; a flag that is set is
always right. -/
theorem zeroSized_agrees_iff {p : Program} {r : Registry} (hbuild : build p = .ok r) {id : Ident}
    (hid : Declared p.types id) :
    ∃ ty n, r.type? id = some ty ∧ HasCells p.types id n ∧ (ty.info.size = 0 ↔ 2 ^ 64 ∣ n) ∧
      (ty.info.zeroSized = true → ty.info.size = 0) ∧
      ((ty.info.zeroSized = true ↔ ty.info.size = 0) ↔
        ¬ (2 ^ 64 ∣ n ∧ IsReservation p.types id)) := by
  obtain ⟨long, hid⟩ := hid
  obtain ⟨ty, hty, -⟩ := specializesTo_of_declaredAs hbuild hid
  have hcells := hasCells_exactCells hbuild hty
  have hzero : ty.info.size = 0 ↔ 2 ^ 64 ∣ r.exactCells id := by
    rw [(build_layered hbuild).size_eq (build_typesValid hbuild) hty]
    exact ofNat_eq_zero_iff
  have hflag := zeroSized_iff hbuild hty
  have hreserved := isReservation_iff hbuild hty
  refine ⟨ty, _, hty, hcells, hzero, fun hset => (hflag.mp hset).1, ?_⟩
  rw [← hzero, hreserved, hflag]
  simp only [← not_exists, ne_eq]
  tauto

/-- A struct without members, which is wrapped and then reserved, and one cell that is reserved. -/
def emptyTypes : Program where
  types :=
    [.numbered 0 "Struct" [.userType { id := 0 }], .numbered 1 "NonZero" [.type { id := 0 }],
     .numbered 2 "Uninitialized" [.type { id := 1 }], .numbered 3 "felt252",
     .numbered 4 "Uninitialized" [.type { id := 3 }]]
  libfuncs := []
  statements := []
  functions := []

/-- The flag of the wrapped struct of `emptyTypes` agrees with its size. -/
theorem zeroSized_agrees_emptyTypes :
    ∃ r ty, build emptyTypes = .ok r ∧ Declared emptyTypes.types { id := 1 } ∧
      r.type? { id := 1 } = some ty ∧ ty.info.zeroSized = true ∧ ty.info.size = 0 ∧
      (ty.info.zeroSized = true ↔ ty.info.size = 0) := by
  obtain ⟨r, hbuild, hr⟩ : ∃ r, build emptyTypes = .ok r ∧
      (r.type? { id := 1 }).any (fun ty => ty.info.zeroSized) = true :=
    exists_of_toOption_any (by decide +kernel)
  have hid : DeclaredAs emptyTypes.types { id := 1 } ⟨"NonZero", [.type { id := 0 }]⟩ :=
    declaredAs_of_numbered (.tail _ (.head _))
  obtain ⟨ty, n, hty, -, -, hset, -⟩ := zeroSized_agrees_iff hbuild ⟨_, hid⟩
  rw [hty, Option.any_some] at hr
  exact ⟨r, ty, hbuild, ⟨_, hid⟩, hty, hr, hset hr, iff_of_true hr (hset hr)⟩

/-- The reserved struct of `emptyTypes` has size zero, but its flag is not set. -/
theorem not_zeroSized_agrees_emptyTypes :
    ∃ r ty, build emptyTypes = .ok r ∧ r.type? { id := 2 } = some ty ∧ ty.info.size = 0 ∧
      ¬ (ty.info.zeroSized = true ↔ ty.info.size = 0) := by
  obtain ⟨r, hbuild, hr⟩ : ∃ r, build emptyTypes = .ok r ∧
      (r.type? { id := 2 }).any
        (fun ty => decide (ty.info.size = 0) && !ty.info.zeroSized) = true :=
    exists_of_toOption_any (by decide +kernel)
  obtain ⟨ty, hty, htest⟩ := (Option.any_eq_true _ _).mp hr
  simp only [Bool.and_eq_true, decide_eq_true_eq, Bool.not_eq_true'] at htest
  refine ⟨r, ty, hbuild, hty, htest.1, ?_⟩
  rw [htest.2]
  simp [htest.1]

end Registry

end SierraCasm
