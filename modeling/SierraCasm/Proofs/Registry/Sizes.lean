import SierraCasm.Proofs.Registry.Acceptance
import SierraCasm.Proofs.Registry.Measure
import SierraCasm.Proofs.Sierra.Samples

/-! # Sizes and numbers of cells

Every declared type takes a number of memory cells, which is defined by the declarations alone
(`HasCells`).  It may be any natural number, since structs can be nested and each level can multiply
it.  Recorded sizes are integers of 64 bits, so a size is the number of cells wrapped, and so is the
sum of some sizes.  Both are exact for numbers below `2 ^ 63` and for no others
(`sizesRecorded_of_build`). -/

namespace SierraCasm

open Sierra Concrete

/-! ### Cells of declared types -/

namespace Sierra

/-- The generic types whose values take one cell. -/
def oneCellNames : List String := "Box" :: wordNames

/-- The generic types whose values take the cells of the type that they name. -/
def sameCellsNames : List String := ["NonZero", "Uninitialized"]

/-- A declared type takes a number of memory cells. -/
inductive HasCells (types : List Declaration) : Ident → Nat → Prop
  | one {id : Ident} {long : LongId} : DeclaredAs types id long → long.generic ∈ oneCellNames →
      HasCells types id 1
  | same {id inner : Ident} {name : String} {n : Nat} :
      DeclaredAs types id ⟨name, [.type inner]⟩ → name ∈ sameCellsNames →
      HasCells types inner n → HasCells types id n
  | struct {id user : Ident} {members : List Ident} {cells : Ident → Nat} :
      DeclaredAs types id ⟨"Struct", .userType user :: members.map .type⟩ →
      (∀ member ∈ members, HasCells types member (cells member)) →
      HasCells types id (members.map cells).sum
  | const {id : Ident} {long : LongId} : DeclaredAs types id long → long.generic = "Const" →
      HasCells types id 0

end Sierra

namespace Registry

section cells

variable {p : Program} {r : Registry} {id : Ident} {n : Nat}

theorem specializesTo_of_declaredAs (hbuild : build p = .ok r) {long : LongId}
    (h : DeclaredAs p.types id long) :
    ∃ ty, r.type? id = some ty ∧ SpecializesTo r.type? long ty := by
  obtain ⟨hsettled, -⟩ := settled_of_build hbuild
  obtain ⟨ty, hty, rfl⟩ := hsettled.table.find_of_declaredAs hsettled.distinctTypes h
  exact ⟨ty, hty, hsettled.table.specializesTo hty⟩

theorem exactCells_eq (hbuild : build p = .ok r) {ty : ConcreteType} (hty : r.type? id = some ty) :
    r.exactCells id = cellsRule r.exactCells ty.shape :=
  (build_layered hbuild).measure_eq isRule_cells hty

/-- A type has no other number of cells than the one computed along the declarations. -/
theorem eq_exactCells (hbuild : build p = .ok r) (h : HasCells p.types id n) :
    n = r.exactCells id := by
  induction h with
  | one hid hname =>
    obtain ⟨ty, hty, hspecialized⟩ := specializesTo_of_declaredAs hbuild hid
    rw [exactCells_eq hbuild hty]
    cases hspecialized with
    | felt252 | uint | rangeCheck | gasBuiltin | box => rfl
    | nonZero | struct | const | uninitialized =>
      exact absurd hname (by dsimp only; decide +kernel)
  | @same id inner name n hid hname _ ih =>
    obtain ⟨ty, hty, hspecialized⟩ := specializesTo_of_declaredAs hbuild hid
    rw [exactCells_eq hbuild hty, ih]
    cases hspecialized with
    | nonZero | uninitialized => rfl
    | box => exact absurd hname (by decide +kernel)
  | @struct id user members cells hid _ ih =>
    obtain ⟨ty, hty, hspecialized⟩ := specializesTo_of_declaredAs hbuild hid
    rw [exactCells_eq hbuild hty, List.map_congr_left ih]
    obtain ⟨ids, hshape, hids⟩ := hspecialized.shape_of_userType rfl
    obtain rfl := (List.map_inj_right fun _ _ heq => GenericArg.type.inj heq).mp hids
    rw [hshape]
    rfl
  | const hid hname =>
    obtain ⟨ty, hty, hspecialized⟩ := specializesTo_of_declaredAs hbuild hid
    rw [exactCells_eq hbuild hty]
    cases hspecialized with
    | const => rfl
    | uint hbits =>
      have hnot : ∀ bits ∈ uintWidths, uintName bits ≠ "Const" := by decide +kernel
      exact absurd hname (hnot _ hbits)
    | felt252 | rangeCheck | gasBuiltin | nonZero | box | struct | uninitialized =>
      exact absurd hname (by dsimp only; decide +kernel)

/-- Every declared type has the number of cells computed along the declarations. -/
theorem hasCells_exactCells (hbuild : build p = .ok r) {ty : ConcreteType}
    (hty : r.type? id = some ty) : HasCells p.types id (r.exactCells id) := by
  obtain ⟨hsettled, -⟩ := settled_of_build hbuild
  refine (build_layered hbuild).induct
    (P := fun id ty => HasCells p.types id (r.exactCells id)) ?_ hty
  intro id ty hty hparts
  have hid : DeclaredAs p.types id ty.info.longId := hsettled.table.declaredAs hty
  have hspecialized : SpecializesTo r.type? ty.info.longId ty := hsettled.table.specializesTo hty
  rw [exactCells_eq hbuild hty]
  generalize ty.info.longId = long at hid hspecialized
  cases hspecialized with
  | felt252 | rangeCheck | gasBuiltin | box => exact .one hid (by dsimp only; decide +kernel)
  | uint hbits =>
    have hname : ∀ bits ∈ uintWidths, uintName bits ∈ oneCellNames := by decide +kernel
    exact .one hid (hname _ hbits)
  | nonZero hinner | uninitialized hinner =>
    have hcells := hparts _ (List.mem_singleton.mpr rfl) hinner
    exact .same hid (by decide +kernel) hcells
  | struct hmembers =>
    refine .struct (by rw [List.map_map]; exact hid) fun member hmem => ?_
    obtain ⟨member, hmem', rfl⟩ := List.mem_map.mp hmem
    exact hparts _ hmem (hmembers member hmem').1
  | const => exact .const hid rfl

/-- A type with a number of cells is in the registry, with this number wrapped for its size. -/
theorem size_of_hasCells (hbuild : build p = .ok r) (h : HasCells p.types id n) :
    ∃ ty, r.type? id = some ty ∧ ty.info.size = .ofNat n := by
  obtain ⟨long, hid⟩ : Declared p.types id := by
    cases h with
    | one hid | same hid | struct hid | const hid => exact ⟨_, hid⟩
  obtain ⟨ty, hty, -⟩ := specializesTo_of_declaredAs hbuild hid
  refine ⟨ty, hty, ?_⟩
  rw [(build_layered hbuild).size_eq (build_typesValid hbuild) hty, ← eq_exactCells hbuild h]

end cells

/-! ### Sums of sizes -/

theorem size_eq_ok {r : Registry} {id : Ident} {ty : ConcreteType} (hty : r.type? id = some ty) :
    r.size id = .ok ty.info.size := by
  rw [size, size?, hty]
  rfl

theorem totalSize_of_hasCells {p : Program} {r : Registry} (hbuild : build p = .ok r)
    {ids : List Ident} {cells : Ident → Nat} (h : ∀ id ∈ ids, HasCells p.types id (cells id)) :
    r.totalSize ids = .ok (.ofNat (ids.map cells).sum) := by
  have hfold : ∀ total : Nat,
      ids.foldlM (fun total id => do return total + (← r.size id)) (.ofNat total) =
        .ok (.ofNat (total + (ids.map cells).sum)) := by
    induction ids with
    | nil => exact fun _ => rfl
    | cons id ids ih =>
      intro total
      obtain ⟨ty, hty, hsize⟩ := size_of_hasCells hbuild (h id List.mem_cons_self)
      rw [List.foldlM_cons, size_eq_ok hty, hsize]
      change ids.foldlM _ (Int64.ofNat total + Int64.ofNat (cells id)) = _
      rw [← Int64.ofNat_add, ih fun id hmem => h id (List.mem_cons_of_mem _ hmem), List.map_cons,
        List.sum_cons, Nat.add_assoc]
  rw [totalSize, show (0 : Int64) = .ofNat 0 from rfl, hfold 0, Nat.zero_add]

/-- Only numbers below `2 ^ 63` are kept exactly. -/
theorem toInt_ofNat_iff {n : Nat} : (Int64.ofNat n).toInt = n ↔ n < 2 ^ 63 := by
  constructor
  · intro h
    have hlt := Int64.toInt_lt (.ofNat n)
    omega
  · exact Int64.toInt_ofNat_of_lt

/-! ### Programs -/

/-- The recorded sizes of the types of a program and their sums are numbers of cells, wrapped. -/
structure SizesRecorded (p : Program) (r : Registry) : Prop where
  /-- every declared type has one number of cells -/
  declared : ∀ {id : Ident}, Declared p.types id → ∃ n, HasCells p.types id n
  unique : ∀ {id : Ident} {n k : Nat}, HasCells p.types id n → HasCells p.types id k → n = k
  /-- its size is exact if this number is below `2 ^ 63`, and only then -/
  size : ∀ {id : Ident} {n : Nat}, HasCells p.types id n →
    ∃ ty, r.type? id = some ty ∧ r.size id = .ok ty.info.size ∧ ty.info.size = .ofNat n ∧
      (ty.info.size.toInt = n ↔ n < 2 ^ 63)
  /-- the same holds of a sum of sizes -/
  total : ∀ {ids : List Ident} {cells : Ident → Nat},
    (∀ id ∈ ids, HasCells p.types id (cells id)) →
    ∃ total, r.totalSize ids = .ok total ∧ total = .ofNat (ids.map cells).sum ∧
      (total.toInt = (ids.map cells).sum ↔ (ids.map cells).sum < 2 ^ 63)

/-- The sizes of a program that has a registry, and their sums, are the numbers of cells wrapped at
64 bits: exact below `2 ^ 63`, and wrong from there on. -/
theorem sizesRecorded_of_build {p : Program} {r : Registry} (hbuild : build p = .ok r) :
    SizesRecorded p r where
  declared hid := by
    obtain ⟨long, hid⟩ := hid
    obtain ⟨ty, hty, -⟩ := specializesTo_of_declaredAs hbuild hid
    exact ⟨_, hasCells_exactCells hbuild hty⟩
  unique hn hk := (eq_exactCells hbuild hn).trans (eq_exactCells hbuild hk).symm
  size h := by
    obtain ⟨ty, hty, hsize⟩ := size_of_hasCells hbuild h
    exact ⟨ty, hty, size_eq_ok hty, hsize, by rw [hsize]; exact toInt_ofNat_iff⟩
  total h := ⟨_, totalSize_of_hasCells hbuild h, rfl, toInt_ofNat_iff⟩

theorem declaredAs_of_numbered {types : List Declaration} {id : UInt64} {generic : String}
    {args : List GenericArg} (h : .numbered id generic args ∈ types) :
    DeclaredAs types { id := id } ⟨generic, args⟩ :=
  ⟨_, h, rfl, rfl⟩

theorem hasCells_of_replicate {types : List Declaration} {id user inner : Ident} {count n : Nat}
    (hid : DeclaredAs types id ⟨"Struct", .userType user :: List.replicate count (.type inner)⟩)
    (hinner : HasCells types inner n) : HasCells types id (count * n) := by
  rw [← List.map_replicate] at hid
  have hmembers : ∀ member ∈ List.replicate count inner, HasCells types member n := by
    intro member hmem
    rwa [List.eq_of_mem_replicate hmem]
  have hcells : HasCells types id ((List.replicate count inner).map fun _ => n).sum :=
    .struct hid hmembers
  rwa [List.map_replicate, List.sum_replicate_nat] at hcells

/-- A struct of two structs of three members each, under two wrappers. -/
def nestedTypes : Program where
  types :=
    [.numbered 0 "felt252",
     .numbered 1 "Struct" (.userType { id := 0 } :: List.replicate 3 (.type { id := 0 })),
     .numbered 2 "Struct" (.userType { id := 1 } :: List.replicate 2 (.type { id := 1 })),
     .numbered 3 "NonZero" [.type { id := 2 }],
     .numbered 4 "Uninitialized" [.type { id := 3 }]]
  libfuncs := []
  statements := []
  functions := []

/-- The wrapped struct of `nestedTypes` takes six cells, which is its recorded size. -/
theorem sizesRecorded_nestedTypes :
    ∃ r, build nestedTypes = .ok r ∧ HasCells nestedTypes.types { id := 4 } 6 ∧
      r.size { id := 4 } = .ok 6 ∧ r.totalSize [{ id := 4 }, { id := 4 }] = .ok 12 ∧
      SizesRecorded nestedTypes r := by
  obtain ⟨r, hbuild, -⟩ : ∃ r, build nestedTypes = .ok r ∧ true = true :=
    exists_of_toOption_any (by decide +kernel)
  have hfelt : HasCells nestedTypes.types { id := 0 } 1 :=
    .one (declaredAs_of_numbered (.head _)) (by decide +kernel)
  have hstruct : HasCells nestedTypes.types { id := 2 } 6 :=
    hasCells_of_replicate (declaredAs_of_numbered (.tail _ (.tail _ (.head _))))
      (hasCells_of_replicate (declaredAs_of_numbered (.tail _ (.head _))) hfelt)
  have hcells : HasCells nestedTypes.types { id := 4 } 6 :=
    .same (declaredAs_of_numbered (.tail _ (.tail _ (.tail _ (.tail _ (.head _))))))
      (by decide +kernel)
      (.same (declaredAs_of_numbered (.tail _ (.tail _ (.tail _ (.head _))))) (by decide +kernel)
        hstruct)
  have hrecorded := sizesRecorded_of_build hbuild
  obtain ⟨ty, -, hsize, hty, -⟩ := hrecorded.size hcells
  rw [hty] at hsize
  have hboth : ∀ id ∈ [({ id := 4 } : Ident), { id := 4 }], HasCells nestedTypes.types id 6 := by
    simpa using hcells
  obtain ⟨total, htotal, rfl, -⟩ := hrecorded.total hboth
  exact ⟨r, hbuild, hcells, hsize, htotal, hrecorded⟩

/-! ### A size that is not exact -/

/-- Each struct of `wrappedSizes` takes eight times the cells of the one before. -/
theorem hasCells_wrappedSizes (k : Nat) (hk : k < 21) :
    HasCells wrappedSizes.types { id := .ofNat (10 + k) } (8 ^ (k + 1)) := by
  have hid : DeclaredAs wrappedSizes.types { id := .ofNat (10 + k) }
      ⟨"Struct", .userType { id := .ofNat k } ::
        List.replicate 8 (.type { id := if k = 0 then 0 else .ofNat (9 + k) })⟩ :=
    declaredAs_of_numbered
      (List.mem_append_right _ (List.mem_map.mpr ⟨k, List.mem_range.mpr hk, rfl⟩))
  rw [pow_succ']
  refine hasCells_of_replicate hid ?_
  cases k with
  | zero => exact .one (declaredAs_of_numbered (.head _)) (by decide +kernel)
  | succ k =>
    rw [if_neg k.succ_ne_zero, show 9 + (k + 1) = 10 + k by omega]
    exact hasCells_wrappedSizes k (by omega)

/-- The last struct of `wrappedSizes` takes `2 ^ 63` cells, as eight of the one before do, but its
recorded size and the sum of theirs are `-2 ^ 63`. -/
theorem size_of_wrappedSizes :
    ∃ r ty, build wrappedSizes = .ok r ∧ HasCells wrappedSizes.types { id := 30 } (2 ^ 63) ∧
      r.type? { id := 30 } = some ty ∧ ty.info.size.toInt = -2 ^ 63 ∧
      HasCells wrappedSizes.types { id := 29 } (2 ^ 60) ∧
      r.totalSize (List.replicate 8 { id := 29 }) = .ok ty.info.size := by
  obtain ⟨r, hbuild, -⟩ : ∃ r, build wrappedSizes = .ok r ∧ true = true :=
    exists_of_toOption_any (by decide +kernel)
  have hlast : HasCells wrappedSizes.types { id := 30 } (2 ^ 63) :=
    hasCells_wrappedSizes 20 (by decide)
  have hbefore : HasCells wrappedSizes.types { id := 29 } (2 ^ 60) :=
    hasCells_wrappedSizes 19 (by decide)
  obtain ⟨ty, hty, hsize⟩ := size_of_hasCells hbuild hlast
  have height : ∀ id ∈ List.replicate 8 ({ id := 29 } : Ident),
      HasCells wrappedSizes.types id (2 ^ 60) := by
    intro id hmem
    rwa [List.eq_of_mem_replicate hmem]
  refine ⟨r, ty, hbuild, hlast, hty, by rw [hsize]; rfl, hbefore, ?_⟩
  rw [totalSize_of_hasCells hbuild height, hsize]
  rfl

end Registry

end SierraCasm
