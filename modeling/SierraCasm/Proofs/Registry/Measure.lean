import Mathlib.Algebra.BigOperators.Ring.Finset
import Mathlib.Algebra.Order.BigOperators.Group.List
import Mathlib.Data.List.Induction
import SierraCasm.Proofs.Lowering.Encoding

/-! # Numbers computed along the declarations of types

A type refers to earlier ones only, so a number can be given to each type by a rule that uses the
numbers of the types it refers to (`Registry.measure`).  The number of a type of a valid program is
what the rule gives (`Registry.Layered.measure_eq`), and properties of types can be proved by going
down to the types they refer to (`Registry.Layered.induct`).

Two such numbers matter: the number of cells without wrapping (`Registry.exactCells`), and how many
builtins a value holds (`Registry.holdings`), which is zero for everything that can be dropped or
duplicated. -/

namespace SierraCasm

open Sierra Concrete

/-- The types that a type refers to. -/
def Concrete.Shape.parts : Shape → List Ident
  | .felt252 | .uint _ | .rangeCheck | .gasBuiltin => []
  | .nonZero inner | .box inner | .const inner _ | .uninitialized inner => [inner]
  | .struct _ members => members

theorem Concrete.SpecializedType.parts {types : TypeLookup} {ty : ConcreteType}
    (h : SpecializedType types ty) : ∀ id ∈ ty.shape.parts, (types id).isSome := by
  intro id hid
  cases h with
  | felt252 | uint | rangeCheck | gasBuiltin => cases hid
  | nonZero _ _ hinner | box _ _ hinner | const _ hinner | uninitialized _ hinner =>
    cases List.mem_singleton.mp hid
    rw [hinner]
    rfl
  | struct _ hmembers =>
    obtain ⟨member, hmem, rfl⟩ := List.mem_map.mp hid
    rw [(hmembers member hmem).1]
    rfl

namespace Registry

/-! ### Layers -/

/-- The numbers of types are distinct, and each type refers to types declared before it. -/
structure Layered (r : Registry) : Prop where
  distinct : (r.types.map (·.1.id)).Nodup
  earlier : ∀ {before after : List (Ident × ConcreteType)} {entry : Ident × ConcreteType},
    r.types = before ++ entry :: after →
    ∀ id ∈ entry.2.shape.parts, (findIdent before id).isSome

/-- Types are specialized one after the other. -/
theorem earlier_of_specializeTypes {known types : List (Ident × ConcreteType)}
    {ds : List Declaration} (h : specializeTypes known ds = .ok types)
    (hknown : ∀ {before after entry}, known = before ++ entry :: after →
      ∀ id ∈ entry.2.shape.parts, (findIdent before id).isSome) :
    ∀ {before after entry}, types = before ++ entry :: after →
      ∀ id ∈ entry.2.shape.parts, (findIdent before id).isSome := by
  induction ds generalizing known with
  | nil =>
    cases h
    exact hknown
  | cons d ds ih =>
    unfold specializeTypes at h
    split at h
    · rename_i ty hty
      refine ih h fun {before after entry} heq => ?_
      rcases List.eq_nil_or_concat after with rfl | ⟨after, last, rfl⟩
      · obtain ⟨rfl, hentry⟩ := List.append_inj' heq rfl
        cases hentry
        exact (specializeType_eq_ok hty).parts
      · rw [List.concat_eq_append, ← List.cons_append, ← List.append_assoc] at heq
        exact hknown (List.append_inj' heq rfl).1
    · cases h

theorem build_layered {p : Program} {r : Registry} (h : build p = .ok r) : r.Layered := by
  obtain ⟨htypes, hdistinct⟩ := types_of_build h
  exact ⟨hdistinct, earlier_of_specializeTypes htypes fun heq => by simp at heq⟩

/-! ### Measures -/

/-- The numbers that a rule gives to types declared in order. -/
def measure (rule : (Ident → Nat) → Shape → Nat) (types : List (Ident × ConcreteType)) :
    Ident → Nat :=
  types.foldl (fun known entry id => if entry.1.same id then rule known entry.2.shape else known id)
    fun _ => 0

/-- A rule looks at the types that a type refers to only. -/
def IsRule (rule : (Ident → Nat) → Shape → Nat) : Prop :=
  ∀ {known known' : Ident → Nat} {shape : Shape},
    (∀ id ∈ shape.parts, known id = known' id) → rule known shape = rule known' shape

section measure

variable {rule : (Ident → Nat) → Shape → Nat}

theorem measure_concat (types : List (Ident × ConcreteType)) (entry : Ident × ConcreteType)
    (id : Ident) : measure rule (types ++ [entry]) id =
      if entry.1.same id then rule (measure rule types) entry.2.shape else measure rule types id := by
  rw [measure, List.foldl_append]
  rfl

theorem measure_congr (types : List (Ident × ConcreteType)) {a b : Ident} (h : a.id = b.id) :
    measure rule types a = measure rule types b := by
  induction types using List.reverseRecOn with
  | nil => rfl
  | append_singleton types entry ih =>
    have hsame : entry.1.same a = entry.1.same b := by simp only [Ident.same, h]
    rw [measure_concat, measure_concat, hsame, ih]

theorem measure_append {before after : List (Ident × ConcreteType)} {id : Ident}
    (h : id.id ∉ after.map (·.1.id)) : measure rule (before ++ after) id = measure rule before id := by
  induction after using List.reverseRecOn with
  | nil => rw [List.append_nil]
  | append_singleton after entry ih =>
    rw [List.map_append, List.mem_append, not_or] at h
    have hne : ¬ entry.1.same id = true := by
      intro hsame
      exact h.2 (by simp [(Ident.same_iff _ _).mp hsame])
    rw [← List.append_assoc, measure_concat, if_neg hne]
    exact ih h.1

theorem Layered.measure_eq {r : Registry} (h : r.Layered) (hrule : IsRule rule) {id : Ident}
    {ty : ConcreteType} (hty : r.type? id = some ty) :
    measure rule r.types id = rule (measure rule r.types) ty.shape := by
  obtain ⟨id', hmem, hsame⟩ := findIdent_eq_some hty
  obtain ⟨before, after, htypes⟩ := List.append_of_mem hmem
  have hparts := h.earlier htypes
  have hdistinct := h.distinct
  have hsplit : before ++ (id', ty) :: after = before ++ [(id', ty)] ++ after := by simp
  rw [htypes] at hdistinct ⊢
  rw [hsplit] at hdistinct ⊢
  rw [List.map_append, List.map_append, List.nodup_append] at hdistinct
  obtain ⟨hbefore, -, hafter⟩ := hdistinct
  rw [List.nodup_append] at hbefore
  have hid : id'.id = id.id := (Ident.same_iff _ _).mp hsame
  have hlast : id.id ∉ after.map (·.1.id) := by
    intro hmem'
    exact hafter id.id (by simp [hid]) id.id hmem' rfl
  rw [measure_append hlast, measure_concat, if_pos hsame]
  refine hrule fun part hpart => ?_
  obtain ⟨inner, hinner⟩ := Option.isSome_iff_exists.mp (hparts part hpart)
  obtain ⟨part', hmem', hsame'⟩ := findIdent_eq_some hinner
  have hpart' : part.id ∈ before.map (·.1.id) := by
    rw [← (Ident.same_iff _ _).mp hsame']
    exact List.mem_map_of_mem (f := fun entry => entry.1.id) hmem'
  rw [List.append_assoc, measure_append]
  intro hlater
  rw [List.map_append, List.mem_append] at hlater
  rcases hlater with hlater | hlater
  · exact hbefore.2.2 part.id hpart' part.id hlater rfl
  · exact hafter part.id (by simp [hpart']) part.id hlater rfl

/-- How deep a type refers to other types. -/
def depthRule (known : Ident → Nat) (shape : Shape) : Nat := (shape.parts.map known).sum + 1

theorem isRule_depth : IsRule depthRule := by
  intro known known' shape h
  rw [depthRule, depthRule, List.map_congr_left h]

/-- What holds of a type whenever it holds of the types that it refers to holds of all. -/
theorem Layered.induct {r : Registry} (h : r.Layered) {P : Ident → ConcreteType → Prop}
    (hstep : ∀ {id ty}, r.type? id = some ty →
      (∀ part ∈ ty.shape.parts, ∀ {inner}, r.type? part = some inner → P part inner) → P id ty)
    {id : Ident} {ty : ConcreteType} (hty : r.type? id = some ty) : P id ty := by
  generalize hdepth : measure depthRule r.types id = depth
  induction depth using Nat.strongRecOn generalizing id ty with
  | ind depth ih =>
    refine hstep hty fun part hpart inner hinner => ih _ ?_ hinner rfl
    rw [← hdepth, h.measure_eq isRule_depth hty]
    exact Nat.lt_succ_of_le (List.le_sum_of_mem (List.mem_map_of_mem hpart))

end measure

/-! ### Cells -/

/-- The number of cells of a type, by those of the types it refers to. -/
def cellsRule (known : Ident → Nat) : Shape → Nat
  | .felt252 | .uint _ | .rangeCheck | .gasBuiltin | .box _ => 1
  | .nonZero inner | .uninitialized inner => known inner
  | .struct _ members => (members.map known).sum
  | .const _ _ => 0

/-- The number of cells of a type, however large. -/
def exactCells (r : Registry) : Ident → Nat := measure cellsRule r.types

/-- The number of cells of every type fits into 64 bits with a sign. -/
def SizesFit (r : Registry) : Prop := ∀ entry ∈ r.types, r.exactCells entry.1 < 2 ^ 63

instance (r : Registry) : Decidable r.SizesFit :=
  inferInstanceAs (Decidable (∀ entry ∈ r.types, r.exactCells entry.1 < 2 ^ 63))

theorem isRule_cells : IsRule cellsRule := by
  intro known known' shape h
  cases shape with
  | nonZero inner | uninitialized inner => exact h inner (List.mem_singleton.mpr rfl)
  | struct user members => exact congrArg List.sum (List.map_congr_left h)
  | felt252 | uint | rangeCheck | gasBuiltin | box | const => rfl

theorem foldl_add_ofNat (sizes : List Nat) (total : Nat) :
    (sizes.map Int64.ofNat).foldl (· + ·) (.ofNat total) = .ofNat (total + sizes.sum) := by
  induction sizes generalizing total with
  | nil => rfl
  | cons n sizes ih =>
    rw [List.map_cons, List.foldl_cons, ← Int64.ofNat_add, ih, List.sum_cons, Nat.add_assoc]

/-- The recorded size of a type is its number of cells, wrapped. -/
theorem Layered.size_eq {r : Registry} (h : r.Layered) (htypes : r.TypesValid) {id : Ident}
    {ty : ConcreteType} (hty : r.type? id = some ty) :
    ty.info.size = .ofNat (r.exactCells id) := by
  refine h.induct (P := fun id ty => ty.info.size = .ofNat (r.exactCells id)) ?_ hty
  intro id ty hty hparts
  have hexact : r.exactCells id = cellsRule r.exactCells ty.shape := h.measure_eq isRule_cells hty
  rw [hexact]
  have hspecialized := htypes.type hty
  cases hspecialized with
  | felt252 | uint | rangeCheck | gasBuiltin | box | const => rfl
  | nonZero _ _ hinner | uninitialized _ hinner =>
    have hsize := hparts _ (List.mem_singleton.mpr rfl) hinner
    exact hsize
  | @struct long _ members _ hmembers =>
    have hsizes : (members.map (·.2.info)).map (·.size) =
        ((members.map (·.1)).map r.exactCells).map Int64.ofNat := by
      rw [List.map_map, List.map_map, List.map_map]
      refine List.map_congr_left fun member hmem => ?_
      exact hparts _ (List.mem_map_of_mem hmem) (hmembers member hmem).1
    calc (TypeInfo.ofMembers long (members.map (·.2.info))).size
        = ((members.map (·.2.info)).map (·.size)).foldl (· + ·) 0 := by
          rw [List.foldl_map]
          rfl
      _ = .ofNat (0 + ((members.map (·.1)).map r.exactCells).sum) := by
          rw [hsizes]
          exact foldl_add_ofNat _ 0
      _ = .ofNat (cellsRule r.exactCells (.struct _ (members.map (·.1)))) := by
          rw [Nat.zero_add]
          rfl

theorem SizesFit.exactCells_lt {r : Registry} (hfit : r.SizesFit) {id : Ident} {ty : ConcreteType}
    (hty : r.type? id = some ty) : r.exactCells id < 2 ^ 63 := by
  obtain ⟨id', hmem, hsame⟩ := findIdent_eq_some hty
  have hlt := hfit _ hmem
  rwa [exactCells, measure_congr _ ((Ident.same_iff _ _).mp hsame)] at hlt

/-- Where no size wraps, sizes are exact. -/
theorem Layered.cells_eq_exactCells {r : Registry} (h : r.Layered) (htypes : r.TypesValid)
    (hsizes : r.SizesExact) {id : Ident} {ty : ConcreteType} (hty : r.type? id = some ty) :
    r.cells id = r.exactCells id := by
  refine h.induct (P := fun id ty => r.cells id = r.exactCells id) ?_ hty
  intro id ty hty hparts
  have hexact : r.exactCells id = cellsRule r.exactCells ty.shape := h.measure_eq isRule_cells hty
  have hcells := r.cells_eq hty
  have hspecialized := htypes.type hty
  cases hspecialized with
  | felt252 | uint | rangeCheck | gasBuiltin | box | const =>
    rw [hcells, hexact]
    rfl
  | nonZero _ _ hinner | uninitialized _ hinner =>
    have hsize := hparts _ (List.mem_singleton.mpr rfl) hinner
    rw [r.cells_eq hinner] at hsize
    rw [hcells, hexact]
    exact hsize
  | struct _ hmembers =>
    rw [hexact, hsizes.struct hty rfl, cellsRule, Nat.cast_list_sum]
    simp only [List.map_map]
    refine congrArg List.sum (List.map_congr_left fun member hmem => ?_)
    exact hparts _ (List.mem_map_of_mem hmem) (hmembers member hmem).1

theorem Layered.sizesExact {r : Registry} (h : r.Layered) (htypes : r.TypesValid)
    (hfit : r.SizesFit) : r.SizesExact := by
  have hcells : ∀ {id ty}, r.type? id = some ty → r.cells id = r.exactCells id := by
    intro id ty hty
    rw [r.cells_eq hty, h.size_eq htypes hty,
      Int64.toInt_ofNat_of_lt (hfit.exactCells_lt hty)]
  intro entry hentry members hmembers
  have hty : r.type? entry.1 = some entry.2 := findIdent_of_mem h.distinct hentry
  obtain ⟨user, hshape⟩ : ∃ user, entry.2.shape = .struct user members := by
    unfold Shape.members? at hmembers
    split at hmembers
    · rename_i user _ hshape
      cases hmembers
      exact ⟨user, hshape⟩
    · cases hmembers
  have hexact : r.exactCells entry.1 = (members.map r.exactCells).sum := by
    rw [exactCells, h.measure_eq isRule_cells hty, hshape]
    rfl
  rw [← r.cells_eq hty, hcells hty, hexact, Nat.cast_list_sum, List.map_map]
  refine congrArg List.sum (List.map_congr_left fun member hmem => ?_)
  obtain ⟨inner, hinner⟩ := Option.isSome_iff_exists.mp
    ((htypes.type hty).parts member (by rw [hshape]; exact hmem))
  exact (hcells hinner).symm

/-! ### Builtins -/

/-- The values that must not be dropped or duplicated. -/
inductive Builtin where
  | rangeCheck
  | gas
deriving DecidableEq, Repr

/-- What the builtins in a value weigh, by what those in the types it refers to do. -/
def holdingsRule (weight : Builtin → Nat) (known : Ident → Nat) : Shape → Nat
  | .rangeCheck => weight .rangeCheck
  | .gasBuiltin => weight .gas
  | .nonZero inner | .box inner => known inner
  | .struct _ members => (members.map known).sum
  | .felt252 | .uint _ | .const _ _ | .uninitialized _ => 0

/-- What the builtins in a value of a type weigh together; with weight one for each it is their
number. -/
def holdings (r : Registry) (weight : Builtin → Nat) : Ident → Nat :=
  measure (holdingsRule weight) r.types

theorem isRule_holdings (weight : Builtin → Nat) : IsRule (holdingsRule weight) := by
  intro known known' shape h
  cases shape with
  | nonZero inner | box inner => exact h inner (List.mem_singleton.mpr rfl)
  | struct user members => exact congrArg List.sum (List.map_congr_left h)
  | felt252 | uint | rangeCheck | gasBuiltin | const | uninitialized => rfl

section holdings

variable {r : Registry} {weight : Builtin → Nat}

theorem Layered.holdings_eq (h : r.Layered) {id : Ident} {ty : ConcreteType}
    (hty : r.type? id = some ty) :
    r.holdings weight id = holdingsRule weight (r.holdings weight) ty.shape :=
  h.measure_eq (isRule_holdings weight) hty

theorem holdings_congr {a b : Ident} (h : a.id = b.id) :
    r.holdings weight a = r.holdings weight b :=
  measure_congr _ h

theorem Layered.holdings_eq_zero (h : r.Layered) (htypes : r.TypesValid) {id : Ident}
    {ty : ConcreteType} (hty : r.type? id = some ty)
    (hflag : ty.info.droppable = true ∨ ty.info.duplicatable = true) :
    r.holdings weight id = 0 := by
  refine h.induct (P := fun id ty => ty.info.droppable = true ∨ ty.info.duplicatable = true →
    r.holdings weight id = 0) ?_ hty hflag
  intro id ty hty hparts hflag
  rw [h.holdings_eq hty]
  have hspecialized := htypes.type hty
  cases hspecialized with
  | felt252 | uint | const | uninitialized => rfl
  | rangeCheck | gasBuiltin => rcases hflag with hflag | hflag <;> cases hflag
  | nonZero _ _ hinner | box _ _ hinner =>
    have hzero := hparts _ (List.mem_singleton.mpr rfl) hinner
    exact hzero hflag
  | @struct _ _ members _ hmembers =>
    rw [holdingsRule, List.sum_eq_zero_iff]
    intro n hn
    obtain ⟨id, hid, rfl⟩ := List.mem_map.mp hn
    obtain ⟨member, hmem, rfl⟩ := List.mem_map.mp hid
    refine hparts _ hid (hmembers member hmem).1 ?_
    rcases hflag with hflag | hflag
    · exact .inl (List.all_eq_true.mp hflag _ (List.mem_map_of_mem hmem))
    · exact .inr (List.all_eq_true.mp hflag _ (List.mem_map_of_mem hmem))

theorem Layered.holdings_of_isNumber (h : r.Layered) {id : Ident} {ty : ConcreteType}
    (hty : r.type? id = some ty) (hnumber : ty.shape.isNumber = true) :
    r.holdings weight id = 0 := by
  rw [h.holdings_eq hty]
  cases hshape : ty.shape <;> rw [hshape] at hnumber <;> first | rfl | cases hnumber

end holdings

end Registry

end SierraCasm
