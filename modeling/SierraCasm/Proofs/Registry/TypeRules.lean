import SierraCasm.Proofs.Registry.Types
import SierraCasm.Proofs.Registry.WellFormed

/-! # The types that are accepted

The concrete types of a program are tabulated in the order of their declarations (`Tabulates`).  A
type specializes with the table of the types before it exactly when it is formed from them
(`Tabulates.specializes_iff`), and the table tells which types are storable and which may be
dropped or duplicated. -/

namespace SierraCasm

open Sierra Concrete

/-! ### Ranges of constants -/

namespace Sierra

theorem fitsBits_iff {bits : Nat} {v : Int} : fitsBits bits v = true ↔ 0 ≤ v ∧ v < 2 ^ bits := by
  simp [fitsBits]

/-- The names of types with constants are those of the field and of the unsigned integers. -/
theorem mem_numberNames_iff {name : String} :
    name ∈ numberNames ↔ name = "felt252" ∨ ∃ bits ∈ uintWidths, name = uintName bits := by
  simp [numberNames, eq_comm]

theorem uintName_inj {a b : Nat} (ha : a ∈ uintWidths) (hb : b ∈ uintWidths)
    (h : uintName a = uintName b) : a = b := by
  have hname := ofName?_uintName ha
  rw [h, ofName?_uintName hb] at hname
  simpa using hname.symm

theorem uintName_ne_felt252 {bits : Nat} (h : bits ∈ uintWidths) : uintName bits ≠ "felt252" := by
  intro heq
  have hname := ofName?_uintName h
  rw [heq] at hname
  cases hname

theorem inRange_felt252_iff {v : Int} : InRange "felt252" v ↔ Felt.inRange v = true := by
  rw [Felt.inRange_iff]
  constructor
  · intro h
    generalize hname : "felt252" = name at h
    cases h with
    | felt252 hlow hhigh => exact ⟨hlow, hhigh⟩
    | uint hbits => exact absurd hname.symm (uintName_ne_felt252 hbits)
  · rintro ⟨hlow, hhigh⟩
    exact .felt252 hlow hhigh

theorem inRange_uintName_iff {bits : Nat} {v : Int} (hbits : bits ∈ uintWidths) :
    InRange (uintName bits) v ↔ fitsBits bits v = true := by
  rw [fitsBits_iff]
  constructor
  · intro h
    generalize hname : uintName bits = name at h
    cases h with
    | felt252 => exact absurd hname (uintName_ne_felt252 hbits)
    | uint hbits' hlow hhigh =>
      obtain rfl := uintName_inj hbits hbits' hname
      exact ⟨hlow, hhigh⟩
  · rintro ⟨hlow, hhigh⟩
    exact .uint hbits hlow hhigh

theorem InRange.mem_numberNames {name : String} {v : Int} (h : InRange name v) :
    name ∈ numberNames := by
  rw [mem_numberNames_iff]
  cases h with
  | felt252 => exact .inl rfl
  | uint hbits => exact .inr ⟨_, hbits, rfl⟩

theorem Allows.mono {ds ds' : List Declaration} {use : Use} {id : Ident}
    (hsub : ∀ d ∈ ds, d ∈ ds') (h : Allows ds use id) : Allows ds' use id := by
  have hdeclared : ∀ {id long}, DeclaredAs ds id long → DeclaredAs ds' id long := by
    rintro id long ⟨d, hd, hid⟩
    exact ⟨d, hsub d hd, hid⟩
  induction h with
  | simple hid hname => exact .simple (hdeclared hid) hname
  | compound hid hname _ ih => exact .compound (hdeclared hid) hname ih

end Sierra

namespace Concrete

/-! ### What a long id tells about its type -/

namespace SpecializesTo

variable {types types' : TypeLookup} {long : LongId} {ty : ConcreteType}

theorem mono (htypes : ∀ {id inner}, types id = some inner → types' id = some inner)
    (h : SpecializesTo types long ty) : SpecializesTo types' long ty := by
  cases h with
  | felt252 => exact .felt252
  | uint hbits => exact .uint hbits
  | rangeCheck => exact .rangeCheck
  | gasBuiltin => exact .gasBuiltin
  | nonZero hinner hstorable => exact .nonZero (htypes hinner) hstorable
  | box hinner hstorable => exact .box (htypes hinner) hstorable
  | struct hmembers => exact .struct fun m hm => (hmembers m hm).imp_left htypes
  | const hinner hconstant => exact .const (htypes hinner) hconstant
  | uninitialized hinner => exact .uninitialized (htypes hinner)

theorem longId_eq (h : SpecializesTo types long ty) : ty.info.longId = long := by
  cases h <;> rfl

theorem storable_iff (h : SpecializesTo types long ty) :
    ty.info.storable = true ↔ long.generic ∉ fleetingNames := by
  cases h with
  | uint hbits =>
    have hname : ∀ bits ∈ uintWidths, uintName bits ∉ fleetingNames := by decide +kernel
    exact iff_of_true rfl (hname _ hbits)
  | felt252 | rangeCheck | gasBuiltin | box | struct =>
    exact iff_of_true rfl (by simp [fleetingNames])
  | nonZero _ hstorable => exact iff_of_true hstorable (by simp [fleetingNames])
  | const | uninitialized => exact iff_of_false Bool.false_ne_true (by simp [fleetingNames])

theorem hasConstant_iff (h : SpecializesTo types long ty) {v : Int} :
    ty.shape.hasConstant v = true ↔ InRange long.generic v := by
  cases h with
  | felt252 => exact inRange_felt252_iff.symm
  | uint hbits => exact (inRange_uintName_iff hbits).symm
  | rangeCheck | gasBuiltin | nonZero | box | struct | const | uninitialized =>
    refine iff_of_false Bool.false_ne_true fun hrange => ?_
    have hname := hrange.mem_numberNames
    dsimp only at hname
    revert hname
    decide +kernel

end SpecializesTo

/-! ### Uses -/

/-- The recorded answer whether values of a type allow a use. -/
def TypeInfo.allows (info : TypeInfo) : Use → Bool
  | .drop => info.droppable
  | .dup => info.duplicatable

theorem not_mem_names_of_compound {name : String} (h : name ∈ compoundNames) (use : Use) :
    name ∉ use.names := by
  revert name
  cases use <;> decide +kernel

namespace SpecializesTo

variable {types : TypeLookup} {long : LongId} {ty : ConcreteType}

/-- A type that is not compound allows a use by its name. -/
theorem allows_iff_of_simple (h : SpecializesTo types long ty)
    (hname : long.generic ∉ compoundNames) (use : Use) :
    ty.info.allows use = true ↔ long.generic ∈ use.names := by
  cases h with
  | felt252 => cases use <;> exact iff_of_true rfl (by decide +kernel)
  | @uint bits hbits =>
    have hnumber : uintName bits ∈ numberNames := mem_numberNames_iff.mpr (.inr ⟨bits, hbits, rfl⟩)
    cases use with
    | drop => exact iff_of_true rfl (List.mem_cons_of_mem _ hnumber)
    | dup => exact iff_of_true rfl hnumber
  | rangeCheck | gasBuiltin | const =>
    cases use <;> exact iff_of_false Bool.false_ne_true (by dsimp only; decide +kernel)
  | uninitialized =>
    cases use with
    | drop => exact iff_of_true rfl List.mem_cons_self
    | dup => exact iff_of_false Bool.false_ne_true (by dsimp only; decide +kernel)
  | nonZero | box | struct => exact absurd (by simp [compoundNames, wrapperNames]) hname

/-- A compound type is made of declared types that are storable. -/
theorem exists_part (h : SpecializesTo types long ty) (hname : long.generic ∈ compoundNames)
    {id : Ident} (hid : .type id ∈ long.args) :
    ∃ inner, types id = some inner ∧ inner.info.storable = true := by
  cases h with
  | felt252 | uint | rangeCheck | gasBuiltin => cases hid
  | nonZero hinner hstorable | box hinner hstorable =>
    simp only [List.mem_singleton, GenericArg.type.injEq] at hid
    exact ⟨_, hid ▸ hinner, hstorable⟩
  | struct hmembers =>
    simp only [List.mem_cons, reduceCtorEq, false_or, List.mem_map, GenericArg.type.injEq] at hid
    obtain ⟨m, hm, rfl⟩ := hid
    exact ⟨m.2, hmembers m hm⟩
  | const | uninitialized => simp [compoundNames, wrapperNames] at hname

/-- A compound type allows a use when the types that it is made of do. -/
theorem allows_iff_of_compound (h : SpecializesTo types long ty)
    (hname : long.generic ∈ compoundNames) (use : Use) :
    ty.info.allows use = true ↔
      ∀ id inner, .type id ∈ long.args → types id = some inner → inner.info.allows use = true := by
  cases h with
  | felt252 | rangeCheck | gasBuiltin | const | uninitialized =>
    simp [compoundNames, wrapperNames] at hname
  | uint hbits =>
    have hnot : ∀ bits ∈ uintWidths, uintName bits ∉ compoundNames := by decide +kernel
    exact absurd hname (hnot _ hbits)
  | @nonZero id inner hinner _ | @box id inner hinner _ =>
    have hpart : ∀ id' inner', GenericArg.type id' ∈ [GenericArg.type id] →
        types id' = some inner' → inner' = inner := by
      intro id' inner' hid hinner'
      simp only [List.mem_singleton, GenericArg.type.injEq] at hid
      rw [hid, hinner] at hinner'
      exact (Option.some.inj hinner').symm
    constructor
    · intro hallows id' inner' hid hinner'
      obtain rfl := hpart id' inner' hid hinner'
      cases use <;> exact hallows
    · intro hall
      have hinner' := hall id inner List.mem_cons_self hinner
      cases use <;> exact hinner'
  | @struct user members hmembers =>
    have hall : (TypeInfo.ofMembers ⟨"Struct", .userType user :: members.map fun m => .type m.1⟩
        (members.map (·.2.info))).allows use = true ↔
          ∀ m ∈ members, m.2.info.allows use = true := by
      cases use <;> simp [TypeInfo.allows, TypeInfo.ofMembers]
    rw [hall]
    constructor
    · intro hmem id inner hid hinner
      simp only [List.mem_cons, reduceCtorEq, false_or, List.mem_map, GenericArg.type.injEq] at hid
      obtain ⟨m, hm, rfl⟩ := hid
      rw [(hmembers m hm).1] at hinner
      cases hinner
      exact hmem m hm
    · intro hparts m hm
      refine hparts m.1 m.2 (List.mem_cons_of_mem _ ?_) (hmembers m hm).1
      exact List.mem_map_of_mem (f := fun m : Ident × ConcreteType => GenericArg.type m.1) hm

end SpecializesTo

end Concrete

namespace Registry

/-! ### Tables of types -/

/-- The table of some declarations, each specialized with the types before it. -/
inductive Tabulates : List Declaration → List (Ident × ConcreteType) → Prop
  | nil : Tabulates [] []
  | concat {ds : List Declaration} {table : List (Ident × ConcreteType)} {d : Declaration}
      {ty : ConcreteType} : Tabulates ds table → SpecializesTo (findIdent table) d.longId ty →
      Tabulates (ds ++ [d]) (table ++ [(d.id, ty)])

theorem findIdent_concat {α : Type} {table : List (Ident × α)} {id id' : Ident} {x y : α}
    (h : findIdent (table ++ [(id', y)]) id = some x) :
    findIdent table id = some x ∨ id'.id = id.id ∧ y = x := by
  simp only [findIdent, List.find?_append] at h ⊢
  cases hfind : table.find? (fun entry => entry.1.same id) with
  | some entry =>
    rw [hfind] at h
    exact .inl h
  | none =>
    rw [hfind, Option.none_or, List.find?_singleton] at h
    split at h
    · rename_i hsame
      exact .inr ⟨(Ident.same_iff _ _).mp hsame, Option.some.inj h⟩
    · cases h

theorem exists_members {types : TypeLookup} {ids : List Ident}
    (h : ∀ id ∈ ids, ∃ ty, types id = some ty ∧ ty.info.storable = true) :
    ∃ members : List (Ident × ConcreteType),
      (∀ m ∈ members, types m.1 = some m.2 ∧ m.2.info.storable = true) ∧
      members.map (·.1) = ids := by
  induction ids with
  | nil => exact ⟨[], by simp, rfl⟩
  | cons id ids ih =>
    obtain ⟨ty, hty⟩ := h id List.mem_cons_self
    obtain ⟨members, hmembers, rfl⟩ := ih fun id' hid' => h id' (List.mem_cons_of_mem id hid')
    refine ⟨(id, ty) :: members, ?_, rfl⟩
    intro m hm
    rcases List.mem_cons.mp hm with rfl | hm
    · exact hty
    · exact hmembers m hm

namespace Tabulates

variable {ds : List Declaration} {table : List (Ident × ConcreteType)} {id : Ident}
  {ty : ConcreteType} {long : LongId}

theorem specializesTo_of_mem (h : Tabulates ds table) {entry : Ident × ConcreteType}
    (hentry : entry ∈ table) :
    SpecializesTo (findIdent table) entry.2.info.longId entry.2 := by
  induction h with
  | nil => cases hentry
  | concat _ hnew ih =>
    rcases List.mem_append.mp hentry with hold | hlast
    · exact (ih hold).mono findIdent_append
    · obtain rfl := List.mem_singleton.mp hlast
      rw [hnew.longId_eq]
      exact hnew.mono findIdent_append

theorem specializesTo (h : Tabulates ds table) (hty : findIdent table id = some ty) :
    SpecializesTo (findIdent table) ty.info.longId ty := by
  obtain ⟨id', hmem, -⟩ := findIdent_eq_some hty
  exact h.specializesTo_of_mem hmem

theorem map_eq (h : Tabulates ds table) :
    table.map (fun entry => ⟨entry.1, entry.2.info.longId⟩) = ds := by
  induction h with
  | nil => rfl
  | concat _ hnew ih => rw [List.map_append, ih, List.map_singleton, hnew.longId_eq]

theorem declaredAs (h : Tabulates ds table) (hty : findIdent table id = some ty) :
    DeclaredAs ds id ty.info.longId := by
  obtain ⟨id', hmem, hsame⟩ := findIdent_eq_some hty
  refine ⟨⟨id', ty.info.longId⟩, ?_, (Ident.same_iff _ _).mp hsame, rfl⟩
  rw [← h.map_eq]
  exact List.mem_map_of_mem (f := fun entry => (⟨entry.1, entry.2.info.longId⟩ : Declaration)) hmem

theorem find_of_declaredAs (h : Tabulates ds table) (hdistinct : (ds.map (·.id.id)).Nodup)
    (hid : DeclaredAs ds id long) :
    ∃ ty, findIdent table id = some ty ∧ ty.info.longId = long := by
  obtain ⟨d, hd, hsame, hlong⟩ := hid
  rw [← h.map_eq, List.mem_map] at hd
  obtain ⟨⟨id', ty⟩, hmem, rfl⟩ := hd
  have hdistinct' : (table.map (·.1.id)).Nodup := by
    rw [← h.map_eq, List.map_map] at hdistinct
    exact hdistinct
  have hfind : findIdent table id' = findIdent table id := by
    simp only [findIdent, Ident.same]
    rw [show id'.id = id.id from hsame]
  exact ⟨ty, hfind ▸ findIdent_of_mem hdistinct' hmem, hlong⟩

theorem storable_iff (h : Tabulates ds table) (hdistinct : (ds.map (·.id.id)).Nodup) :
    Storable ds id ↔ ∃ ty, findIdent table id = some ty ∧ ty.info.storable = true := by
  constructor
  · rintro ⟨long, hid, hname⟩
    obtain ⟨ty, hty, rfl⟩ := h.find_of_declaredAs hdistinct hid
    exact ⟨ty, hty, (h.specializesTo hty).storable_iff.mpr hname⟩
  · rintro ⟨ty, hty, hstorable⟩
    exact ⟨_, h.declaredAs hty, (h.specializesTo hty).storable_iff.mp hstorable⟩

theorem declared_iff (h : Tabulates ds table) (hdistinct : (ds.map (·.id.id)).Nodup) :
    Declared ds id ↔ ∃ ty, findIdent table id = some ty := by
  constructor
  · rintro ⟨long, hid⟩
    obtain ⟨ty, hty, -⟩ := h.find_of_declaredAs hdistinct hid
    exact ⟨ty, hty⟩
  · rintro ⟨ty, hty⟩
    exact ⟨_, h.declaredAs hty⟩

/-- A long id specializes with a table exactly when it is formed from the tabulated types. -/
theorem specializes_iff (h : Tabulates ds table) (hdistinct : (ds.map (·.id.id)).Nodup) :
    (∃ ty, SpecializesTo (findIdent table) long ty) ↔ TypeFormed ds long := by
  constructor
  · rintro ⟨ty, hty⟩
    cases hty with
    | felt252 | rangeCheck | gasBuiltin => exact .word (by simp [wordNames, numberNames])
    | uint hbits =>
      refine .word (List.mem_cons_of_mem _ (List.mem_cons_of_mem _ ?_))
      exact mem_numberNames_iff.mpr (.inr ⟨_, hbits, rfl⟩)
    | nonZero hinner hstorable | box hinner hstorable =>
      exact .wrapper (by simp [wrapperNames])
        ((h.storable_iff hdistinct).mpr ⟨_, hinner, hstorable⟩)
    | @struct user members hmembers =>
      have hall : ∀ id ∈ members.map (·.1), Storable ds id := by
        intro id hid
        obtain ⟨m, hm, rfl⟩ := List.mem_map.mp hid
        exact (h.storable_iff hdistinct).mpr ⟨m.2, hmembers m hm⟩
      have hform : TypeFormed ds ⟨"Struct", .userType user :: (members.map (·.1)).map .type⟩ :=
        .struct hall
      rwa [List.map_map] at hform
    | const hinner hconstant =>
      exact .const (h.declaredAs hinner) ((h.specializesTo hinner).hasConstant_iff.mp hconstant)
    | uninitialized hinner => exact .uninitialized ((h.declared_iff hdistinct).mpr ⟨_, hinner⟩)
  · intro hform
    cases hform with
    | word hname =>
      simp only [wordNames, List.mem_cons, mem_numberNames_iff] at hname
      rcases hname with rfl | rfl | rfl | ⟨bits, hbits, rfl⟩
      · exact ⟨_, .rangeCheck⟩
      · exact ⟨_, .gasBuiltin⟩
      · exact ⟨_, .felt252⟩
      · exact ⟨_, .uint hbits⟩
    | wrapper hname hid =>
      obtain ⟨inner, hinner, hstorable⟩ := (h.storable_iff hdistinct).mp hid
      simp only [wrapperNames, List.mem_cons, List.not_mem_nil, or_false] at hname
      rcases hname with rfl | rfl
      · exact ⟨_, .nonZero hinner hstorable⟩
      · exact ⟨_, .box hinner hstorable⟩
    | @struct user members hmembers =>
      obtain ⟨found, hfound, rfl⟩ := exists_members fun id hid =>
        (h.storable_iff hdistinct).mp (hmembers id hid)
      rw [List.map_map]
      exact ⟨_, .struct hfound⟩
    | const hid hrange =>
      obtain ⟨inner, hinner, rfl⟩ := h.find_of_declaredAs hdistinct hid
      exact ⟨_, .const hinner ((h.specializesTo hinner).hasConstant_iff.mpr hrange)⟩
    | uninitialized hid =>
      obtain ⟨inner, hinner⟩ := (h.declared_iff hdistinct).mp hid
      exact ⟨_, .uninitialized hinner⟩

/-- A type allows a use exactly when the table says so. -/
theorem allows_iff (h : Tabulates ds table) (hdistinct : (ds.map (·.id.id)).Nodup) (use : Use) :
    Allows ds use id ↔ ∃ ty, findIdent table id = some ty ∧ ty.info.allows use = true := by
  constructor
  · intro hallows
    induction hallows with
    | @simple id long hid hname =>
      obtain ⟨ty, hty, rfl⟩ := h.find_of_declaredAs hdistinct hid
      have hsimple : ty.info.longId.generic ∉ compoundNames :=
        fun hcompound => not_mem_names_of_compound hcompound use hname
      exact ⟨ty, hty, ((h.specializesTo hty).allows_iff_of_simple hsimple use).mpr hname⟩
    | @compound id long hid hname _ ih =>
      obtain ⟨ty, hty, rfl⟩ := h.find_of_declaredAs hdistinct hid
      refine ⟨ty, hty, ((h.specializesTo hty).allows_iff_of_compound hname use).mpr ?_⟩
      intro id' inner hid' hinner
      obtain ⟨inner', hinner', hallows⟩ := ih id' hid'
      rw [hinner] at hinner'
      cases hinner'
      exact hallows
  · rintro ⟨ty, hty, hallows⟩
    -- A type is made of types declared before it, so the induction is on the table.
    clear hdistinct
    induction h generalizing id ty with
    | nil => cases hty
    | @concat ds table d new htable hnew ih =>
      have hmono : ∀ {id}, Allows ds use id → Allows (ds ++ [d]) use id :=
        fun hallows => hallows.mono fun e he => List.mem_append_left _ he
      rcases findIdent_concat hty with hold | ⟨hid, rfl⟩
      · exact hmono (ih ty hold hallows)
      · have hdeclared : DeclaredAs (ds ++ [d]) id d.longId := ⟨d, by simp, hid, rfl⟩
        by_cases hname : d.longId.generic ∈ compoundNames
        · refine .compound hdeclared hname fun inner hinner => ?_
          obtain ⟨innerTy, hfind, -⟩ := hnew.exists_part hname hinner
          have hparts := (hnew.allows_iff_of_compound hname use).mp hallows
          exact hmono (ih innerTy hfind (hparts inner innerTy hinner hfind))
        · exact .simple hdeclared ((hnew.allows_iff_of_simple hname use).mp hallows)

end Tabulates

/-! ### All types -/

/-- Specialization continues a table. -/
theorem Tabulates.specializeTypes {earlier ds : List Declaration}
    {known types : List (Ident × ConcreteType)} (hknown : Tabulates earlier known)
    (h : specializeTypes known ds = .ok types) : Tabulates (earlier ++ ds) types := by
  induction ds generalizing earlier known with
  | nil =>
    cases h
    rwa [List.append_nil]
  | cons d ds ih =>
    unfold Registry.specializeTypes at h
    split at h
    · rename_i ty hty
      have hrest := ih (hknown.concat (specializeType_eq_ok_iff.mp hty)) h
      rwa [List.append_assoc] at hrest
    · cases h

theorem Tabulates.exists_specializeTypes_iff {earlier ds : List Declaration}
    {known : List (Ident × ConcreteType)} (hknown : Tabulates earlier known)
    (hdistinct : ((earlier ++ ds).map (·.id.id)).Nodup) :
    (∃ types, Registry.specializeTypes known ds = .ok types) ↔
      ∀ before d later, ds = before ++ d :: later → TypeFormed (earlier ++ before) d.longId := by
  induction ds generalizing earlier known with
  | nil => simp [Registry.specializeTypes]
  | cons d ds ih =>
    have hdistinct' : (earlier.map (·.id.id)).Nodup := by
      rw [List.map_append] at hdistinct
      exact (List.nodup_append.mp hdistinct).1
    have hsplit : earlier ++ d :: ds = earlier ++ [d] ++ ds := by simp
    rw [hsplit] at hdistinct
    constructor
    · rintro ⟨types, htypes⟩ before e later heq
      unfold Registry.specializeTypes at htypes
      split at htypes
      · rename_i ty hty
        have hspecialized := specializeType_eq_ok_iff.mp hty
        cases before with
        | nil =>
          cases heq
          rw [List.append_nil]
          exact (hknown.specializes_iff hdistinct').mp ⟨ty, hspecialized⟩
        | cons first before =>
          cases heq
          have hrest := (ih (hknown.concat hspecialized) hdistinct).mp ⟨types, htypes⟩
          have hform := hrest before e later rfl
          rwa [List.append_assoc] at hform
      · cases htypes
    · intro hform
      have hfirst := hform [] d ds rfl
      rw [List.append_nil] at hfirst
      obtain ⟨ty, hty⟩ := (hknown.specializes_iff hdistinct').mpr hfirst
      unfold Registry.specializeTypes
      rw [specializeType_eq_ok_iff.mpr hty]
      refine (ih (hknown.concat hty) hdistinct).mpr ?_
      rintro before e later rfl
      have hrest := hform (d :: before) e later rfl
      rwa [List.append_cons] at hrest

end Registry

end SierraCasm
