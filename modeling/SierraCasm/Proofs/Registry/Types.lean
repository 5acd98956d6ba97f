import Mathlib.Data.List.Basic
import SierraCasm.Proofs.Registry.Specialization
import SierraCasm.Proofs.Registry.Valid
import SierraCasm.Proofs.Sierra.Keys
import SierraCasm.Sizes

/-! # The types of a valid program

`SpecializedType types ty` lists the concrete types that a declaration can have, with what `types`
answers about the types they refer to.  A look-up by long id compares keys, that is texts; since
the generic names contain no bracket, a key determines the generic name and, for a wrapper, the
type inside (`TypesValid.felt252` and so on). -/

namespace SierraCasm

open Sierra Concrete

namespace Concrete

/-- The shapes of types whose values are single elements of the field. -/
def Shape.isWord : Shape → Bool
  | .felt252 | .uint _ | .rangeCheck | .gasBuiltin => true
  | _ => false

/-- The shapes of types that have constants. -/
def Shape.isNumber : Shape → Bool
  | .felt252 | .uint _ => true
  | _ => false

theorem Shape.isWord_of_isNumber {shape : Shape} (h : shape.isNumber = true) :
    shape.isWord = true := by
  cases shape <;> first | rfl | cases h

/-- The concrete types of a program. -/
inductive SpecializedType (types : TypeLookup) : ConcreteType → Prop
  | felt252 {long : LongId} : long.generic = "felt252" →
      SpecializedType types ⟨.felt252, .plain long⟩
  | uint {long : LongId} {bits : Nat} : bits ∈ uintWidths → long.generic = uintName bits →
      SpecializedType types ⟨.uint bits, .plain long⟩
  | rangeCheck {long : LongId} : long.generic = "RangeCheck" →
      SpecializedType types ⟨.rangeCheck, .linear long⟩
  | gasBuiltin {long : LongId} : long.generic = "GasBuiltin" →
      SpecializedType types ⟨.gasBuiltin, .linear long⟩
  | nonZero {long : LongId} {id : Ident} {inner : ConcreteType} : long.generic = "NonZero" →
      long.args = [.type id] → types id = some inner → inner.info.storable = true →
      SpecializedType types ⟨.nonZero id, { inner.info with longId := long }⟩
  | box {long : LongId} {id : Ident} {inner : ConcreteType} : long.generic = "Box" →
      long.args = [.type id] → types id = some inner → inner.info.storable = true →
      SpecializedType types ⟨.box id,
        { longId := long, storable := true, droppable := inner.info.droppable
          duplicatable := inner.info.duplicatable, size := 1 }⟩
  | struct {long : LongId} {user : Ident} {members : List (Ident × ConcreteType)} :
      long.generic = "Struct" →
      (∀ member ∈ members, types member.1 = some member.2 ∧ member.2.info.storable = true) →
      SpecializedType types
        ⟨.struct user (members.map (·.1)), .ofMembers long (members.map (·.2.info))⟩
  | const {long : LongId} {id : Ident} {v : Int} {inner : ConcreteType} :
      long.generic = "Const" → types id = some inner → inner.shape.isNumber = true →
      SpecializedType types ⟨.const id v, { longId := long, zeroSized := true }⟩
  | uninitialized {long : LongId} {id : Ident} {inner : ConcreteType} :
      long.generic = "Uninitialized" → types id = some inner →
      SpecializedType types
        ⟨.uninitialized id, { longId := long, droppable := true, size := inner.info.size }⟩

theorem SpecializedType.mono {types types' : TypeLookup} {ty : ConcreteType}
    (htypes : ∀ {id inner}, types id = some inner → types' id = some inner)
    (h : SpecializedType types ty) : SpecializedType types' ty := by
  cases h with
  | felt252 hname => exact .felt252 hname
  | uint hbits hname => exact .uint hbits hname
  | rangeCheck hname => exact .rangeCheck hname
  | gasBuiltin hname => exact .gasBuiltin hname
  | nonZero hname hargs hinner hstorable => exact .nonZero hname hargs (htypes hinner) hstorable
  | box hname hargs hinner hstorable => exact .box hname hargs (htypes hinner) hstorable
  | struct hname hmembers =>
    exact .struct hname fun member hmem => (hmembers member hmem).imp_left htypes
  | const hname hinner hnumber => exact .const hname (htypes hinner) hnumber
  | uninitialized hname hinner => exact .uninitialized hname (htypes hinner)

/-! ### Inversion -/

section inversion

variable {types : TypeLookup} {long : LongId} {ty : ConcreteType}

theorem Shape.isNumber_of_hasConstant {shape : Shape} {v : Int}
    (h : shape.hasConstant v = true) : shape.isNumber = true := by
  cases shape <;> first | rfl | cases h

theorem SpecializesTo.specializedType (h : SpecializesTo types long ty) :
    SpecializedType types ty := by
  cases h with
  | felt252 => exact .felt252 rfl
  | uint hbits => exact .uint hbits rfl
  | rangeCheck => exact .rangeCheck rfl
  | gasBuiltin => exact .gasBuiltin rfl
  | nonZero hinner hstorable => exact .nonZero rfl rfl hinner hstorable
  | box hinner hstorable => exact .box rfl rfl hinner hstorable
  | struct hmembers => exact .struct rfl hmembers
  | const hinner hconstant => exact .const rfl hinner (Shape.isNumber_of_hasConstant hconstant)
  | uninitialized hinner => exact .uninitialized rfl hinner

theorem specializeType_eq_ok (h : specializeType types long = .ok ty) :
    SpecializedType types ty :=
  (specializeType_eq_ok_iff.mp h).specializedType

/-- The generic type that a shape was made from. -/
def Shape.generic : Shape → GenericType
  | .felt252 => .felt252
  | .uint bits => .uint bits
  | .rangeCheck => .rangeCheck
  | .gasBuiltin => .gasBuiltin
  | .nonZero _ => .nonZero
  | .box _ => .box
  | .struct _ _ => .struct
  | .const _ _ => .const
  | .uninitialized _ => .uninitialized

theorem SpecializedType.ofName? (h : SpecializedType types ty) :
    GenericType.ofName? ty.info.longId.generic = some ty.shape.generic := by
  cases h with
  | uint hbits hname => rw [TypeInfo.plain, hname, ofName?_uintName hbits]; rfl
  | felt252 hname => rw [TypeInfo.plain, hname]; rfl
  | rangeCheck hname => rw [TypeInfo.linear, hname]; rfl
  | gasBuiltin hname => rw [TypeInfo.linear, hname]; rfl
  | struct hname => rw [TypeInfo.ofMembers, hname]; rfl
  | nonZero hname | box hname | const hname | uninitialized hname => rw [hname]; rfl

end inversion

end Concrete

/-! ### Keys -/

/-- The first bracket of a text splits it in one way. -/
theorem append_bracket_inj {xs ys us vs : List Char} (hxs : '<' ∉ xs) (hys : '<' ∉ ys)
    (h : xs ++ '<' :: us = ys ++ '<' :: vs) : xs = ys ∧ us = vs := by
  have hkind : ∀ {xs : List Char}, '<' ∉ xs → ∀ c ∈ xs, (c != '<') = true := by
    intro xs hxs c hc
    rw [bne_iff_ne]
    rintro rfl
    exact hxs hc
  have hstarts : ∀ us : List Char, StartsOutside (· != '<') ('<' :: us) := by
    intro us c hc
    cases hc
    decide
  obtain ⟨hhead, htail⟩ := append_inj_of_kind (hkind hxs) (hkind hys) (hstarts us) (hstarts vs) h
  exact ⟨hhead, (List.cons.inj htail).2⟩

/-- The key of a long id determines its generic name and the keys of its arguments together. -/
theorem key_inj {a b : LongId} (ha : '<' ∉ a.generic.toList) (hb : '<' ∉ b.generic.toList)
    (h : a.key = b.key) : a.generic = b.generic ∧
      ",".intercalate (a.args.map (·.key)) = ",".intercalate (b.args.map (·.key)) := by
  have hlist := congrArg String.toList h
  simp only [LongId.key, String.append_assoc, String.toList_append] at hlist
  obtain ⟨hgeneric, hargs⟩ := append_bracket_inj ha hb hlist
  exact ⟨String.toList_inj.mp hgeneric, String.toList_inj.mp (List.append_cancel_right hargs)⟩

/-- The key of a type as an argument determines its number. -/
theorem id_of_key_eq {a b : Ident} (h : (GenericArg.type a).key = (GenericArg.type b).key) :
    a.id = b.id := by
  have hagrees := (GenericArg.agrees_iff_key rfl rfl).mpr h
  simpa [GenericArg.unnamed] using (GenericArg.agrees_iff_unnamed rfl rfl).mp hagrees

namespace Registry

/-! ### Look-ups -/

/-- What validation establishes about types: they are specialized, and a look-up by long id gives
a type with the same key. -/
structure TypesValid (r : Registry) : Prop where
  type : ∀ {id : Ident} {ty : ConcreteType}, r.type? id = some ty → SpecializedType r.type? ty
  lookup : ∀ {long : LongId} {id : Ident}, r.lookupType? long = some id →
    ∃ ty, r.type? id = some ty ∧ ty.info.longId.key = long.key

theorem type?_congr (r : Registry) {a b : Ident} (h : a.id = b.id) : r.type? a = r.type? b := by
  simp only [type?, findIdent, Ident.same, h]

theorem findIdent_append {α : Type} {table more : List (Ident × α)} {id : Ident} {x : α}
    (h : findIdent table id = some x) : findIdent (table ++ more) id = some x := by
  simp only [findIdent, Option.map_eq_some_iff] at h ⊢
  obtain ⟨entry, hfind, hx⟩ := h
  exact ⟨entry, by rw [List.find?_append, hfind, Option.some_or], hx⟩

theorem findIdent_of_mem {α : Type} {table : List (Ident × α)} {id : Ident} {x : α}
    (hdistinct : (table.map (·.1.id)).Nodup) (h : (id, x) ∈ table) :
    findIdent table id = some x := by
  induction table with
  | nil => cases h
  | cons entry rest ih =>
    rw [List.map_cons, List.nodup_cons] at hdistinct
    rcases List.mem_cons.mp h with rfl | hrest
    · simp [findIdent, Ident.same]
    · have hne : entry.1.id ≠ id.id := by
        intro heq
        exact hdistinct.1 (heq ▸ List.mem_map_of_mem hrest)
      have hfind := ih hdistinct.2 hrest
      simp only [findIdent] at hfind ⊢
      rw [List.find?_cons_of_neg (by simpa [Ident.same] using hne), hfind]

theorem nodup_of_firstRepeated {seen : List UInt64} {ids : List Ident}
    (h : firstRepeated seen ids = none) :
    (ids.map (·.id)).Nodup ∧ ∀ id ∈ ids, id.id ∉ seen := by
  induction ids generalizing seen with
  | nil => simp
  | cons id ids ih =>
    unfold firstRepeated at h
    split at h
    · cases h
    · rename_i hseen
      obtain ⟨hnodup, hfresh⟩ := ih h
      rw [List.map_cons, List.nodup_cons, List.mem_map]
      refine ⟨⟨?_, hnodup⟩, fun id' hid' => ?_⟩
      · rintro ⟨id', hid', heq⟩
        exact hfresh id' hid' (heq ▸ List.mem_cons_self)
      · rcases List.mem_cons.mp hid' with rfl | hid'
        · exact hseen
        · exact fun hmem => hfresh id' hid' (List.mem_cons_of_mem _ hmem)

/-- Each type is specialized with the types before it, and keeps the number of its declaration. -/
theorem specializeTypes_eq_ok {known types : List (Ident × ConcreteType)} {ds : List Declaration}
    (h : specializeTypes known ds = .ok types)
    (hknown : ∀ entry ∈ known, SpecializedType (findIdent known) entry.2) :
    types.map (·.1) = known.map (·.1) ++ ds.map (·.id) ∧
      ∀ entry ∈ types, SpecializedType (findIdent types) entry.2 := by
  induction ds generalizing known with
  | nil =>
    cases h
    exact ⟨by simp, hknown⟩
  | cons d ds ih =>
    unfold specializeTypes at h
    split at h
    · rename_i ty hty
      obtain ⟨hids, hall⟩ := ih h (by
        intro entry hentry
        rcases List.mem_append.mp hentry with hold | hnew
        · exact (hknown entry hold).mono findIdent_append
        · obtain rfl := List.mem_singleton.mp hnew
          exact (specializeType_eq_ok hty).mono findIdent_append)
      exact ⟨by rw [hids]; simp, hall⟩
    · cases h

theorem tables_of_build {p : Program} {r : Registry} (h : build p = .ok r) :
    r.program = p ∧ specializeTypes [] p.types = .ok r.types ∧
      p.libfuncs.mapM (specializeDeclaration (context p r.types)) = .ok r.libfuncs := by
  obtain ⟨⟨⟩, -, h⟩ := bind_eq_ok.mp h
  obtain ⟨⟨⟩, -, h⟩ := bind_eq_ok.mp h
  obtain ⟨types, htypes, h⟩ := bind_eq_ok.mp h
  obtain ⟨libfuncs, hlibfuncs, h⟩ := bind_eq_ok.mp h
  obtain ⟨⟨⟩, -, h⟩ := bind_eq_ok.mp h
  cases h
  exact ⟨rfl, htypes, hlibfuncs⟩

/-- The types of a registry are the declared ones, specialized in order, with distinct numbers. -/
theorem types_of_build {p : Program} {r : Registry} (h : build p = .ok r) :
    specializeTypes [] p.types = .ok r.types ∧ (r.types.map (·.1.id)).Nodup := by
  obtain ⟨-, htypes, -⟩ := tables_of_build h
  refine ⟨htypes, ?_⟩
  obtain ⟨⟨⟩, hdistinct, -⟩ := bind_eq_ok.mp h
  obtain ⟨⟨⟩, hdistinct, -⟩ := bind_eq_ok.mp hdistinct
  unfold checkDistinct at hdistinct
  split at hdistinct
  · cases hdistinct
  · rename_i hrepeated
    have hids := (specializeTypes_eq_ok htypes (by simp)).1
    have hmap : r.types.map (·.1.id) = (p.types.map (·.id)).map (·.id) := by
      rw [← List.nil_append (p.types.map (·.id)), ← List.map_nil, ← hids, List.map_map]
      rfl
    rw [hmap]
    exact (nodup_of_firstRepeated hrepeated).1

theorem build_typesValid {p : Program} {r : Registry} (h : build p = .ok r) : r.TypesValid := by
  obtain ⟨htypes, hnodup⟩ := types_of_build h
  have hall := (specializeTypes_eq_ok htypes (by simp)).2
  refine ⟨?_, ?_⟩
  · intro id ty hty
    obtain ⟨id', hmem, -⟩ := findIdent_eq_some hty
    exact hall _ hmem
  · intro long id hlookup
    simp only [lookupType?, findLongId, Option.map_eq_some_iff] at hlookup
    obtain ⟨⟨id, ty⟩, hfind, rfl⟩ := hlookup
    have hkey := List.find?_some hfind
    exact ⟨ty, findIdent_of_mem hnodup (List.mem_of_find?_eq_some hfind), by simpa using hkey⟩

/-! ### What look-ups give -/

namespace TypesValid

variable {r : Registry} (h : r.TypesValid) {id inner : Ident}
include h

/-- A look-up by long id gives a type of that generic type with those arguments. -/
theorem of_lookup {long : LongId} {g : GenericType}
    (hg : GenericType.ofName? long.generic = some g) (hlookup : r.lookupType? long = some id) :
    ∃ ty, r.type? id = some ty ∧ SpecializedType r.type? ty ∧ ty.shape.generic = g ∧
      ",".intercalate (ty.info.longId.args.map (·.key)) =
        ",".intercalate (long.args.map (·.key)) := by
  obtain ⟨ty, hty, hkey⟩ := h.lookup hlookup
  have hname := (h.type hty).ofName?
  obtain ⟨hgeneric, hargs⟩ :=
    key_inj (ofName?_eq_some hname).2.1 (ofName?_eq_some hg).2.1 hkey
  refine ⟨ty, hty, h.type hty, ?_, hargs⟩
  rw [hgeneric, hg] at hname
  exact (Option.some.inj hname).symm

theorem word {name : String} {g : GenericType} (hg : GenericType.ofName? name = some g)
    (hword : ∀ shape : Shape, shape.generic = g → shape.isWord = true)
    (hlookup : r.lookupType? { generic := name } = some id) :
    ∃ ty, r.type? id = some ty ∧ ty.shape.isWord = true := by
  obtain ⟨ty, hty, -, hshape, -⟩ := h.of_lookup hg hlookup
  exact ⟨ty, hty, hword _ hshape⟩

theorem felt252 (hlookup : r.lookupType? { generic := "felt252" } = some id) :
    ∃ ty, r.type? id = some ty ∧ ty.shape.isWord = true :=
  h.word rfl (fun shape hshape => by cases shape <;> cases hshape; rfl) hlookup

theorem uint {bits : Nat} (hbits : bits ∈ uintWidths)
    (hlookup : r.lookupType? { generic := uintName bits } = some id) :
    ∃ ty, r.type? id = some ty ∧ ty.shape.isWord = true :=
  h.word (ofName?_uintName hbits) (fun shape hshape => by cases shape <;> cases hshape; rfl) hlookup

theorem gasBuiltin (hlookup : r.lookupType? { generic := "GasBuiltin" } = some id) :
    ∃ ty, r.type? id = some ty ∧ ty.shape.isWord = true :=
  h.word rfl (fun shape hshape => by cases shape <;> cases hshape; rfl) hlookup

theorem nonZero (hlookup : r.lookupType? ⟨"NonZero", [.type inner]⟩ = some id) :
    ∃ ty inner', r.type? id = some ty ∧ ty.shape = .nonZero inner' ∧ inner'.id = inner.id := by
  obtain ⟨ty, hty, hspecialized, hshape, hargs⟩ := h.of_lookup rfl hlookup
  cases hspecialized <;> cases hshape
  rename_i hargs' _ _
  simp only [hargs', List.map_cons, List.map_nil, String.intercalate_singleton] at hargs
  exact ⟨_, _, hty, rfl, id_of_key_eq hargs⟩

theorem box (hlookup : r.lookupType? ⟨"Box", [.type inner]⟩ = some id) :
    ∃ ty inner', r.type? id = some ty ∧ ty.shape = .box inner' ∧ inner'.id = inner.id := by
  obtain ⟨ty, hty, hspecialized, hshape, hargs⟩ := h.of_lookup rfl hlookup
  cases hspecialized <;> cases hshape
  rename_i hargs' _ _
  simp only [hargs', List.map_cons, List.map_nil, String.intercalate_singleton] at hargs
  exact ⟨_, _, hty, rfl, id_of_key_eq hargs⟩

theorem const_isNumber {ty : ConcreteType} {v : Int} (hty : r.type? id = some ty)
    (hshape : ty.shape = .const inner v) :
    ∃ ty', r.type? inner = some ty' ∧ ty'.shape.isNumber = true := by
  have hspecialized := h.type hty
  cases hspecialized <;> cases hshape
  rename_i hnumber hinner
  exact ⟨_, hinner, hnumber⟩

theorem const {ty : ConcreteType} {v : Int} (hty : r.type? id = some ty)
    (hshape : ty.shape = .const inner v) :
    ∃ ty', r.type? inner = some ty' ∧ ty'.shape.isWord = true := by
  obtain ⟨ty', hinner, hnumber⟩ := h.const_isNumber hty hshape
  exact ⟨ty', hinner, Shape.isWord_of_isNumber hnumber⟩

end TypesValid

end Registry

end SierraCasm
