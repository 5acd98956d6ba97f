import Mathlib.Data.List.Nodup
import SierraCasm.Proofs.Document.Lawful
import SierraCasm.Proofs.Document.Views

/-! # Inserting a member

One more member in an open object of a document, at any depth and in any place (`Inserts`).
Readers keep nothing of the member if its key is not known without regard to case
(`Inserts.kept_eq`), and a lawful checker gives the same answers if the key is not known exactly
(`Inserts.indifferent`): the known keys spell themselves, so both agree on the way to it. -/

namespace SierraCasm.Document

open Schema (Shape Field)

/-! ### Keys of shapes -/

namespace Schema

/-- All keys of records have some property, those of forms are keywords, and the keys of each
record or form are distinct. -/
inductive KeysAre (P : String → Prop) : Shape → Prop
  | any : KeysAre P .any
  | scalar {kind : Scalar} : KeysAre P (.scalar kind)
  | list {item : Shape} : KeysAre P item → KeysAre P (.list item)
  | record {fields : List Field} : (∀ f ∈ fields, P f.1) → (fields.map Prod.fst).Nodup →
      (∀ f ∈ fields, KeysAre P f.2.2) → KeysAre P (.record fields)
  | oneOf {texts : List String} {forms : List (String × Shape)} :
      (∀ f ∈ forms, Text.isKeyword f.1 = true) → (forms.map Prod.fst).Nodup →
      (∀ f ∈ forms, KeysAre P f.2) → KeysAre P (.oneOf texts forms)

theorem mem_of_field? {fields : List Field} {key : String} {shape : Shape}
    (h : field? fields key = some shape) : ∃ needed, (key, needed, shape) ∈ fields := by
  obtain ⟨f, hf, rfl⟩ := Option.map_eq_some_iff.mp h
  exact ⟨f.1, mem_of_lookup hf⟩

theorem notMem_of_field? {fields : List Field} {key : String} (h : field? fields key = none) :
    ∀ f ∈ fields, f.1 ≠ key := by
  rintro f hf rfl
  rw [field?, Option.map_eq_none_iff, List.lookup_eq_none_iff] at h
  simpa using h f hf

theorem eq_of_field? {fields : List Field} (hnodup : (fields.map Prod.fst).Nodup) {shape : Shape}
    {f : Field} (hf : f ∈ fields) (h : field? fields f.1 = some shape) : f.2.2 = shape := by
  obtain ⟨needed, hmem⟩ := mem_of_field? h
  rw [List.inj_on_of_nodup_map hnodup hf hmem rfl]

theorem KeysAre.of_field? {P : String → Prop} {fields : List Field} {key : String} {shape : Shape}
    (h : KeysAre P (.record fields)) (hfield : field? fields key = some shape) :
    P key ∧ KeysAre P shape := by
  obtain ⟨needed, hmem⟩ := mem_of_field? hfield
  cases h with
  | record hkeys _ hfields => exact ⟨hkeys _ hmem, hfields _ hmem⟩

theorem KeysAre.of_lookup {P : String → Prop} {texts : List String}
    {forms : List (String × Shape)} {tag : String} {shape : Shape}
    (h : KeysAre P (.oneOf texts forms)) (hform : forms.lookup tag = some shape) :
    KeysAre P shape := by
  cases h with
  | oneOf _ _ hforms => exact hforms _ (mem_of_lookup hform)

theorem KeysAre.mono {P Q : String → Prop} (hPQ : ∀ key, P key → Q key) {shape : Shape}
    (h : KeysAre P shape) : KeysAre Q shape := by
  induction h with
  | any => exact .any
  | scalar => exact .scalar
  | list _ ih => exact .list ih
  | record hkeys hnodup _ ih => exact .record (fun f hf => hPQ _ (hkeys f hf)) hnodup ih
  | oneOf hkeys hnodup _ ih => exact .oneOf hkeys hnodup ih

theorem KeysAre.fields {P : String → Prop} {fields : List Field} (hkeys : ∀ f ∈ fields, P f.1)
    (hnodup : (fields.map Prod.fst).Nodup) (hfields : fields.Forall fun f => KeysAre P f.2.2) :
    KeysAre P (.record fields) :=
  .record hkeys hnodup (List.forall_iff_forall_mem.mp hfields)

theorem KeysAre.forms {P : String → Prop} {texts : List String} {forms : List (String × Shape)}
    (hkeys : ∀ f ∈ forms, Text.isKeyword f.1 = true) (hnodup : (forms.map Prod.fst).Nodup)
    (hforms : forms.Forall fun f => KeysAre P f.2) : KeysAre P (.oneOf texts forms) :=
  .oneOf hkeys hnodup (List.forall_iff_forall_mem.mp hforms)

/-- The members of a document that are not read into its program. -/
def headKeys : List String := ["version", "debug_info"]

/-- A key of a record inside a document. -/
def Inner (key : String) : Prop := Text.Plain key ∧ key ∉ headKeys

instance (key : String) : Decidable (Inner key) := inferInstanceAs (Decidable (_ ∧ _))

theorem inner_ident : KeysAre Inner ident := .fields (by decide) (by decide) ⟨.scalar, .scalar⟩

theorem inner_varId : KeysAre Inner varId := .fields (by decide) (by decide) .scalar

theorem inner_declaration : KeysAre Inner declaration := by
  have harg : KeysAre Inner genericArg := .forms (by decide) (by decide)
    ⟨inner_ident, inner_ident, .scalar, inner_ident, inner_ident⟩
  have hlongId : KeysAre Inner longId := .fields (by decide) (by decide) ⟨.scalar, .list harg⟩
  exact .fields (by decide) (by decide) ⟨inner_ident, hlongId⟩

theorem inner_statement : KeysAre Inner statement := by
  have htarget : KeysAre Inner target := .forms (by decide) (by decide) .scalar
  have hbranch : KeysAre Inner branch :=
    .fields (by decide) (by decide) ⟨htarget, .list inner_varId⟩
  have hinvocation : KeysAre Inner invocation :=
    .fields (by decide) (by decide) ⟨inner_ident, .list inner_varId, .list hbranch⟩
  exact .forms (by decide) (by decide) ⟨hinvocation, .list inner_varId⟩

theorem inner_function : KeysAre Inner function := by
  have hsignature : KeysAre Inner signature :=
    .fields (by decide) (by decide) ⟨.list inner_ident, .list inner_ident⟩
  have hparam : KeysAre Inner param := .fields (by decide) (by decide) ⟨inner_varId, inner_ident⟩
  exact .fields (by decide) (by decide) ⟨inner_ident, hsignature, .list hparam, .scalar⟩

theorem inner_programFields : KeysAre Inner (.record programFields) :=
  .fields (by decide) (by decide) ⟨.list inner_declaration, .list inner_declaration,
    .list inner_statement, .list inner_function⟩

theorem plain_program : KeysAre Text.Plain program := by
  cases inner_programFields.mono fun _ => And.left with
  | record _ _ hfields =>
    refine .record (by decide) (by decide) ?_
    simp only [documentFields, List.forall_mem_cons]
    exact ⟨.scalar, .any, hfields⟩

end Schema

theorem foldChar_of_isPlain {c : Char} (h : Text.isPlain c.toNat = true) : foldChar c = c := by
  unfold foldChar
  split
  · cases h
  · cases h
  · simp only [Text.isPlain, Bool.or_eq_true, Bool.and_eq_true, decide_eq_true_eq] at h
    have hlower : ¬ (c.val ≥ 'A'.val ∧ c.val ≤ 'Z'.val) := by
      rintro ⟨-, hle⟩
      have hlast : c.toNat ≤ 'Z'.toNat := UInt32.le_iff_toNat_le.mp hle
      have hfirst : 'Z'.toNat = 90 := rfl
      omega
    exact dif_neg hlower

theorem foldKey_of_plain {key : String} (h : Text.Plain key) : foldKey key = key := by
  have hmap : key.toList.map foldChar = key.toList := by
    rw [List.map_congr_left fun c hc => foldChar_of_isPlain (h c hc), List.map_id']
  rw [foldKey, hmap, String.ofList_toList]

/-! ### Inserting a member -/

/-- A tree has one more member in an open object, of which the schema names some members.  The
member is `seen` by a reader unless a later payload stands for that in which it is. -/
inductive Inserts (key : String) (v : Json) : Shape → Json → Json → List Field → Bool → Prop
  | here {fields : List Field} {before after : List (String × Json)} {text text' : String} :
      Inserts key v (.record fields) (.obj text (before ++ after))
        (.obj text' (before ++ (key, v) :: after)) fields true
  | member {fields inner : List Field} {shape : Shape} {k : String} {j j' : Json}
      {before after : List (String × Json)} {text text' : String} {seen : Bool} :
      Schema.field? fields (Json.content k) = some shape →
      Inserts key v shape j j' inner seen →
      Inserts key v (.record fields) (.obj text (before ++ (k, j) :: after))
        (.obj text' (before ++ (k, j') :: after)) inner seen
  | form {texts : List String} {forms : List (String × Shape)} {inner : List Field} {shape : Shape}
      {k : String} {j j' : Json} {before after : List (String × Json)} {text text' : String}
      {seen : Bool} :
      forms.lookup (Json.content k) = some shape → Inserts key v shape j j' inner seen →
      Inserts key v (.oneOf texts forms) (.obj text (before ++ (k, j) :: after))
        (.obj text' (before ++ (k, j') :: after)) inner (seen && after.isEmpty)
  | item {inner : List Field} {shape : Shape} {j j' : Json} {before after : List Json}
      {text text' : String} {seen : Bool} : Inserts key v shape j j' inner seen →
      Inserts key v (.list shape) (.arr text (before ++ j :: after))
        (.arr text' (before ++ j' :: after)) inner seen

theorem Inserts.keys {P : String → Prop} {key : String} {v : Json} {shape : Shape} {j j' : Json}
    {inner : List Field} {seen : Bool} (h : Inserts key v shape j j' inner seen)
    (hshape : Schema.KeysAre P shape) : ∀ f ∈ inner, P f.1 := by
  induction h with
  | here =>
    cases hshape with
    | record hkeys => exact hkeys
  | member hfield _ ih => exact ih (hshape.of_field? hfield).2
  | form hform _ ih => exact ih (hshape.of_lookup hform)
  | item _ ih =>
    cases hshape with
    | list hshape => exact ih hshape

/-! ### Readers -/

theorem keptMembers_append {fields : List Field} (before after : List (String × Json)) :
    Json.keptMembers fields (before ++ after) =
      Json.keptMembers fields before ++ Json.keptMembers fields after := by
  induction before with
  | nil => simp [Json.keptMembers]
  | cons m before ih =>
    obtain ⟨key, j⟩ := m
    rw [List.cons_append]
    cases hfield : Schema.field? fields (foldKey (Json.content key)) with
    | none => rw [Json.keptMembers_cons_none hfield, Json.keptMembers_cons_none hfield, ih]
    | some shape =>
      rw [Json.keptMembers_cons_some hfield, Json.keptMembers_cons_some hfield, ih,
        List.cons_append]

theorem keptForms_append {forms : List (String × Shape)} {before after after' : List (String × Json)}
    (hempty : after.isEmpty = after'.isEmpty)
    (h : Json.keptForms forms after = Json.keptForms forms after') :
    Json.keptForms forms (before ++ after) = Json.keptForms forms (before ++ after') := by
  induction before with
  | nil => exact h
  | cons m before ih =>
    obtain ⟨key, j⟩ := m
    have hrest : (before ++ after).isEmpty = (before ++ after').isEmpty := by
      cases before with
      | nil => exact hempty
      | cons m before => rfl
    rw [List.cons_append, List.cons_append, Json.keptForms, Json.keptForms, ih, hrest]

/-- Nothing is kept of a member that is not known or not seen. -/
theorem Inserts.kept_eq {key : String} {v : Json} {shape : Shape} {j j' : Json}
    {inner : List Field} {seen : Bool} (h : Inserts key v shape j j' inner seen)
    (hshape : Schema.KeysAre Text.Plain shape)
    (hkey : Schema.field? inner (foldKey (Json.content key)) = none ∨ seen = false) :
    j.kept shape = j'.kept shape := by
  induction h with
  | @here fields before after text text' =>
    rcases hkey with hkey | hseen
    · rw [Json.kept, Json.kept, keptMembers_append, keptMembers_append,
        Json.keptMembers_cons_none hkey]
    · cases hseen
  | @member fields inner shape k j j' before after text text' seen hfield hinserts ih =>
    obtain ⟨hplain, hshape⟩ := hshape.of_field? hfield
    rw [← foldKey_of_plain hplain] at hfield
    rw [Json.kept, Json.kept, keptMembers_append, keptMembers_append,
      Json.keptMembers_cons_some hfield, Json.keptMembers_cons_some hfield, ih hshape hkey]
  | @form texts forms inner shape k j j' before after text text' seen hform hinserts ih =>
    rw [Json.kept, Json.kept]
    congr 1
    refine keptForms_append (by rfl) ?_
    rw [Json.keptForms, Json.keptForms, hform, Option.getD_some]
    cases hlast : after.isEmpty with
    | false => rfl
    | true =>
      rw [hlast, Bool.and_true] at hkey
      rw [ih (hshape.of_lookup hform) hkey]
  | @item inner shape j j' before after text text' seen hinserts ih =>
    cases hshape with
    | list hshape =>
      rw [Json.kept, Json.kept, Json.keptItems_eq_map, Json.keptItems_eq_map, List.map_append,
        List.map_append, List.map_cons, List.map_cons, ih hshape hkey]

/-! ### Checkers -/

section checkers

variable {c : Checker} (hc : c.Lawful)
include hc

/-- The values given for a member when one of them is another: in one place if the member is that
of the value, and the same as before otherwise. -/
theorem Checker.Lawful.values_member {key k : String} {j j' : Json}
    {before after : List (String × Json)} {text text' : String} {xs ys : Given}
    (hkey : Text.isKeyword key = true) :
    (Json.content k = key ∧ ∃ us vs,
      c.values key (xs ++ .obj text (before ++ (k, j) :: after) :: ys) = us ++ j :: vs ∧
      c.values key (xs ++ .obj text' (before ++ (k, j') :: after) :: ys) = us ++ j' :: vs) ∨
    Json.content k ≠ key ∧ c.values key (xs ++ .obj text' (before ++ (k, j') :: after) :: ys) =
      c.values key (xs ++ .obj text (before ++ (k, j) :: after) :: ys) := by
  simp only [Checker.values_append, Checker.values_cons, Checker.valuesIn_append,
    Checker.valuesIn_cons, hc.label_eq_field hkey]
  by_cases hk : Json.content k = key
  · refine .inl ⟨hk, c.values key xs ++ c.valuesIn key before,
      c.valuesIn key after ++ c.values key ys, ?_, ?_⟩ <;> simp [hk]
  · exact .inr ⟨hk, by simp [hk]⟩

/-- Values that agree have a shape or not, whichever of two values is one of them. -/
def Checker.Indifferent (c : Checker) (shape : Shape) (j j' : Json) : Prop :=
  ∀ xs ys, c.agrees (xs ++ j :: ys) = true → c.agrees (xs ++ j' :: ys) = true →
    c.conforms shape (xs ++ j' :: ys) = c.conforms shape (xs ++ j :: ys)

theorem Checker.Lawful.conforms_values {key k : String} {shape : Shape} {j j' : Json}
    {before after : List (String × Json)} {text text' : String} {xs ys : Given}
    (hkey : Text.isKeyword key = true)
    (hagrees : c.agrees (xs ++ .obj text (before ++ (k, j) :: after) :: ys) = true)
    (hagrees' : c.agrees (xs ++ .obj text' (before ++ (k, j') :: after) :: ys) = true)
    (hj : Json.content k = key → c.Indifferent shape j j') :
    c.conforms shape (c.values key (xs ++ .obj text' (before ++ (k, j') :: after) :: ys)) =
      c.conforms shape (c.values key (xs ++ .obj text (before ++ (k, j) :: after) :: ys)) ∧
    (c.values key (xs ++ .obj text' (before ++ (k, j') :: after) :: ys)).isEmpty =
      (c.values key (xs ++ .obj text (before ++ (k, j) :: after) :: ys)).isEmpty := by
  rcases hc.values_member hkey with ⟨hk, us, vs, hvalues, hvalues'⟩ | ⟨-, hvalues⟩
  · have hvalue := hc.agrees_values hagrees (ne_of_eq_of_ne hvalues (by simp))
    have hvalue' := hc.agrees_values hagrees' (ne_of_eq_of_ne hvalues' (by simp))
    rw [hvalues] at hvalue ⊢
    rw [hvalues'] at hvalue' ⊢
    exact ⟨hj hk us vs hvalue hvalue', by cases us <;> rfl⟩
  · rw [hvalues]
    exact ⟨rfl, rfl⟩

theorem Checker.Lawful.indifferent_member {fields : List Field} {shape : Shape} {k : String}
    {j j' : Json} {before after : List (String × Json)} {text text' : String}
    (hkeys : ∀ f ∈ fields, Text.Plain f.1) (hnodup : (fields.map Prod.fst).Nodup)
    (hfield : Schema.field? fields (Json.content k) = some shape) (hj : c.Indifferent shape j j') :
    c.Indifferent (.record fields) (.obj text (before ++ (k, j) :: after))
      (.obj text' (before ++ (k, j') :: after)) := by
  intro xs ys hagrees hagrees'
  rw [hc.record hagrees ⟨_, _, List.mem_append_cons_self⟩, hc.record hagrees' ⟨_, _, List.mem_append_cons_self⟩]
  rw [Bool.eq_iff_iff, List.all_eq_true, List.all_eq_true]
  refine forall₂_congr fun f hf => ?_
  have hindifferent : Json.content k = f.1 → c.Indifferent f.2.2 j j' := by
    intro hk
    rw [Schema.eq_of_field? hnodup hf (hk ▸ hfield)]
    exact hj
  obtain ⟨hconforms, hempty⟩ := hc.conforms_values
    (Text.isKeyword_of_plain (hkeys f hf)) hagrees hagrees' hindifferent
  rw [Checker.holds, Checker.holds, hconforms, hempty]

/-- A member with a key that is not known changes no values of members that are. -/
theorem Checker.Lawful.indifferent_here {fields : List Field} {key : String} {v : Json}
    {before after : List (String × Json)} {text text' : String}
    (hkeys : ∀ f ∈ fields, Text.Plain f.1)
    (hkey : Schema.field? fields (Json.content key) = none) :
    c.Indifferent (.record fields) (.obj text (before ++ after))
      (.obj text' (before ++ (key, v) :: after)) := by
  intro xs ys hagrees hagrees'
  rw [hc.record hagrees ⟨_, _, List.mem_append_cons_self⟩, hc.record hagrees' ⟨_, _, List.mem_append_cons_self⟩]
  rw [Bool.eq_iff_iff, List.all_eq_true, List.all_eq_true]
  refine forall₂_congr fun f hf => ?_
  have hne : c.label (Json.content key) ≠ .field f.1 := by
    rw [Ne, hc.label_eq_field (Text.isKeyword_of_plain (hkeys f hf))]
    exact (Schema.notMem_of_field? hkey f hf).symm
  have hvalues : c.values f.1 (xs ++ .obj text' (before ++ (key, v) :: after) :: ys) =
      c.values f.1 (xs ++ .obj text (before ++ after) :: ys) := by
    simp only [Checker.values_append, Checker.values_cons, Checker.valuesIn_append,
      Checker.valuesIn_cons, if_neg hne]
  rw [Checker.holds, Checker.holds, hvalues]

theorem Checker.Lawful.indifferent_form {texts : List String} {forms : List (String × Shape)}
    {shape : Shape} {k : String} {j j' : Json} {before after : List (String × Json)}
    {text text' : String} (hkeys : ∀ f ∈ forms, Text.isKeyword f.1 = true)
    (hnodup : (forms.map Prod.fst).Nodup) (hform : forms.lookup (Json.content k) = some shape)
    (hj : c.Indifferent shape j j') :
    c.Indifferent (.oneOf texts forms) (.obj text (before ++ (k, j) :: after))
      (.obj text' (before ++ (k, j') :: after)) := by
  intro xs ys hagrees hagrees'
  refine hc.oneOf_congr hagrees hagrees' ⟨_, _, List.mem_append_cons_self⟩ (by simp [keys?]) fun f hf _ => ?_
  refine (hc.conforms_values (hkeys f hf) hagrees hagrees' fun hk => ?_).1
  rw [show f = (Json.content k, shape) from
    List.inj_on_of_nodup_map hnodup hf (mem_of_lookup hform) hk.symm]
  exact hj

theorem Checker.Lawful.indifferent_item {shape : Shape} {j j' : Json} {before after : List Json}
    {text text' : String} (hj : c.Indifferent shape j j') :
    c.Indifferent (.list shape) (.arr text (before ++ j :: after))
      (.arr text' (before ++ j' :: after)) := by
  intro xs ys hagrees hagrees'
  rw [Bool.eq_iff_iff, hc.list hagrees ⟨_, _, List.mem_append_cons_self⟩, hc.list hagrees' ⟨_, _, List.mem_append_cons_self⟩]
  have hitem : ∀ (items : List Json) (text : String) i,
      Given.item (xs ++ .arr text items :: ys) i =
        Given.item xs i ++ items[i]?.toList ++ Given.item ys i := by
    intro items text i
    simp only [Given.item, List.filterMap_append, List.filterMap_cons]
    cases items[i]? <;> simp
  refine forall_congr' fun i => ?_
  by_cases hi : i = before.length
  · subst hi
    have hplace : ∀ (j : Json) (text : String),
        Given.item (xs ++ .arr text (before ++ j :: after) :: ys) before.length =
          Given.item xs before.length ++ j :: Given.item ys before.length := by
      intro j text
      rw [hitem]
      simp
    have hagree := hc.agrees_item hagrees (ne_of_eq_of_ne (hplace _ _) (by simp))
    have hagree' := hc.agrees_item hagrees' (ne_of_eq_of_ne (hplace _ _) (by simp))
    rw [hplace] at hagree hagree'
    rw [hplace, hplace, hj _ _ hagree hagree']
    simp
  · have hother : (before ++ j' :: after)[i]? = (before ++ j :: after)[i]? := by
      rcases Nat.lt_or_gt_of_ne hi with hlt | hgt
      · rw [List.getElem?_append_left hlt, List.getElem?_append_left hlt]
      · obtain ⟨n, rfl⟩ := Nat.exists_eq_add_of_lt hgt
        rw [List.getElem?_append_right (by omega), List.getElem?_append_right (by omega),
          show before.length + n + 1 - before.length = n + 1 by omega]
        rfl
    rw [hitem, hitem, hother]

/-- One more member whose key is not known changes no shape. -/
theorem Inserts.indifferent {key : String} {v : Json} {shape : Shape} {j j' : Json}
    {inner : List Field} {seen : Bool} (h : Inserts key v shape j j' inner seen)
    (hshape : Schema.KeysAre Text.Plain shape)
    (hkey : Schema.field? inner (Json.content key) = none) : c.Indifferent shape j j' := by
  induction h with
  | here =>
    cases hshape with
    | record hkeys => exact hc.indifferent_here hkeys hkey
  | member hfield _ ih =>
    have hmember := (hshape.of_field? hfield).2
    cases hshape with
    | record hkeys hnodup => exact hc.indifferent_member hkeys hnodup hfield (ih hmember hkey)
  | form hform _ ih =>
    have hpayload := hshape.of_lookup hform
    cases hshape with
    | oneOf hkeys hnodup => exact hc.indifferent_form hkeys hnodup hform (ih hpayload hkey)
  | item _ ih =>
    cases hshape with
    | list hshape => exact hc.indifferent_item (ih hshape hkey)

end checkers

end SierraCasm.Document
