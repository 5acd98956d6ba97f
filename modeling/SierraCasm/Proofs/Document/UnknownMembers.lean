import SierraCasm.Proofs.Document.Reloaded

/-! # Unknown members

What one more member does to a document that is loaded as a program.  The shape of a program does
not see a member whose key is not known.  Its reader takes keys without regard to case, so it does
not see the member either unless the key is a known one up to case. -/

namespace SierraCasm.Document

open Schema (Shape Field)

/-! ### Loading -/

/-- The reader of a program looks at the members with a key. -/
def IsRead (fields : List Field) (key : String) : Prop :=
  (Schema.field? fields key).isSome = true ∧ key ∉ Schema.headKeys

theorem field?_of_not_isRead {fields : List Field} (hfields : ∀ f ∈ fields, f.1 ∉ Schema.headKeys)
    {key : String} (h : ¬ IsRead fields key) : Schema.field? fields key = none := by
  cases hfield : Schema.field? fields key with
  | none => rfl
  | some shape =>
    obtain ⟨needed, hmem⟩ := Schema.mem_of_field? hfield
    exact absurd ⟨by rw [hfield]; rfl, hfields _ hmem⟩ h

theorem field?_documentFields {key : String} (h : key ∉ Schema.headKeys) :
    Schema.field? Schema.documentFields key = Schema.field? Schema.programFields key := by
  simp only [Schema.headKeys, List.mem_cons, List.not_mem_nil, or_false, not_or] at h
  rw [Schema.field?, Schema.documentFields, List.lookup_cons, List.lookup_cons,
    beq_eq_false_iff_ne.mpr h.1, beq_eq_false_iff_ne.mpr h.2]
  rfl

section loading

variable {key : String} {v : Json} {j j' : Json} {a : Artifact} {inner : List Field} {seen : Bool}

/-- A member of the document itself, or one further inside. -/
theorem Inserts.program_cases (h : Inserts key v Schema.program j j' inner seen) :
    (inner = Schema.documentFields ∧ seen = true ∧
      Inserts key v (.record Schema.programFields) j j' Schema.programFields true) ∨
    Inserts key v (.record Schema.programFields) j j' inner seen ∧
      ∀ f ∈ inner, f.1 ∉ Schema.headKeys := by
  rw [Schema.program] at h
  cases h with
  | here => exact .inl ⟨rfl, rfl, .here⟩
  | @member _ _ shape k j j' before after text text' _ hfield hinserts =>
    right
    by_cases hhead : Json.content k ∈ Schema.headKeys
    · exfalso
      simp only [Schema.headKeys, List.mem_cons, List.not_mem_nil, or_false] at hhead
      rcases hhead with hk | hk <;> rw [hk] at hfield <;> cases hfield <;> cases hinserts
    · rw [field?_documentFields hhead] at hfield
      have hprogram : Inserts key v (.record Schema.programFields)
          (.obj text (before ++ (k, j) :: after)) (.obj text' (before ++ (k, j') :: after))
          inner seen := .member hfield hinserts
      exact ⟨hprogram, fun f hf => (hprogram.keys Schema.inner_programFields f hf).2⟩

theorem Inserts.kept_program (h : Inserts key v Schema.program j j' inner seen)
    (hread : ¬ (seen = true ∧ IsRead inner (foldKey (Json.content key)))) :
    j.kept (.record Schema.programFields) = j'.kept (.record Schema.programFields) := by
  have hplain := Schema.inner_programFields.mono (Q := Text.Plain) fun _ => And.left
  rcases h.program_cases with ⟨rfl, rfl, hprogram⟩ | ⟨hprogram, hinner⟩
  · have hfields : ∀ f ∈ Schema.programFields, f.1 ∉ Schema.headKeys :=
      fun f hf => (hprogram.keys Schema.inner_programFields f hf).2
    refine hprogram.kept_eq hplain (.inl (field?_of_not_isRead hfields fun hkey => ?_))
    exact hread ⟨rfl, by rw [IsRead, field?_documentFields hkey.2]; exact hkey⟩
  · refine hprogram.kept_eq hplain ?_
    cases seen with
    | false => exact .inr rfl
    | true => exact .inl (field?_of_not_isRead hinner fun hkey => hread ⟨rfl, hkey⟩)

variable {c : Checker} (hc : c.Lawful)
include hc

/-- A member whose key is not known changes nothing for the checker. -/
theorem Inserts.checked_alike (h : Inserts key v Schema.program j j' inner seen)
    (hkey : Schema.field? inner (Json.content key) = none) (hagrees : c.agrees [j] = true)
    (hagrees' : c.agrees [j'] = true) :
    c.conforms Schema.program [j'] = c.conforms Schema.program [j] ∧
      c.conforms Schema.envelope [j'] = c.conforms Schema.envelope [j] ∧
      c.version? j' = c.version? j := by
  have hprogram := h.indifferent hc Schema.plain_program hkey [] [] hagrees hagrees'
  have hversion : c.values "version" [j'] = c.values "version" [j] := by
    have hkeyword : Text.isKeyword "version" = true := by decide
    rw [Schema.program] at h
    cases h with
    | here =>
      have hne : Json.content key ≠ "version" :=
        (Schema.notMem_of_field? hkey _ List.mem_cons_self).symm
      simp only [Checker.values_cons, Checker.valuesIn_append, Checker.valuesIn_cons,
        hc.label_eq_field hkeyword, if_neg hne]
    | @member _ _ shape k j j' before after text text' _ hfield hinserts =>
      have hne : Json.content k ≠ "version" := by
        intro hk
        rw [hk] at hfield
        cases hfield
        cases hinserts
      simp only [Checker.values_cons, Checker.valuesIn_append, Checker.valuesIn_cons,
        hc.label_eq_field hkeyword, if_neg hne]
  have hobject : ∀ {j : Json}, (∃ text members, j = .obj text members) → c.agrees [j] = true →
      c.conforms Schema.envelope [j] =
        [Schema.required "version" (.scalar .integerOrText)].all (c.holds [j]) := by
    rintro j ⟨text, members, rfl⟩ hagrees
    exact hc.record hagrees ⟨_, _, List.mem_singleton_self _⟩
  refine ⟨hprogram, ?_, by rw [Checker.version?, Checker.version?, hversion]⟩
  obtain ⟨hj, hj'⟩ : (∃ text members, j = .obj text members) ∧
      ∃ text members, j' = .obj text members := by
    rw [Schema.program] at h
    cases h <;> exact ⟨⟨_, _, rfl⟩, _, _, rfl⟩
  rw [hobject hj hagrees, hobject hj' hagrees']
  simp only [List.all_cons, List.all_nil, Checker.holds, hversion]

/-- A member whose key is neither known nor read leaves the program as it is, if the values of the
document still agree. -/
theorem Inserts.loadJson_eq_ok (h : Inserts key v Schema.program j j' inner seen)
    (hload : c.loadJson j = .ok ⟨supportedVersion, some a⟩)
    (hkey : Schema.field? inner (Json.content key) = none)
    (hread : ¬ (seen = true ∧ IsRead inner (foldKey (Json.content key))))
    (hagrees' : c.agrees [j'] = true) :
    ∃ a', c.loadJson j' = .ok ⟨supportedVersion, some a'⟩ ∧ a'.program = a.program := by
  obtain ⟨hagrees, henvelope, hversion, hprogram, hrun⟩ := Checker.loadJson_eq_ok.mp hload
  obtain ⟨hcheck, rfl⟩ := Reader.run_eq_ok.mp hrun
  obtain ⟨hprogram', henvelope', hversion'⟩ := h.checked_alike hc hkey hagrees hagrees'
  have htrees := h.kept_program hread
  have hcheck' : Reader.program.check j' = .ok () := by
    rw [← Reader.sees_program.check j', ← htrees, Reader.sees_program.check j]
    exact hcheck
  have hsame : Reader.program.read [j'] = Reader.program.read [j] := by
    rw [← Reader.sees_program.read [j'], ← Reader.sees_program.read [j], List.map_singleton,
      List.map_singleton, htrees]
  have hrun' := (Reader.run_eq_ok (r := Reader.artifact)).mpr ⟨hcheck', rfl⟩
  exact ⟨_, Checker.loadJson_eq_ok.mpr ⟨hagrees', henvelope'.trans henvelope,
    hversion'.trans hversion, hprogram'.trans hprogram, hrun'⟩, hsame⟩

end loading

/-! ### Members that are read -/

theorem tagged?_concat {text k tag : String} {before : List (String × Json)} {j payload : Json}
    (h : tagged? (.obj text (before ++ [(k, j)])) = some (tag, payload)) :
    tag = Json.content k ∧ payload = j := by
  dsimp only [tagged?] at h
  rw [List.getLast?_concat] at h
  cases hkeys : distinctKeys (before ++ [(k, j)]) with
  | nil =>
    rw [hkeys] at h
    cases h
  | cons first rest =>
    rw [hkeys] at h
    cases rest with
    | cons second rest => cases h
    | nil =>
      cases h
      exact ⟨(content_of_distinctKeys hkeys List.getLast?_concat).symm, rfl⟩

namespace Reader

/-- A check refuses `true`, and whatever has it as a member that is read. -/
structure Refuses (check : Json → Except ReadFault Unit) (shape : Shape) : Prop where
  itself : check (.bool true) ≠ .ok ()
  within : ∀ {key : String} {j j' : Json} {inner : List Field} {seen : Bool},
    Inserts key (.bool true) shape j j' inner seen → seen = true →
    (Schema.field? inner (foldKey (Json.content key))).isSome = true → check j' ≠ .ok ()

theorem Refuses.scalar {check : Json → Except ReadFault Unit} {kind : Schema.Scalar}
    (h : check (.bool true) ≠ .ok ()) : Refuses check (.scalar kind) where
  itself := h
  within := fun hinserts => by cases hinserts

theorem Refuses.list {α : Type} {item : Reader α} {shape : Shape} (h : Refuses item.check shape) :
    Refuses (list item).check (.list shape) where
  itself := by simp [Reader.list]
  within := fun hinserts hseen hkey hok => by
    cases hinserts with
    | item hinserts =>
      exact h.within hinserts hseen hkey ((checkAll_eq_ok _ _).mp hok _ (by simp))

/-- The checks of members refuse what they should. -/
def ChecksRefuse (checks : List (String × (Json → Except ReadFault Unit)))
    (shapes : List (String × Shape)) : Prop :=
  List.Forall₂ (fun m s => m.1 = s.1 ∧ Refuses m.2 s.2) checks shapes

theorem ChecksRefuse.nil : ChecksRefuse [] [] := List.Forall₂.nil

theorem ChecksRefuse.cons {checks : List (String × (Json → Except ReadFault Unit))}
    {shapes : List (String × Shape)} {key : String} {check : Json → Except ReadFault Unit}
    {shape : Shape} (h : Refuses check shape) (hchecks : ChecksRefuse checks shapes) :
    ChecksRefuse ((key, check) :: checks) ((key, shape) :: shapes) :=
  List.Forall₂.cons ⟨rfl, h⟩ hchecks

theorem ChecksRefuse.lookup {checks : List (String × (Json → Except ReadFault Unit))}
    {shapes : List (String × Shape)} (h : ChecksRefuse checks shapes) {key : String}
    {shape : Shape} (hlookup : shapes.lookup key = some shape) :
    ∃ check, checks.lookup key = some check ∧ Refuses check shape := by
  induction h with
  | nil => cases hlookup
  | @cons m s checks shapes hm _ ih =>
    obtain ⟨mkey, check⟩ := m
    obtain ⟨skey, shape'⟩ := s
    obtain ⟨rfl, hrefuses⟩ := hm
    rw [List.lookup_cons] at hlookup ⊢
    cases hkey : key == mkey with
    | true =>
      rw [hkey] at hlookup
      cases hlookup
      exact ⟨check, rfl, hrefuses⟩
    | false =>
      rw [hkey] at hlookup
      exact ih hlookup

/-- The shapes of members by their keys. -/
def shapesOf (fields : List Field) : List (String × Shape) := fields.map fun f => (f.1, f.2.2)

theorem lookup_shapesOf (fields : List Field) (key : String) :
    (shapesOf fields).lookup key = Schema.field? fields key := by
  induction fields with
  | nil => rfl
  | cons f fields ih =>
    rw [shapesOf, List.map_cons, List.lookup_cons, Schema.field?, List.lookup_cons]
    cases key == f.1 with
    | true => rfl
    | false => exact ih

theorem Refuses.record {checks : List (String × (Json → Except ReadFault Unit))}
    {fields : List Field} (h : ChecksRefuse checks (shapesOf fields))
    (hplain : ∀ f ∈ fields, Text.Plain f.1) : Refuses (checkRecord checks) (.record fields) where
  itself := by simp [checkRecord]
  within := fun {key} {j} {j'} {inner} {seen} hinserts hseen hkey hok => by
    cases hinserts with
    | @here _ before after text text' =>
      obtain ⟨shape, hfield⟩ := Option.isSome_iff_exists.mp hkey
      obtain ⟨check, hcheck, hrefuses⟩ := h.lookup ((lookup_shapesOf _ _).trans hfield)
      rw [checkRecord_obj, checkAll_eq_ok] at hok
      have hmember := hok (key, .bool true) (by simp)
      simp only [checkMember, hcheck] at hmember
      exact hrefuses.itself hmember
    | @member _ _ shape k j j' before after text text' _ hfield hinserts =>
      obtain ⟨check, hcheck, hrefuses⟩ := h.lookup ((lookup_shapesOf _ _).trans hfield)
      obtain ⟨needed, hmem⟩ := Schema.mem_of_field? hfield
      rw [checkRecord_obj, checkAll_eq_ok] at hok
      have hmember := hok (k, j') (by simp)
      simp only [checkMember, foldKey_of_plain (hplain _ hmem), hcheck] at hmember
      exact hrefuses.within hinserts hseen hkey hmember

theorem Refuses.forms {value : Tagged} {checks : List (String × (Json → Except ReadFault Unit))}
    {texts : List String} {forms : List (String × Shape)} (h : ChecksRefuse checks forms) :
    Refuses (checkForms value checks) (.oneOf texts forms) where
  itself := by simp [checkForms]
  within := fun {key} {j} {j'} {inner} {seen} hinserts hseen hkey hok => by
    cases hinserts with
    | @form _ _ _ shape k j j' before after text text' seen hlookup hinserts =>
      rw [Bool.and_eq_true, List.isEmpty_iff] at hseen
      obtain ⟨hseen, rfl⟩ := hseen
      obtain ⟨check, hcheck, hrefuses⟩ := h.lookup hlookup
      simp only [checkForms] at hok
      cases htagged : tagged? (.obj text' (before ++ [(k, j')])) with
      | none =>
        rw [htagged] at hok
        cases hok
      | some t =>
        obtain ⟨tag, payload⟩ := t
        obtain ⟨rfl, rfl⟩ := tagged?_concat htagged
        simp only [htagged, hcheck] at hok
        exact hrefuses.within hinserts hseen hkey hok

theorem refuses_number {kind : Schema.Scalar} : Refuses number.check (.scalar kind) :=
  .scalar (by simp [number, Reader.scalar, idOf?])

theorem refuses_index {kind : Schema.Scalar} : Refuses index.check (.scalar kind) :=
  .scalar (by simp [index, Reader.scalar, indexOf?])

theorem refuses_text {kind : Schema.Scalar} : Refuses text.check (.scalar kind) :=
  .scalar (by simp [text, Reader.scalar, textOf?])

theorem refuses_ident : Refuses ident.check Schema.ident := by
  simp only [ident, Schema.ident]
  exact .record (.cons refuses_number (.cons refuses_text .nil)) (by decide)

theorem refuses_var : Refuses var.check Schema.varId := by
  simp only [var, Schema.varId]
  exact .record (.cons refuses_number .nil) (by decide)

theorem refuses_declaration : Refuses declaration.check Schema.declaration := by
  have hinteger : Refuses checkInteger (.scalar .integerOrText) := .scalar (by decide)
  have harg : Refuses arg.check Schema.genericArg := by
    simp only [arg, Schema.genericArg]
    exact .forms (.cons refuses_ident (.cons refuses_ident (.cons hinteger (.cons refuses_ident
      (.cons refuses_ident .nil)))))
  have hlongId : Refuses longId.check Schema.longId := by
    simp only [longId, Schema.longId]
    exact .record (.cons refuses_text (.cons harg.list .nil)) (by decide)
  simp only [declaration, Schema.declaration]
  exact .record (.cons refuses_ident (.cons hlongId .nil)) (by decide)

theorem refuses_target : Refuses target.check Schema.target where
  itself := by simp [target, checkTarget, checkForms]
  within := fun hinserts => by
    rw [Schema.target] at hinserts
    cases hinserts with
    | form hlookup hinserts =>
      rw [List.lookup_cons] at hlookup
      split at hlookup
      · cases hlookup
        cases hinserts
      · cases hlookup

theorem refuses_statement : Refuses statement.check Schema.statement := by
  have hbranch : Refuses branch.check Schema.branch := by
    simp only [branch, Schema.branch]
    exact .record (.cons refuses_target (.cons refuses_var.list .nil)) (by decide)
  have hinvocation : Refuses invocation.check Schema.invocation := by
    simp only [invocation, Schema.invocation]
    exact .record (.cons refuses_ident (.cons refuses_var.list (.cons hbranch.list .nil)))
      (by decide)
  simp only [statement, Schema.statement]
  exact .forms (.cons hinvocation (.cons refuses_var.list .nil))

theorem refuses_function : Refuses function.check Schema.function := by
  have hsignature : Refuses signature.check Schema.signature := by
    simp only [signature, Schema.signature]
    exact .record (.cons refuses_ident.list (.cons refuses_ident.list .nil)) (by decide)
  have hparam : Refuses param.check Schema.param := by
    simp only [param, Schema.param]
    exact .record (.cons refuses_var (.cons refuses_ident .nil)) (by decide)
  simp only [function, Schema.function]
  exact .record (.cons refuses_ident (.cons hsignature (.cons hparam.list
    (.cons refuses_index .nil)))) (by decide)

theorem refuses_program : Refuses program.check (.record Schema.programFields) := by
  simp only [program, Schema.programFields]
  exact .record (.cons refuses_declaration.list (.cons refuses_declaration.list
    (.cons refuses_statement.list (.cons refuses_function.list .nil)))) (by decide)

end Reader

theorem Inserts.loadJson_eq_error {c : Checker} (hc : c.Lawful) {key : String} {j j' : Json}
    {a : Artifact} {inner : List Field}
    (h : Inserts key (.bool true) Schema.program j j' inner true)
    (hload : c.loadJson j = .ok ⟨supportedVersion, some a⟩)
    (hkey : Schema.field? inner (Json.content key) = none)
    (hread : IsRead inner (foldKey (Json.content key))) : ∃ e, c.loadJson j' = .error e := by
  cases hagrees' : c.agrees [j'] with
  | false => exact ⟨_, Checker.loadJson_of_not_agrees hagrees'⟩
  | true =>
    obtain ⟨hagrees, henvelope, hversion, hprogram, -⟩ := Checker.loadJson_eq_ok.mp hload
    obtain ⟨hprogram', henvelope', hversion'⟩ := h.checked_alike hc hkey hagrees hagrees'
    have hcheck : Reader.program.check j' ≠ .ok () := by
      rcases h.program_cases with ⟨rfl, -, hinserts⟩ | ⟨hinserts, -⟩
      · refine Reader.refuses_program.within hinserts rfl ?_
        rw [← field?_documentFields hread.2]
        exact hread.1
      · exact Reader.refuses_program.within hinserts rfl hread.1
    rw [Checker.loadJson_eq hagrees' (henvelope'.trans henvelope) (hversion'.trans hversion),
      hprogram', hprogram]
    cases hrun : Reader.artifact.run j' with
    | ok a' => exact absurd (Reader.run_eq_ok.mp hrun).1 hcheck
    | error e => exact ⟨.read e, rfl⟩

/-! ### The documents -/

/-- One more member in a document that is loaded as a program, with a key that is not known there,
whichever lawful checker parses and checks documents.  The text may be one that the checker does
not parse, which for a text without blanks means that it holds a byte order mark, or the values of
repeated keys may conflict.  Otherwise the program stays the same if no reader looks at members with
that key, without regard to case.  If one does, there is a value that is refused. -/
theorem load_of_inserts {c : Checker} (hc : c.Lawful) {bytes : ByteArray} {text key : String}
    {v j j' : Json} {a : Artifact} {inner : List Field} {seen : Bool}
    (hj : c.parse bytes = .ok j) (hload : c.load bytes = .ok ⟨supportedVersion, some a⟩)
    (hj' : Json.parse? text = some j') (hinserts : Inserts key v Schema.program j j' inner seen)
    (hkey : Schema.field? inner (Json.content key) = none) :
    (c.parses text = false → c.load text.toUTF8 = .error .notJson) ∧
    (text = j'.render → (c.parses text = false ↔ byteOrderMark ∈ text.toList)) ∧
    (c.parses text = true → c.agrees [j'] = false →
      c.isUnambiguous j' = false ∧ c.load text.toUTF8 = .error .conflict) ∧
    (c.parses text = true → c.agrees [j'] = true →
      ¬ (seen = true ∧ IsRead inner (foldKey (Json.content key))) →
      ∃ a', c.load text.toUTF8 = .ok ⟨supportedVersion, some a'⟩ ∧ a'.program = a.program) ∧
    (seen = true → IsRead inner (foldKey (Json.content key)) → v = .bool true →
      ∃ e, c.load text.toUTF8 = .error e) := by
  have hload' : c.parses text = true → c.load text.toUTF8 = c.loadJson j' :=
    fun h => Checker.load_eq (Checker.parse_toUTF8 h hj')
  rw [Checker.load_eq hj] at hload
  refine ⟨Checker.load_of_not_parses, ?_, ?_, ?_, ?_⟩
  · rintro rfl
    have hproper := Json.proper_of_parse? (P := fun _ => True) (fun _ _ => trivial) hj'
    refine ⟨fun h => Decidable.byContradiction fun hmark => ?_, hc.parses_of_isMarked⟩
    rw [hc.compact hproper hmark] at h
    cases h
  · intro hparses hagrees
    rw [hload' hparses]
    refine ⟨Bool.eq_false_iff.mpr fun hclear => ?_, Checker.loadJson_of_not_agrees hagrees⟩
    rw [hc.agrees_of_isUnambiguous j' hclear] at hagrees
    cases hagrees
  · intro hparses hagrees hread
    rw [hload' hparses]
    exact hinserts.loadJson_eq_ok hc hload hkey hread hagrees
  · rintro rfl hread rfl
    cases hparses : c.parses text with
    | false => exact ⟨_, Checker.load_of_not_parses hparses⟩
    | true =>
      rw [hload' hparses]
      exact hinserts.loadJson_eq_error hc hload hkey hread

/-- A document with one function, which has some more members, and so has its identifier. -/
def documentWith (identMembers functionMembers : List (String × Json)) : Json :=
  .object [("version", .int 1), ("statements", .array [.object [("Return", .array [])]]),
    ("funcs", .array [.object (("id", .object (("id", .int 0) :: identMembers)) ::
      ("entry_point", .int 0) :: functionMembers)])]

theorem simple_documentWith {n : Nat} {identMembers functionMembers : List (String × Json)}
    (hkeys : ∀ m ∈ identMembers ++ functionMembers, Text.isKeyword m.1 = true)
    (hident : ∀ m ∈ identMembers, Simple n m.2)
    (hfunction : ∀ m ∈ functionMembers, Simple (n + 1) m.2) :
    Simple (n + 4) (documentWith identMembers functionMembers) := by
  rw [List.forall_mem_append] at hkeys
  have hidKey : Text.isKeyword "id" = true := by decide
  have hfuncsKey : Text.isKeyword "funcs" = true := by decide
  have hid : Simple (n + 1) (.object (("id", .int 0) :: identMembers)) := by
    refine .object ?_ ?_ <;> rw [List.forall_mem_cons]
    · exact ⟨hidKey, hkeys.1⟩
    · exact ⟨.int 0, hident⟩
  have hfuncs : Simple (n + 2) (.object (("id", .object (("id", .int 0) :: identMembers)) ::
      ("entry_point", .int 0) :: functionMembers)) := by
    refine .object ?_ ?_ <;> rw [List.forall_mem_cons, List.forall_mem_cons]
    · exact ⟨hidKey, by decide, hkeys.2⟩
    · exact ⟨hid, .int 0, hfunction⟩
  have hreturn : Simple (n + 2) (.object [("Return", .array [])]) := by
    refine .object ?_ ?_ <;> rw [List.forall_mem_singleton]
    · decide
    · exact .array fun j hj => absurd hj List.not_mem_nil
  refine .object ?_ ?_ <;>
    rw [List.forall_mem_cons, List.forall_mem_cons, List.forall_mem_singleton]
  · exact ⟨by decide, by decide, hfuncsKey⟩
  · refine ⟨.int 1, .array ?_, .array ?_⟩ <;> rw [List.forall_mem_singleton]
    · exact hreturn
    · exact hfuncs

theorem field?_funcs : Schema.field? Schema.documentFields (Json.content "funcs") =
    some (.list Schema.function) := by
  rw [show Json.content "funcs" = "funcs" by decide +kernel]
  rfl

def functionFields : List Field :=
  [Schema.required "id" Schema.ident, Schema.optional "signature" Schema.signature,
    Schema.optional "params" (.list Schema.param),
    Schema.required "entry_point" (.scalar .natural)]

def identFields : List Field :=
  [Schema.required "id" (.scalar .natural), Schema.optional "debug_name" (.scalar .textOrNull)]

theorem inserts_functionMember (key : String) (v : Json) :
    Inserts key v Schema.program (documentWith [] []) (documentWith [] [(key, v)])
      functionFields true :=
  @Inserts.member key v _ _ _ "funcs" _ _ [_, _] [] _ _ _ field?_funcs
    (@Inserts.item key v _ _ _ _ [] [] _ _ _ (@Inserts.here key v _ [_, _] [] _ _))

theorem inserts_identMember (key : String) (v : Json) :
    Inserts key v Schema.program (documentWith [] []) (documentWith [(key, v)] [])
      identFields true := by
  have hid : Schema.field? functionFields (Json.content "id") = some Schema.ident := by
    rw [show Json.content "id" = "id" by decide +kernel]
    rfl
  exact @Inserts.member key v _ _ _ "funcs" _ _ [_, _] [] _ _ _ field?_funcs
    (@Inserts.item key v _ _ _ _ [] [] _ _ _
      (@Inserts.member key v _ _ _ "id" _ _ [] [_] _ _ _ hid
        (@Inserts.here key v _ [_] [] _ _)))

theorem field?_entryPoint :
    Schema.field? functionFields (Json.content "ENTRY_POINT") = none := by
  rw [show Json.content "ENTRY_POINT" = "ENTRY_POINT" by decide +kernel]
  rfl

/-- A document is loaded as a program whose functions start at some entries. -/
theorem exists_load_of_functions {bytes : ByteArray} {j : Json} {entries : List Int}
    (hparse : unification.parse bytes = .ok j) (h : unification.IsLoaded j fun a =>
      a.program.functions.items.map (·.entry) == entries) :
    ∃ a, load bytes = .ok ⟨supportedVersion, some a⟩ ∧
      a.program.functions.items.map (·.entry) = entries := by
  obtain ⟨a, hload, hentries⟩ := Checker.exists_load_of_isLoaded hparse h
  exact ⟨a, hload, beq_iff_eq.mp hentries⟩

theorem parse_documentWith :
    unification.parse (documentWith [] []).render.toUTF8 = .ok (documentWith [] []) :=
  (simple_documentWith (by simp) (by simp) (by simp)).parse_eq lawful_unification

theorem parse_entryPoint {v : Json} (h : Simple (Json.Machine.maxDepth - 3) v) :
    unification.parse (documentWith [] [("ENTRY_POINT", v)]).render.toUTF8 =
      .ok (documentWith [] [("ENTRY_POINT", v)]) := by
  have hkey : Text.isKeyword "ENTRY_POINT" = true := by decide
  have hkeys : ∀ m ∈ [] ++ [("ENTRY_POINT", v)], Text.isKeyword m.1 = true := by
    rw [List.nil_append, List.forall_mem_singleton]
    exact hkey
  exact (simple_documentWith hkeys (by simp) (List.forall_mem_singleton.mpr h)).parse_eq
    lawful_unification

theorem load_documentWith :
    ∃ a, load (documentWith [] []).render.toUTF8 = .ok ⟨supportedVersion, some a⟩ ∧
      a.program.functions.items.map (·.entry) = [0] :=
  exists_load_of_functions parse_documentWith (by decide +kernel)

theorem parses_of_parse {s : String} {j : Json} (h : unification.parse s.toUTF8 = .ok j) :
    unification.parses s = true ∧ Json.parse? s = some j := by
  obtain ⟨s', hs', hparses, hparse⟩ := Checker.parse_eq_ok.mp h
  rw [Checker.fromUTF8?_toUTF8] at hs'
  cases hs'
  exact ⟨hparses, hparse⟩

theorem load_of_inserts_documentWith :
    (∃ a a', load (documentWith [] []).render.toUTF8 = .ok ⟨supportedVersion, some a⟩ ∧
      load (documentWith [("note", .array [.int 1])] []).render.toUTF8 =
        .ok ⟨supportedVersion, some a'⟩ ∧ a'.program = a.program) ∧
    ∃ e, load (documentWith [] [("ENTRY_POINT", .bool true)]).render.toUTF8 = .error e := by
  obtain ⟨a, hload, -⟩ := load_documentWith
  constructor
  · have hnote : ∀ m ∈ [("note", Json.array [.int 1])],
        Simple (Json.Machine.maxDepth - 4) m.2 := by
      rw [List.forall_mem_singleton]
      exact .array (List.forall_mem_singleton.mpr (.int 1))
    have hsimple : Simple Json.Machine.maxDepth (documentWith [("note", .array [.int 1])] []) :=
      simple_documentWith (by decide) hnote (by simp)
    obtain ⟨hparses, hparse⟩ := parses_of_parse (hsimple.parse_eq lawful_unification)
    have hunknown : Schema.field? identFields (Json.content "note") = none := by
      rw [show Json.content "note" = "note" by decide +kernel]
      rfl
    have hunread : ¬ IsRead identFields (foldKey (Json.content "note")) := by
      rw [show foldKey (Json.content "note") = "note" by decide +kernel]
      exact fun h => absurd h.1 (by decide)
    have hagrees : unification.agrees [documentWith [("note", .array [.int 1])] []] = true :=
      lawful_unification.agrees_of_isUnambiguous _ (by decide +kernel)
    obtain ⟨a', hload', hprogram⟩ := (load_of_inserts lawful_unification parse_documentWith hload
      hparse (inserts_identMember _ _) hunknown).2.2.2.1 hparses hagrees fun h => hunread h.2
    exact ⟨a, a', hload, hload', hprogram⟩
  · obtain ⟨-, hparse⟩ := parses_of_parse (parse_entryPoint (.bool true))
    refine (load_of_inserts lawful_unification parse_documentWith hload hparse
      (inserts_functionMember "ENTRY_POINT" (.bool true)) field?_entryPoint).2.2.2.2 rfl
      ⟨?_, ?_⟩ rfl
    · rw [show foldKey (Json.content "ENTRY_POINT") = "entry_point" by decide +kernel]
      rfl
    · decide +kernel

/-- A key that is known up to case only is not seen by the shape, but the last member with it
counts. -/
theorem program_of_caseVariant :
    ∃ inner a a', Inserts "ENTRY_POINT" (.int 1) Schema.program (documentWith [] [])
        (documentWith [] [("ENTRY_POINT", .int 1)]) inner true ∧
      Schema.field? inner (Json.content "ENTRY_POINT") = none ∧
      load (documentWith [] []).render.toUTF8 = .ok ⟨supportedVersion, some a⟩ ∧
      load (documentWith [] [("ENTRY_POINT", .int 1)]).render.toUTF8 =
        .ok ⟨supportedVersion, some a'⟩ ∧ a'.program ≠ a.program := by
  obtain ⟨a, hload, hentries⟩ := load_documentWith
  obtain ⟨a', hload', hentries'⟩ : ∃ a',
      load (documentWith [] [("ENTRY_POINT", .int 1)]).render.toUTF8 =
        .ok ⟨supportedVersion, some a'⟩ ∧ a'.program.functions.items.map (·.entry) = [1] :=
    exists_load_of_functions (parse_entryPoint (.int 1)) (by decide +kernel)
  refine ⟨_, a, a', inserts_functionMember _ _, field?_entryPoint, hload, hload', fun h => ?_⟩
  rw [h, hentries] at hentries'
  exact absurd hentries' (by decide)

end SierraCasm.Document
