import SierraCasm.Document.Write
import SierraCasm.Proofs.Document.Insertion

/-! # Objects with known keys

What an object whose keys are distinct keywords is once it has been written: what lawful checkers
say of it, what its readers see, and whether its text holds a byte order mark.  The order of the
members does not matter. -/

namespace SierraCasm.Document

open Json (Proper)
open Text (isKeyword isKeyword_of_plain)
open Schema (Shape Field)

/-! ### Byte order marks -/

/-- The text of a tree holds a byte order mark. -/
def IsMarked (j : Json) : Prop := byteOrderMark ∈ (j.write true).toList

theorem mark_mem_writeChar {c : Char} :
    byteOrderMark ∈ (Json.writeChar true c).toList ↔ byteOrderMark = c := by
  unfold Json.writeChar
  split
  case isTrue h =>
    subst h
    decide
  split
  case isTrue h =>
    subst h
    decide
  split
  case isTrue h => obtain ⟨-, rfl | rfl | rfl⟩ := h <;> decide
  rw [String.toList_singleton, List.mem_singleton]

theorem mark_mem_writeString {s : String} :
    byteOrderMark ∈ (Json.writeString true s).toList ↔ byteOrderMark ∈ s.toList := by
  have hquote : byteOrderMark ≠ '"' := by decide
  simp [Json.toList_writeString, Json.toList_escaped, mark_mem_writeChar, hquote]

theorem byteOrderMark_ne_hexDigit (n : Nat) : byteOrderMark ≠ Text.hexDigit n := by
  have hdigits : ∀ k : Fin 16, byteOrderMark ≠ Nat.digitChar k.val := by decide
  exact hdigits ⟨n % 16, Nat.mod_lt n (by decide)⟩

theorem mark_mem_spellChar {c : Char} :
    byteOrderMark ∈ (Json.spellChar c).toList ↔ byteOrderMark = c := by
  unfold Json.spellChar
  split
  case h_8 =>
    split
    case isTrue hcontrol =>
      rw [String.toList_append, Json.toList_hex]
      constructor
      · intro hmem
        simp only [List.mem_append, List.mem_cons, List.not_mem_nil, or_false] at hmem
        rcases hmem with hmem | hmem | hmem | hmem | hmem
        · exact absurd hmem (by decide)
        all_goals exact absurd hmem (byteOrderMark_ne_hexDigit _)
      · rintro rfl
        exact absurd hcontrol (by decide)
    case isFalse => rw [String.toList_singleton, List.mem_singleton]
  all_goals decide

theorem mark_mem_writeItems {items : List Json} :
    byteOrderMark ∈ (Json.writeItems true items).toList ↔ ∃ j ∈ items, IsMarked j := by
  have hcomma : byteOrderMark ≠ ',' := by decide
  induction items with
  | nil => simp [Json.writeItems]
  | cons j items ih =>
    cases items with
    | nil => simp [Json.writeItems, IsMarked]
    | cons next items =>
      have hwrite : byteOrderMark ∈ (Json.writeItems true (j :: next :: items)).toList ↔
          IsMarked j ∨ byteOrderMark ∈ (Json.writeItems true (next :: items)).toList := by
        simp [Json.writeItems, IsMarked, hcomma]
      exact hwrite.trans ((or_congr_right ih).trans (List.exists_mem_cons_iff _ _ _).symm)

theorem mark_mem_writeMembers {members : List (String × Json)} :
    byteOrderMark ∈ (Json.writeMembers true members).toList ↔
      ∃ m ∈ members, byteOrderMark ∈ m.1.toList ∨ IsMarked m.2 := by
  have hcomma : byteOrderMark ≠ ',' := by decide
  have hcolon : byteOrderMark ≠ ':' := by decide
  induction members with
  | nil => simp [Json.writeMembers]
  | cons m members ih =>
    obtain ⟨key, j⟩ := m
    cases members with
    | nil => simp [Json.writeMembers, IsMarked, mark_mem_writeString, hcolon]
    | cons next members =>
      have hwrite : byteOrderMark ∈
          (Json.writeMembers true ((key, j) :: next :: members)).toList ↔
            (byteOrderMark ∈ key.toList ∨ IsMarked j) ∨
              byteOrderMark ∈ (Json.writeMembers true (next :: members)).toList := by
        simp [Json.writeMembers, IsMarked, mark_mem_writeString, hcolon, hcomma, or_assoc]
      refine hwrite.trans ((or_congr_right ih).trans (List.exists_mem_cons_iff
        (fun m => byteOrderMark ∈ m.1.toList ∨ IsMarked m.2) (key, j) _).symm)

theorem isMarked_arr {text : String} {items : List Json} :
    IsMarked (.arr text items) ↔ ∃ j ∈ items, IsMarked j := by
  have hopen : byteOrderMark ≠ '[' := by decide
  have hclose : byteOrderMark ≠ ']' := by decide
  rw [← mark_mem_writeItems]
  simp [IsMarked, Json.write, hopen, hclose]

theorem isMarked_obj {text : String} {members : List (String × Json)} :
    IsMarked (.obj text members) ↔
      ∃ m ∈ members, byteOrderMark ∈ m.1.toList ∨ IsMarked m.2 := by
  have hopen : byteOrderMark ≠ '\x7b' := by decide
  have hclose : byteOrderMark ≠ '\x7d' := by decide
  rw [← mark_mem_writeMembers]
  simp [IsMarked, Json.write, hopen, hclose]

theorem isMarked_str {s : String} : IsMarked (.str s) ↔ byteOrderMark ∈ s.toList :=
  mark_mem_writeString

theorem isMarked_string {s : String} : IsMarked (.string s) ↔ byteOrderMark ∈ s.toList := by
  rw [Json.string, isMarked_str, Json.toList_spell, List.mem_flatMap]
  simp [mark_mem_spellChar]

theorem not_isMarked_num {s : String} (h : Json.isNumber s.toList = true) : ¬ IsMarked (.num s) :=
  fun hmark => absurd (Json.isNumberChar_of_isNumber h _ hmark) (by decide)

theorem not_isMarked_of_proper {n : Nat} {j : Json} (h : Proper (· ≠ byteOrderMark) n j) :
    ¬ IsMarked j := by
  induction h with
  | null => exact (by decide : ¬ byteOrderMark ∈ "null".toList)
  | @bool _ b =>
    cases b with
    | false => exact (by decide : ¬ byteOrderMark ∈ "false".toList)
    | true => exact (by decide : ¬ byteOrderMark ∈ "true".toList)
  | num h => exact not_isMarked_num h
  | str h =>
    rw [isMarked_str]
    exact fun hmark => h.2 _ hmark rfl
  | arr _ ih =>
    rw [isMarked_arr]
    rintro ⟨j, hj, hmark⟩
    exact ih j hj hmark
  | obj hkeys _ ih =>
    rw [isMarked_obj]
    rintro ⟨m, hm, hmark | hmark⟩
    · exact (hkeys m hm).2 _ hmark rfl
    · exact ih m hm hmark

/-! ### Shapes -/

/-- Distinct keywords. -/
def AreKeys (keys : List String) : Prop := (∀ key ∈ keys, Text.Plain key) ∧ keys.Nodup

instance (keys : List String) : Decidable (AreKeys keys) :=
  inferInstanceAs (Decidable ((∀ key ∈ keys, Text.Plain key) ∧ keys.Nodup))

theorem AreKeys.perm {keys keys' : List String} (h : AreKeys keys) (hperm : keys'.Perm keys) :
    AreKeys keys' :=
  ⟨fun key hkey => h.1 key (hperm.mem_iff.mp hkey), hperm.nodup_iff.mpr h.2⟩

theorem filter_eq_singleton {members : List (String × Json)} {key : String} {j : Json}
    (hnodup : (members.map Prod.fst).Nodup) (hmem : (key, j) ∈ members) :
    (members.filter fun m => m.1 == key) = [(key, j)] := by
  induction members with
  | nil => cases hmem
  | cons m members ih =>
    rw [List.map_cons, List.nodup_cons] at hnodup
    rcases List.mem_cons.mp hmem with rfl | hmem
    · have hnone : (members.filter fun m => m.1 == key) = [] := by
        rw [List.filter_eq_nil_iff]
        exact fun m hm hkey => hnodup.1 (List.mem_map.mpr ⟨m, hm, beq_iff_eq.mp hkey⟩)
      rw [List.filter_cons_of_pos (by simp), hnone]
    · have hne : m.1 ≠ key := by
        rintro rfl
        exact hnodup.1 (List.mem_map.mpr ⟨_, hmem, rfl⟩)
      rw [List.filter_cons_of_neg (by simpa using hne), ih hnodup.2 hmem]

theorem filter_eq_nil {members : List (String × Json)} {key : String}
    (h : key ∉ members.map Prod.fst) : (members.filter fun m => m.1 == key) = [] := by
  rw [List.filter_eq_nil_iff]
  exact fun m hm hkey => h (List.mem_map.mpr ⟨m, hm, beq_iff_eq.mp hkey⟩)

/-- Every lawful checker takes a tree for a value, and says whether it has a shape. -/
structure Shapes (shape : Shape) (j : Json) (b : Bool) : Prop where
  agrees : ∀ {c : Checker}, c.Lawful → c.agrees [j] = true
  conforms : ∀ {c : Checker}, c.Lawful → c.conforms shape [j] = b

/-- What a checker says of the members of an object. -/
structure Holds (c : Checker) (members : List (String × Json)) (given : Given) : Prop where
  present : ∀ {key : String} {needed : Bool} {shape : Shape} {j : Json} {b : Bool},
    (key, j) ∈ members → c.conforms shape [j] = b → c.holds given (key, needed, shape) = b
  absent : ∀ {key : String} {needed : Bool} {shape : Shape}, key ∉ members.map Prod.fst →
    c.holds given (key, needed, shape) = !needed

section checkers

variable {c : Checker} (hc : c.Lawful) {members : List (String × Json)}
include hc

theorem Checker.Lawful.label_of_isKeyword {key : String} (h : isKeyword key = true) :
    c.label (Json.content key) = .field key := by
  rw [content_of_isKeyword h, hc.label_eq_field h]

theorem Checker.Lawful.values_object (hkeys : AreKeys (members.map Prod.fst)) (key text : String) :
    c.values key [.obj text members] = (members.filter fun m => m.1 == key).map (·.2) := by
  have hsame : ∀ m ∈ members,
      decide (c.label (Json.content m.1) = .field key) = (m.1 == key) := by
    intro m hm
    rw [hc.label_of_isKeyword (isKeyword_of_plain (hkeys.1 m.1 (List.mem_map_of_mem hm)))]
    simp [Label.field, beq_eq_decide]
  rw [Checker.values_cons, Checker.valuesIn, List.filter_congr hsame]
  simp [Checker.values, Given.labelled]

theorem Checker.Lawful.agrees_object (hkeys : AreKeys (members.map Prod.fst))
    (h : ∀ m ∈ members, c.agrees [m.2] = true) (text : String) :
    c.agrees [.obj text members] = true := by
  have hkeywords : ∀ m ∈ members, isKeyword m.1 = true :=
    fun m hm => isKeyword_of_plain (hkeys.1 m.1 (List.mem_map_of_mem hm))
  refine hc.agrees_obj (fun m hm => ⟨?_, h m hm⟩) ?_
  · rw [content?_of_isKeyword (hkeywords m hm)]
    rfl
  · rw [List.map_congr_left fun m hm => hc.label_of_isKeyword (hkeywords m hm)]
    have hmap : members.map (fun m => Label.field m.1) = (members.map Prod.fst).map .field := by
      rw [List.map_map]
      rfl
    rw [hmap]
    exact hkeys.2.map fun a b hab => congrArg Label.text hab

theorem Checker.Lawful.holds_object (hkeys : AreKeys (members.map Prod.fst)) (text : String) :
    Holds c members [.obj text members] where
  present := by
    intro key needed shape j b hmem hj
    rw [Checker.holds, hc.values_object hkeys, filter_eq_singleton hkeys.2 hmem]
    exact hj
  absent := by
    intro key needed shape hkey
    rw [Checker.holds, hc.values_object hkeys, filter_eq_nil hkey]
    rfl

theorem Checker.Lawful.conforms_object (hkeys : AreKeys (members.map Prod.fst))
    (h : ∀ m ∈ members, c.agrees [m.2] = true) {fields : List Field} {b : Bool}
    (hfields : ∀ given, Holds c members given → fields.all (c.holds given) = b) (text : String) :
    c.conforms (.record fields) [.obj text members] = b := by
  rw [hc.record (hc.agrees_object hkeys h text) ⟨text, members, List.mem_singleton_self _⟩]
  exact hfields _ (hc.holds_object hkeys text)

end checkers

theorem shapes_record {members : List (String × Json)} {fields : List Field} {b : Bool}
    (hkeys : AreKeys (members.map Prod.fst))
    (h : ∀ m ∈ members, ∀ {c : Checker}, c.Lawful → c.agrees [m.2] = true)
    (hfields : ∀ {c : Checker}, c.Lawful → ∀ given, Holds c members given →
      fields.all (c.holds given) = b) (text : String) :
    Shapes (.record fields) (.obj text members) b where
  agrees := fun hc => hc.agrees_object hkeys (fun m hm => h m hm hc) text
  conforms := fun hc => hc.conforms_object hkeys (fun m hm => h m hm hc) (hfields hc) text

theorem shapes_tagged {tag : String} (htag : isKeyword tag = true) {texts : List String}
    {forms : List (String × Shape)} (hnodup : (forms.map Prod.fst).Nodup) {shape : Shape}
    (hform : forms.lookup tag = some shape) {j : Json} {b : Bool} (h : Shapes shape j b) : Shapes (.oneOf texts forms) (tagged tag j) b where
  agrees := fun {c} hc => by
    refine hc.agrees_obj ?_ (List.nodup_singleton _)
    rw [List.forall_mem_singleton, content?_of_isKeyword htag]
    exact ⟨rfl, h.agrees hc⟩
  conforms := fun {c} hc => by
    have hany : (forms.any fun f => f.1 == tag && c.conforms f.2 [j]) = b := by
      rw [← h.conforms hc, Bool.eq_iff_iff, List.any_eq_true]
      constructor
      · rintro ⟨f, hf, hholds⟩
        obtain ⟨hkey, hvalue⟩ := Bool.and_eq_true_iff.mp hholds
        rwa [List.inj_on_of_nodup_map hnodup hf (mem_of_lookup hform) (beq_iff_eq.mp hkey)]
          at hvalue
      · intro hvalue
        exact ⟨_, mem_of_lookup hform, by rw [beq_self_eq_true, Bool.true_and, hvalue]⟩
    rw [← hany]
    exact hc.oneOf_obj htag (h.agrees hc)

/-! ### What readers see -/

section readers

variable {members : List (String × Json)} {key : String} {j : Json}

theorem rendered_object (h : ∀ m ∈ members, isKeyword m.1 = true) :
    (Json.object members).rendered true =
      .obj (Json.object members).render (members.map fun m => (m.1, m.2.rendered true)) := by
  have hmembers : Json.renderedMembers true members =
      members.map fun m => (m.1, m.2.rendered true) := by
    rw [Json.renderedMembers_eq_map]
    exact List.map_congr_left fun m hm => by rw [escaped_of_isKeyword (h m hm)]
  rw [Json.object, Json.rendered, hmembers]
  rfl

/-- Values are given for the members of an object and for nothing else. -/
structure Gives (members : List (String × Json)) (given : Given) : Prop where
  present : ∀ {key : String} {j : Json}, (key, j) ∈ members →
    given.member key = [j.rendered true]
  absent : ∀ {key : String}, key ∉ members.map Prod.fst → given.member key = []

theorem named_rendered (hkeys : ∀ m ∈ members, Text.Plain m.1) (key : String) :
    named key (members.map fun m => (m.1, m.2.rendered true)) =
      (members.filter fun m => m.1 == key).map fun m => m.2.rendered true := by
  have hsame : ∀ m ∈ members, (foldKey (Json.content m.1) == key) = (m.1 == key) := by
    intro m hm
    rw [content_of_isKeyword (isKeyword_of_plain (hkeys m hm)), foldKey_of_plain (hkeys m hm)]
  rw [named, List.filter_map, List.map_map]
  exact congrArg (List.map _) (List.filter_congr hsame)

variable (hkeys : AreKeys (members.map Prod.fst))
include hkeys

theorem plain_of_areKeys : ∀ m ∈ members, Text.Plain m.1 :=
  fun m hm => hkeys.1 m.1 (List.mem_map_of_mem hm)

theorem rendered_record : (Json.object members).rendered true =
    .obj (Json.object members).render (members.map fun m => (m.1, m.2.rendered true)) :=
  rendered_object fun m hm => isKeyword_of_plain (plain_of_areKeys hkeys m hm)

theorem gives_rendered : Gives members [(Json.object members).rendered true] := by
  have hmember : ∀ key, Given.member [(Json.object members).rendered true] key =
      (members.filter fun m => m.1 == key).map fun m => m.2.rendered true := by
    intro key
    rw [rendered_record hkeys]
    show named key _ ++ [] = _
    rw [named_rendered (plain_of_areKeys hkeys), List.append_nil]
  constructor
  · intro key j hmem
    rw [hmember, filter_eq_singleton hkeys.2 hmem]
    rfl
  · intro key hkey
    rw [hmember, filter_eq_nil hkey]
    rfl

theorem checkRecord_rendered {fields : List (String × (Json → Except ReadFault Unit))}
    (h : ∀ m ∈ members, ∀ check, fields.lookup m.1 = some check →
      check (m.2.rendered true) = .ok ()) :
    Reader.checkRecord fields ((Json.object members).rendered true) = .ok () := by
  rw [rendered_record hkeys, Reader.checkRecord_obj, checkAll_eq_ok]
  intro m' hm'
  obtain ⟨m, hm, rfl⟩ := List.mem_map.mp hm'
  have hplain := plain_of_areKeys hkeys m hm
  rw [Reader.checkMember, content_of_isKeyword (isKeyword_of_plain hplain), foldKey_of_plain hplain]
  cases hlookup : fields.lookup m.1 with
  | none => rfl
  | some check => exact h m hm check hlookup

end readers

/-! ### Values in one of several forms -/

section forms

variable {tag : String} (htag : isKeyword tag = true) (j : Json)
include htag

theorem tagged?_rendered :
    tagged? ((tagged tag j).rendered true) = some (tag, j.rendered true) := by
  have hkeys : ∀ m ∈ [(tag, j)], isKeyword m.1 = true := by simpa using htag
  have htags : distinctKeys [(tag, j.rendered true)] = [tag] := by
    rw [distinctKeys, List.map_cons, content_of_isKeyword htag]
    rfl
  rw [tagged, rendered_object hkeys, List.map_cons, tagged?, List.map_nil, htags]
  rfl

theorem form?_rendered :
    Given.form? [(tagged tag j).rendered true] = some (tag, j.rendered true) :=
  tagged?_rendered htag j

theorem payloads_rendered :
    Given.payloads [(tagged tag j).rendered true] tag = [j.rendered true] := by
  simp [Given.payloads, tagged?_rendered htag]

theorem checkForms_rendered (value : Tagged)
    {forms : List (String × (Json → Except ReadFault Unit))} {check : Json → Except ReadFault Unit}
    (h : forms.lookup tag = some check) :
    Reader.checkForms value forms ((tagged tag j).rendered true) = check (j.rendered true) := by
  have hkeys : ∀ m ∈ [(tag, j)], isKeyword m.1 = true := by simpa using htag
  have htagged := tagged?_rendered htag j
  rw [tagged, rendered_object hkeys] at htagged ⊢
  rw [Reader.checkForms, htagged]
  simp only [h]

end forms

end SierraCasm.Document
