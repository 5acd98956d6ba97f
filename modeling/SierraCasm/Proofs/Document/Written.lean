import SierraCasm.Proofs.Document.Objects
import SierraCasm.Proofs.Json.Numbers

/-! # Written records

What the JSON form of a record is when it is loaded again.  It is read back as the record it was
written from.  It has the shape that is asked for only if no list is absent and no index negative
(`isComplete`), and it can be parsed only if none of its names holds a byte order mark. -/

namespace SierraCasm.Document

open Json (Proper)
open Text (isKeyword isKeyword_of_plain isLetterCode_of_mem)
open Schema (Shape Field)

/-! ### Names -/

/-- One of some names holds a byte order mark. -/
def HoldsMark (names : List String) : Prop := ∃ s ∈ names, byteOrderMark ∈ s.toList

instance (names : List String) : Decidable (HoldsMark names) :=
  inferInstanceAs (Decidable (∃ s ∈ names, byteOrderMark ∈ s.toList))

@[simp] theorem holdsMark_nil : HoldsMark [] ↔ False := by simp [HoldsMark]

@[simp] theorem holdsMark_cons {s : String} {names : List String} :
    HoldsMark (s :: names) ↔ byteOrderMark ∈ s.toList ∨ HoldsMark names := by
  simp [HoldsMark]

@[simp] theorem holdsMark_append {names more : List String} :
    HoldsMark (names ++ more) ↔ HoldsMark names ∨ HoldsMark more := by
  simp [HoldsMark, or_and_right, exists_or]

@[simp] theorem holdsMark_flatMap {α : Type} {f : α → List String} {items : List α} :
    HoldsMark (items.flatMap f) ↔ ∃ a ∈ items, HoldsMark (f a) := by
  simp only [HoldsMark, List.mem_flatMap]
  constructor
  · rintro ⟨s, ⟨a, ha, hs⟩, hmark⟩
    exact ⟨a, ha, s, hs, hmark⟩
  · rintro ⟨a, ha, s, hs, hmark⟩
    exact ⟨s, ⟨a, ha, hs⟩, hmark⟩

theorem holdsMark_map {α : Type} {f : α → String} {items : List α} :
    HoldsMark (items.map f) ↔ ∃ a ∈ items, HoldsMark [f a] := by
  simp [HoldsMark]

/-! ### Formats -/

variable {α β : Type}

/-- How records of one kind are stored and loaded: the shape of their JSON form and how deep it is
nested, their reader, and which of them are complete and what names they hold. -/
structure Format (α : Type) where
  shape : Shape
  reader : Reader α
  depth : Nat
  isComplete : α → Bool
  names : α → List String

/-- A tree is the JSON form of a record: written and parsed again, it is read as that record, and
it has the right shape if the record is complete. -/
structure Format.Writes (f : Format α) (a : α) (j : Json) : Prop where
  proper : Proper (fun _ => True) f.depth j
  shapes : Shapes f.shape j (f.isComplete a)
  check : f.reader.check (j.rendered true) = .ok ()
  read : f.reader.read [j.rendered true] = a
  marked : IsMarked j ↔ HoldsMark (f.names a)

/-- All records that can be read have a JSON form. -/
def Format.Stores (f : Format α) (write : α → Except WriteFault Json) : Prop :=
  ∀ given, ∃ j, write (f.reader.read given) = .ok j ∧ f.Writes (f.reader.read given) j

theorem Format.Stores.writes {f : Format α} {write : α → Json}
    (h : f.Stores fun a => .ok (write a)) (given : Given) :
    f.Writes (f.reader.read given) (write (f.reader.read given)) := by
  obtain ⟨j, hj, hwrites⟩ := h given
  rw [Except.ok.inj hj]
  exact hwrites

/-! ### Scalars -/

def Format.number : Format UInt64 := ⟨.scalar .natural, Reader.number, 0, fun _ => true, fun _ => []⟩

def Format.index : Format Int :=
  ⟨.scalar .natural, Reader.index, 0, fun i => decide (0 ≤ i), fun _ => []⟩

def Format.text : Format String := ⟨.scalar .text, Reader.text, 0, fun _ => true, fun s => [s]⟩

theorem proper_int {P : Char → Prop} {n : Nat} (i : Int) : Proper P n (.int i) :=
  .num (Json.isNumber_toString i)

theorem not_isMarked_int (i : Int) : ¬ IsMarked (.int i) :=
  not_isMarked_num (Json.isNumber_toString i)

theorem shapes_int {kind : Schema.Scalar} {i : Int} {b : Bool} (h : kind.accepts (.int i) = b) :
    Shapes (.scalar kind) (.int i) b :=
  ⟨fun hc => hc.agrees_int i, fun hc => (hc.scalar_int kind i).trans h⟩

theorem accepts_natural (i : Int) : Schema.Scalar.natural.accepts (.int i) = decide (0 ≤ i) := by
  rw [Json.int, Schema.Scalar.accepts, intOfString?_toString]
  rfl

theorem run_scalar (value? : Json → Option α) (zero : α) {a : α} {j : Json} (hj : j ≠ .null)
    (h : value? j = some a) :
    (Reader.scalar value? zero).check j = .ok () ∧ (Reader.scalar value? zero).read [j] = a := by
  have hrequire : require (value? j).isSome ReadFault.wrongType = .ok () := by
    rw [h]
    rfl
  have hvalue : (value? j).getD zero = a := by
    rw [h]
    rfl
  cases j with
  | null => exact absurd rfl hj
  | _ => exact ⟨hrequire, hvalue⟩

theorem writes_number (n : UInt64) : Format.number.Writes n (.int n.toNat) := by
  have hid : Reader.idOf? (.int n.toNat) = some n := by
    have hsize : n.toNat < UInt64.size := n.toNat_lt
    have hchars : Text.natOfChars? (toString (n.toNat : Int)).toList = some n.toNat :=
      natOfChars?_toString n.toNat
    rw [Json.int, Reader.idOf?, hchars]
    exact (if_pos hsize).trans (congrArg some UInt64.ofNat_toNat)
  obtain ⟨hcheck, hread⟩ := run_scalar Reader.idOf? 0 (by simp [Json.int]) hid
  have hnatural : (0 : Int) ≤ n.toNat := Int.natCast_nonneg _
  refine ⟨proper_int _, shapes_int ((accepts_natural _).trans (decide_eq_true hnatural)), hcheck,
    hread, ?_⟩
  · simpa [Format.number] using not_isMarked_int _

/-- An index is a signed 64-bit number. -/
def InRange (i : Int) : Prop := Int64.minValue.toInt ≤ i ∧ i ≤ Int64.maxValue.toInt

theorem inRange_index (given : Given) : InRange (Reader.index.read given) := by
  have hfold : ∀ i, InRange i →
      InRange (given.foldl (fun i j => (Reader.indexOf? j).getD i) i) := by
    induction given with
    | nil => exact fun i hi => hi
    | cons j given ih =>
      intro i hi
      refine ih _ ?_
      show InRange ((Reader.indexOf? j).getD i)
      cases hj : Reader.indexOf? j with
      | none => exact hi
      | some k =>
        cases j with
        | num spelling =>
          obtain ⟨n, -, hn⟩ := Option.bind_eq_some_iff.mp hj
          split at hn
          case isTrue hrange =>
            cases hn
            exact hrange
          case isFalse => cases hn
        | _ => cases hj
  exact hfold 0 ⟨by decide, by decide⟩

theorem writes_index {i : Int} (hi : InRange i) : Format.index.Writes i (.int i) := by
  have hindex : Reader.indexOf? (.int i) = some i := by
    have hchars : Text.intOfChars? (toString i).toList = some i := intOfString?_toString i
    rw [Json.int, Reader.indexOf?, hchars]
    exact if_pos hi
  obtain ⟨hcheck, hread⟩ := run_scalar Reader.indexOf? 0 (by simp [Json.int]) hindex
  refine ⟨proper_int _, shapes_int (accepts_natural i), hcheck, hread, ?_⟩
  simpa [Format.index] using not_isMarked_int i

theorem isSome_content?_spell (s : String) : (Json.content? (Json.spell s)).isSome = true := by
  rw [Json.content?_spell]
  rfl

theorem shapes_string {kind : Schema.Scalar} {s : String} {b : Bool}
    (h : kind.accepts (.string s) = b) : Shapes (.scalar kind) (.string s) b :=
  ⟨fun hc => hc.agrees_str (isSome_content?_spell s),
    fun hc => (hc.scalar_str kind (isSome_content?_spell s)).trans h⟩

theorem writes_text (s : String) : Format.text.Writes s (.string s) := by
  have hcontent : Reader.textOf? ((Json.string s).rendered true) = some s := by
    rw [Json.string, Json.rendered, Reader.textOf?,
      Json.content_escaped (Json.isSpelling_spell s), Json.content_spell]
  obtain ⟨hcheck, hread⟩ :=
    run_scalar Reader.textOf? "" (by simp [Json.string, Json.rendered]) hcontent
  refine ⟨.str ⟨Json.isSpelling_spell s, fun _ _ => trivial⟩, shapes_string rfl, hcheck, hread, ?_⟩
  simpa [Format.text] using isMarked_string

/-! ### Lists -/

/-- A list is there, and its elements pass a test. -/
def Listing.isWhole (test : α → Bool) (l : Listing α) : Bool := l.any fun items => items.all test

def Format.list (f : Format α) : Format (Listing α) where
  shape := .list f.shape
  reader := Reader.list f.reader
  depth := f.depth + 1
  isComplete := Listing.isWhole f.isComplete
  names := fun l => l.items.flatMap f.names

theorem Places.give_nil (js : List Json) : give [] js = js.map fun j => [j] := by
  induction js with
  | nil => rfl
  | cons j js ih => rw [give, ih, List.map_cons]

theorem read_arr (r : Reader α) (text : String) (items : List Json) :
    (Reader.list r).read [.arr text items] = some (items.map fun j => r.read [j]) := by
  have hplaces : Places.ofGiven [.arr text items] =
      some ⟨items.map fun j => [j], items.length⟩ := by
    cases items with
    | nil => rfl
    | cons j items => exact congrArg some (congrArg (Places.mk · _) (Places.give_nil (j :: items)))
  rw [Reader.list]
  simp only [hplaces, Option.map_some, Places.current]
  rw [List.take_of_length_le (by simp), List.map_map]
  rfl

theorem writes_null (f : Format α) : f.list.Writes none .null := by
  refine ⟨.null, ⟨fun hc => hc.agrees_null, fun hc => hc.list_null _⟩, rfl, rfl, ?_⟩
  have hnull : ¬ IsMarked .null := (by decide : ¬ byteOrderMark ∈ "null".toList)
  exact iff_of_false hnull (by simp [Format.list, Listing.items])

section arrays

variable {f : Format α} {items : List α} {js : List Json}

theorem exists_of_mem_forms (h : List.Forall₂ f.Writes items js) :
    ∀ j ∈ js, ∃ a ∈ items, f.Writes a j := by
  induction h with
  | nil => exact fun _ hj => absurd hj List.not_mem_nil
  | cons hj _ ih =>
    rw [List.forall_mem_cons]
    refine ⟨⟨_, List.mem_cons_self, hj⟩, fun j hmem => ?_⟩
    obtain ⟨a, ha, hwrites⟩ := ih j hmem
    exact ⟨a, List.mem_cons_of_mem _ ha, hwrites⟩

theorem exists_of_mem_records (h : List.Forall₂ f.Writes items js) :
    ∀ a ∈ items, ∃ j ∈ js, f.Writes a j := by
  induction h with
  | nil => exact fun _ ha => absurd ha List.not_mem_nil
  | cons hj _ ih =>
    rw [List.forall_mem_cons]
    refine ⟨⟨_, List.mem_cons_self, hj⟩, fun a hmem => ?_⟩
    obtain ⟨j, hj, hwrites⟩ := ih a hmem
    exact ⟨j, List.mem_cons_of_mem _ hj, hwrites⟩

theorem shapes_array (h : List.Forall₂ f.Writes items js) (text : String) :
    Shapes (.list f.shape) (.arr text js) (items.all f.isComplete) := by
  have hagrees : ∀ {c : Checker}, c.Lawful → c.agrees [.arr text js] = true := by
    intro c hc
    refine hc.agrees_arr fun j hj => ?_
    obtain ⟨a, -, hwrites⟩ := exists_of_mem_forms h j hj
    exact hwrites.shapes.agrees hc
  have hitem : ∀ i, Given.item [.arr text js] i = js[i]?.toList := by
    intro i
    cases hj : js[i]? <;> simp [Given.item, hj]
  refine ⟨hagrees, fun {c} hc => ?_⟩
  rw [Bool.eq_iff_iff, hc.list (hagrees hc) ⟨text, js, List.mem_singleton_self _⟩,
    List.all_eq_true]
  constructor
  · intro hall a ha
    obtain ⟨j, hj, hwrites⟩ := exists_of_mem_records h a ha
    obtain ⟨i, hi⟩ := List.mem_iff_getElem?.mp hj
    have hconforms := hall i
    rw [hitem, hi, Option.toList_some, hwrites.shapes.conforms hc] at hconforms
    exact hconforms (List.cons_ne_nil j [])
  · intro hall i hne
    rw [hitem] at hne ⊢
    cases hi : js[i]? with
    | none =>
      rw [hi] at hne
      exact absurd rfl hne
    | some j =>
      obtain ⟨a, ha, hwrites⟩ := exists_of_mem_forms h j (List.mem_iff_getElem?.mpr ⟨i, hi⟩)
      rw [Option.toList_some, hwrites.shapes.conforms hc]
      exact hall a ha

theorem map_read (h : List.Forall₂ f.Writes items js) :
    (js.map (Json.rendered true)).map (fun j => f.reader.read [j]) = items := by
  induction h with
  | nil => rfl
  | cons hj _ ih => rw [List.map_cons, List.map_cons, ih, hj.read]

theorem writes_array (h : List.Forall₂ f.Writes items js) :
    f.list.Writes (some items) (.array js) := by
  have hforms := exists_of_mem_forms h
  refine ⟨.arr fun j hj => ?_, shapes_array h _, ?_, ?_, ?_⟩
  · obtain ⟨a, -, hwrites⟩ := hforms j hj
    exact hwrites.proper
  · rw [Json.array, Json.rendered, Json.renderedItems_eq_map]
    refine (checkAll_eq_ok _ _).mpr fun j' hj' => ?_
    obtain ⟨j, hj, rfl⟩ := List.mem_map.mp hj'
    obtain ⟨a, -, hwrites⟩ := hforms j hj
    exact hwrites.check
  · rw [Json.array, Json.rendered, Json.renderedItems_eq_map]
    exact (read_arr f.reader _ _).trans (congrArg some (map_read h))
  · rw [Json.array, isMarked_arr]
    show _ ↔ HoldsMark (items.flatMap f.names)
    rw [holdsMark_flatMap]
    constructor
    · rintro ⟨j, hj, hmark⟩
      obtain ⟨a, ha, hwrites⟩ := hforms j hj
      exact ⟨a, ha, hwrites.marked.mp hmark⟩
    · rintro ⟨a, ha, hmark⟩
      obtain ⟨j, hj, hwrites⟩ := exists_of_mem_records h a ha
      exact ⟨j, hj, hwrites.marked.mpr hmark⟩

end arrays

theorem exists_read_of_mem (r : Reader α) (given : Given) :
    ∀ a ∈ Listing.items ((Reader.list r).read given), ∃ g, r.read g = a := by
  intro a ha
  simp only [Reader.list] at ha
  cases hplaces : Places.ofGiven given with
  | none => simp [hplaces, Listing.items] at ha
  | some places =>
    rw [hplaces] at ha
    obtain ⟨g, -, hg⟩ := List.mem_map.mp ha
    exact ⟨g, hg⟩

theorem exists_mapM_writes {f : Format α} {write : α → Except WriteFault Json} {items : List α}
    (h : ∀ a ∈ items, ∃ j, write a = .ok j ∧ f.Writes a j) :
    ∃ js, items.mapM write = .ok js ∧ List.Forall₂ f.Writes items js := by
  induction items with
  | nil => exact ⟨[], rfl, .nil⟩
  | cons a items ih =>
    rw [List.forall_mem_cons] at h
    obtain ⟨j, hj, hwrites⟩ := h.1
    obtain ⟨js, hjs, hforms⟩ := ih h.2
    refine ⟨j :: js, ?_, .cons hwrites hforms⟩
    rw [List.mapM_cons, hj, hjs]
    rfl

theorem exists_tryWriteListing {f : Format α} {write : α → Except WriteFault Json} {l : Listing α}
    (h : ∀ a ∈ l.items, ∃ j, write a = .ok j ∧ f.Writes a j) :
    ∃ j, tryWriteListing write l = .ok j ∧ f.list.Writes l j := by
  cases l with
  | none => exact ⟨.null, rfl, writes_null f⟩
  | some items =>
    have hitems : ∀ a ∈ items, ∃ j, write a = .ok j ∧ f.Writes a j := h
    obtain ⟨js, hjs, hforms⟩ := exists_mapM_writes hitems
    exact ⟨.array js, by rw [tryWriteListing, hjs]; rfl, writes_array hforms⟩

theorem writes_listing {f : Format α} {write : α → Json} {l : Listing α}
    (h : ∀ a ∈ l.items, f.Writes a (write a)) : f.list.Writes l (writeListing write l) := by
  cases l with
  | none => exact writes_null f
  | some items =>
    refine writes_array ?_
    rw [List.forall₂_map_right_iff, List.forall₂_same]
    exact h

theorem Format.Stores.list {f : Format α} {write : α → Except WriteFault Json}
    (h : f.Stores write) : f.list.Stores (tryWriteListing write) := by
  intro given
  refine exists_tryWriteListing fun a ha => ?_
  obtain ⟨g, rfl⟩ := exists_read_of_mem f.reader given a ha
  exact h g

theorem Format.Stores.listing {f : Format α} {write : α → Json}
    (h : f.Stores fun a => .ok (write a)) : f.list.Stores fun l => .ok (writeListing write l) := by
  intro given
  refine ⟨_, rfl, writes_listing fun a ha => ?_⟩
  obtain ⟨g, rfl⟩ := exists_read_of_mem f.reader given a ha
  exact h.writes g

/-! ### Objects -/

/-- What a member of a record has to be. -/
structure Fits (n : Nat) (fields : List (String × (Json → Except ReadFault Unit)))
    (m : String × Json) : Prop where
  proper : Proper (fun _ => True) n m.2
  agrees : ∀ {c : Checker}, c.Lawful → c.agrees [m.2] = true
  check : ∀ check, fields.lookup m.1 = some check → check (m.2.rendered true) = .ok ()

theorem Format.Writes.fits {f : Format α} {a : α} {j : Json} (h : f.Writes a j) {n : Nat}
    (hdepth : f.depth ≤ n) {fields : List (String × (Json → Except ReadFault Unit))} {key : String}
    (hkey : fields.lookup key = some f.reader.check) : Fits n fields (key, j) where
  proper := h.proper.mono (fun _ hc => hc) hdepth
  agrees := h.shapes.agrees
  check := by
    intro check hcheck
    obtain rfl := Option.some.inj (hkey.symm.trans hcheck)
    exact h.check

theorem isMarked_object {members : List (String × Json)} (h : ∀ m ∈ members, isKeyword m.1 = true) :
    IsMarked (.object members) ↔ ∃ m ∈ members, IsMarked m.2 := by
  rw [Json.object, isMarked_obj]
  constructor
  · rintro ⟨m, hm, hmark | hmark⟩
    · exact absurd (isLetterCode_of_mem (h m hm) _ hmark) (by decide)
    · exact ⟨m, hm, hmark⟩
  · rintro ⟨m, hm, hmark⟩
    exact ⟨m, hm, .inr hmark⟩

theorem proper_object {members : List (String × Json)} (h : ∀ m ∈ members, isKeyword m.1 = true)
    {n : Nat} (hmembers : ∀ m ∈ members, Proper (fun _ => True) n m.2) :
    Proper (fun _ => True) (n + 1) (.object members) :=
  .obj (fun m hm => ⟨isSpelling_of_isKeyword (h m hm), fun _ _ => trivial⟩) hmembers

theorem writes_object {f : Format α} {a : α} {members : List (String × Json)} {keys : List String}
    {n : Nat} {fields : List Field} {checks : List (String × (Json → Except ReadFault Unit))}
    (hcheck : f.reader.check = Reader.checkRecord checks) (hdepth : f.depth = n + 1)
    (hshape : f.shape = .record fields) (hmembers : members.map Prod.fst = keys)
    (hkeys : AreKeys keys) (hfits : ∀ m ∈ members, Fits n checks m)
    (hfields : ∀ {c : Checker}, c.Lawful → ∀ given, Holds c members given →
      fields.all (c.holds given) = f.isComplete a)
    (hread : ∀ given, Gives members given → f.reader.read given = a)
    (hmarked : (∃ m ∈ members, IsMarked m.2) ↔ HoldsMark (f.names a)) :
    f.Writes a (.object members) := by
  subst hmembers
  have hkeywords : ∀ m ∈ members, isKeyword m.1 = true :=
    fun m hm => isKeyword_of_plain (plain_of_areKeys hkeys m hm)
  refine ⟨?_, ?_, ?_, hread _ (gives_rendered hkeys), (isMarked_object hkeywords).trans hmarked⟩
  · rw [hdepth]
    exact proper_object hkeywords fun m hm => (hfits m hm).proper
  · rw [hshape]
    exact shapes_record hkeys (fun m hm => (hfits m hm).agrees) hfields _
  · rw [hcheck]
    exact checkRecord_rendered hkeys fun m hm => (hfits m hm).check

theorem writes_tagged {f : Format α} {g : Format β} {a : α} {b : β} {j : Json} (h : g.Writes b j)
    {tag : String} (htag : isKeyword tag = true) {value : Tagged}
    {texts : List String} {forms : List (String × Shape)}
    {checks : List (String × (Json → Except ReadFault Unit))}
    (hdepth : g.depth + 1 ≤ f.depth) (hshape : f.shape = .oneOf texts forms)
    (hnodup : (forms.map Prod.fst).Nodup)
    (hcheck : ∀ text members,
      f.reader.check (.obj text members) = Reader.checkForms value checks (.obj text members))
    (hforms : forms.lookup tag = some g.shape)
    (hchecks : checks.lookup tag = some g.reader.check)
    (hcomplete : f.isComplete a = g.isComplete b)
    (hread : f.reader.read [(tagged tag j).rendered true] = a) (hnames : f.names a = g.names b) :
    f.Writes a (tagged tag j) := by
  have hkeywords : ∀ m ∈ [(tag, j)], isKeyword m.1 = true := by simpa using htag
  refine ⟨?_, ?_, ?_, hread, ?_⟩
  · exact (proper_object hkeywords (by simpa using h.proper)).mono (fun _ hc => hc) hdepth
  · rw [hshape, hcomplete]
    exact shapes_tagged htag hnodup hforms h.shapes
  · have hforms := checkForms_rendered htag j value hchecks
    rw [tagged, rendered_object hkeywords] at hforms ⊢
    rw [hcheck, hforms]
    exact h.check
  · rw [tagged, isMarked_object hkeywords, hnames, ← h.marked]
    simp

end SierraCasm.Document
