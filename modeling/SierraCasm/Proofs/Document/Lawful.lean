import SierraCasm.Document.Checker
import SierraCasm.Proofs.Document.Keys
import SierraCasm.Proofs.Json.Parsing

/-! # Lawful checkers

What the loader relies on about the package that parses documents and checks them against the
schema.  These are all the facts about `cuelang.org/go` that statements about loading rest on; they
are hypotheses there, and `Proofs.Document.Unification` shows that the checker that runs has them.

Most of them speak of all values given for a place, since a key may be repeated. -/

namespace SierraCasm.Document

open Json (Proper)
open Json.Machine (maxDepth)
open Schema (Shape Scalar Field)

def keys? : Json → Option (List String)
  | .obj _ members => some (members.map Prod.fst)
  | _ => none

/-- The laws of checkers. -/
structure Checker.Lawful (c : Checker) : Prop where
  /-- a text with a byte order mark is not parsed -/
  unmarked : ∀ {s : String}, c.parses s = true → byteOrderMark ∉ s.toList
  /-- a text without blanks and without a byte order mark is parsed -/
  compact : ∀ {P : Char → Prop} {j : Json}, Proper P maxDepth j →
    byteOrderMark ∉ j.render.toList → c.parses j.render = true
  /-- a keyword is the only key that means its member -/
  label_eq_field : ∀ {key keyword : String}, Text.isKeyword keyword = true →
    (c.label key = .field keyword ↔ key = keyword)
  /-- `null`, integers and texts are values -/
  agrees_null : c.agrees [.null] = true
  agrees_int : ∀ i : Int, c.agrees [.int i] = true
  agrees_str : ∀ {s : String}, (Json.content? s).isSome = true → c.agrees [.str s] = true
  /-- an array of values is a value -/
  agrees_arr : ∀ {text : String} {items : List Json}, (∀ j ∈ items, c.agrees [j] = true) →
    c.agrees [.arr text items] = true
  /-- an object of values is a value if its keys are text and mean different members -/
  agrees_obj : ∀ {text : String} {members : List (String × Json)},
    (∀ m ∈ members, (Json.content? m.1).isSome = true ∧ c.agrees [m.2] = true) →
    (members.map fun m => c.label (Json.content m.1)).Nodup → c.agrees [.obj text members] = true
  /-- values that agree are values each -/
  agrees_of_mem : ∀ {given : Given} {j : Json}, c.agrees given = true → j ∈ given →
    c.agrees [j] = true
  /-- values that agree do so member by member, definitions apart -/
  agrees_values : ∀ {given : Given} {key : String}, c.agrees given = true →
    c.values key given ≠ [] → c.agrees (c.values key given) = true
  /-- values that agree do so item by item -/
  agrees_item : ∀ {given : Given} {i : Nat}, c.agrees given = true → given.item i ≠ [] →
    c.agrees (given.item i) = true
  /-- how the strings of a value are escaped does not matter -/
  respelled : ∀ {P : Char → Prop} {n : Nat} {j : Json} (shape : Shape), Proper P n j →
    c.conforms shape [j.rendered true] = c.conforms shape [j]
  /-- integers and texts are scalars of some kinds -/
  scalar_int : ∀ (kind : Scalar) (i : Int),
    c.conforms (.scalar kind) [.int i] = kind.accepts (.int i)
  scalar_str : ∀ (kind : Scalar) {s : String}, (Json.content? s).isSome = true →
    c.conforms (.scalar kind) [.str s] = kind.accepts (.str s)
  /-- `null` is not a list -/
  list_null : ∀ item : Shape, c.conforms (.list item) [.null] = false
  /-- lists have a shape item by item -/
  list : ∀ {item : Shape} {given : Given}, c.agrees given = true →
    (∃ text items, .arr text items ∈ given) → (c.conforms (.list item) given = true ↔
      ∀ i, given.item i ≠ [] → c.conforms item (given.item i) = true)
  /-- objects have a shape member by member, and a member that is not required may be absent -/
  record : ∀ {fields : List Field} {given : Given}, c.agrees given = true →
    (∃ text members, .obj text members ∈ given) →
    c.conforms (.record fields) given = fields.all (c.holds given)
  /-- a text is one of several forms if it is one of their texts -/
  oneOf_str : ∀ {texts : List String} {forms : List (String × Shape)} {s : String},
    (Json.content? s).isSome = true →
    c.conforms (.oneOf texts forms) [.str s] = texts.contains (Json.content s)
  /-- an object with one member is one of several forms if its member is -/
  oneOf_obj : ∀ {texts : List String} {forms : List (String × Shape)} {text tag : String}
    {j : Json}, Text.isKeyword tag = true → c.agrees [j] = true →
    c.conforms (.oneOf texts forms) [.obj text [(tag, j)]] =
      forms.any fun f => f.1 == tag && c.conforms f.2 [j]
  /-- objects with the same keys are of the same form if their members have the same shapes -/
  oneOf_congr : ∀ {texts : List String} {forms : List (String × Shape)} {given given' : Given},
    c.agrees given = true → c.agrees given' = true →
    (∃ text members, .obj text members ∈ given) → given'.map keys? = given.map keys? →
    (∀ f ∈ forms, c.values f.1 given ≠ [] →
      c.conforms f.2 (c.values f.1 given') = c.conforms f.2 (c.values f.1 given)) →
    c.conforms (.oneOf texts forms) given' = c.conforms (.oneOf texts forms) given

namespace Checker

variable {c : Checker}

/-! ### Values given for a member -/

theorem values_append (key : String) (xs ys : Given) :
    c.values key (xs ++ ys) = c.values key xs ++ c.values key ys := by
  simp [values, Given.labelled]

/-- The values of the members of an object with a key. -/
def valuesIn (c : Checker) (key : String) (members : List (String × Json)) : Given :=
  (members.filter fun m => c.label (Json.content m.1) = .field key).map (·.2)

theorem values_cons (key text : String) (members : List (String × Json)) (given : Given) :
    c.values key (.obj text members :: given) = c.valuesIn key members ++ c.values key given := by
  simp [values, valuesIn, Given.labelled, membersOf]

theorem valuesIn_append (key : String) (before after : List (String × Json)) :
    c.valuesIn key (before ++ after) = c.valuesIn key before ++ c.valuesIn key after := by
  simp [valuesIn]

theorem valuesIn_cons (key : String) (m : String × Json) (members : List (String × Json)) :
    c.valuesIn key (m :: members) =
      if c.label (Json.content m.1) = .field key then m.2 :: c.valuesIn key members
      else c.valuesIn key members := by
  rw [valuesIn, List.filter_cons]
  split <;> simp_all [valuesIn]

/-! ### Unambiguous documents -/

mutual

/-- Every scalar is a value, all keys are text, and no object has two keys that mean the same
member. -/
def isUnambiguous (c : Checker) : Json → Bool
  | .arr _ items => c.areUnambiguous items
  | .obj _ members =>
    decide (members.map fun m => c.label (Json.content m.1)).Nodup &&
      c.membersAreUnambiguous members
  | j => c.agrees [j]

def areUnambiguous (c : Checker) : List Json → Bool
  | [] => true
  | j :: items => c.isUnambiguous j && c.areUnambiguous items

def membersAreUnambiguous (c : Checker) : List (String × Json) → Bool
  | [] => true
  | (key, j) :: members =>
    (Json.content? key).isSome && c.isUnambiguous j && c.membersAreUnambiguous members

end

theorem areUnambiguous_eq_all (items : List Json) :
    c.areUnambiguous items = items.all c.isUnambiguous := by
  induction items with
  | nil => rfl
  | cons j items ih => rw [areUnambiguous, ih, List.all_cons]

theorem membersAreUnambiguous_eq_all (members : List (String × Json)) :
    c.membersAreUnambiguous members =
      members.all fun m => (Json.content? m.1).isSome && c.isUnambiguous m.2 := by
  induction members with
  | nil => rfl
  | cons m members ih => rw [membersAreUnambiguous, ih, List.all_cons]

theorem Lawful.agrees_of_isUnambiguous (hc : c.Lawful) (j : Json)
    (h : c.isUnambiguous j = true) : c.agrees [j] = true := by
  induction hsize : sizeOf j using Nat.strongRecOn generalizing j with
  | ind n ih =>
    subst hsize
    cases j with
    | arr text items =>
      rw [isUnambiguous, areUnambiguous_eq_all, List.all_eq_true] at h
      refine hc.agrees_arr fun j hj => ih _ ?_ j (h j hj) rfl
      have := List.sizeOf_lt_of_mem hj
      simp only [Json.arr.sizeOf_spec]
      omega
    | obj text members =>
      rw [isUnambiguous, Bool.and_eq_true, membersAreUnambiguous_eq_all, List.all_eq_true] at h
      refine hc.agrees_obj (fun m hm => ?_) (of_decide_eq_true h.1)
      obtain ⟨hkey, hvalue⟩ := Bool.and_eq_true_iff.mp (h.2 m hm)
      refine ⟨hkey, ih _ ?_ m.2 hvalue rfl⟩
      have hlt := List.sizeOf_lt_of_mem hm
      obtain ⟨key, j⟩ := m
      simp only [Json.obj.sizeOf_spec, Prod.mk.sizeOf_spec] at hlt ⊢
      omega
    | _ => exact h

end Checker

end SierraCasm.Document
