import Mathlib.Data.List.Forall2
import Mathlib.Data.List.Pairwise
import SierraCasm.Document.Unification
import SierraCasm.Proofs.Document.Lawful
import SierraCasm.Proofs.Json.Numbers

/-! # Unification is lawful

The checker that runs has the laws that loading rests on (`lawful_unification`).  Values unify
together if they do so in pairs, so the values given for a member or an item do
(`allUnifiable_labelled`, `allUnifiable_item`). -/

namespace SierraCasm.Document.Unification

open Json (Proper)
open Json.Machine (maxDepth)
open Schema (Shape Field)

/-! ### Values that unify -/

/-- Members of one label unify. -/
def MembersUnify (m n : String × Json) : Prop :=
  labelOf m.1 = labelOf n.1 → unifiable m.2 n.2 = true

theorem or_unifiable_iff {key : String} {v : Json} {n : String × Json} :
    (labelOf n.1 != labelOf key || unifiable v n.2) = true ↔ MembersUnify (key, v) n := by
  rw [Bool.or_eq_true, bne_iff_ne, MembersUnify]
  constructor
  · rintro (hne | hunify) heq
    · exact absurd heq.symm hne
    · exact hunify
  · intro h
    by_cases heq : labelOf n.1 = labelOf key
    · exact .inr (h heq.symm)
    · exact .inl heq

theorem membersUnifiable_iff {ms ns : List (String × Json)} :
    membersUnifiable ms ns = true ↔ ∀ m ∈ ms, ∀ n ∈ ns, MembersUnify m n := by
  induction ms with
  | nil => simp [membersUnifiable]
  | cons m ms ih =>
    obtain ⟨key, v⟩ := m
    rw [membersUnifiable, Bool.and_eq_true, ih, List.forall_mem_cons, List.all_eq_true]
    exact and_congr_left' (forall₂_congr fun n _ => or_unifiable_iff)

theorem itemsUnifiable_iff {xs ys : List Json} :
    itemsUnifiable xs ys = true ↔ List.Forall₂ (fun x y => unifiable x y = true) xs ys := by
  induction xs generalizing ys with
  | nil => cases ys <;> simp [itemsUnifiable]
  | cons x xs ih => cases ys <;> simp [itemsUnifiable, ih]

theorem areValues_iff {items : List Json} :
    areValues items = true ↔ ∀ j ∈ items, isValue j = true := by
  induction items with
  | nil => simp [areValues]
  | cons j items ih => rw [areValues, Bool.and_eq_true, ih, List.forall_mem_cons]

theorem areMembers_iff {members : List (String × Json)} :
    areMembers members = true ↔
      (∀ m ∈ members, (Json.content? m.1).isSome = true ∧ isValue m.2 = true) ∧
        members.Pairwise MembersUnify := by
  induction members with
  | nil => simp [areMembers]
  | cons m members ih =>
    obtain ⟨key, v⟩ := m
    have hall : (members.all fun m => labelOf m.1 != labelOf key || unifiable v m.2) = true ↔
        ∀ m ∈ members, MembersUnify (key, v) m := by
      rw [List.all_eq_true]
      exact forall₂_congr fun n _ => or_unifiable_iff
    simp only [areMembers, Bool.and_eq_true, ih, hall, List.forall_mem_cons, List.pairwise_cons]
    tauto

theorem allUnifiable_iff {given : Given} :
    allUnifiable given = true ↔
      (∀ j ∈ given, isValue j = true) ∧ given.Pairwise fun a b => unifiable a b = true := by
  induction given with
  | nil => simp [allUnifiable]
  | cons j given ih =>
    simp only [allUnifiable, Bool.and_eq_true, ih, List.all_eq_true, List.forall_mem_cons,
      List.pairwise_cons]
    tauto

theorem allUnifiable_singleton (j : Json) : allUnifiable [j] = isValue j := by
  simp [allUnifiable]

theorem agrees_eq (given : Given) : unification.agrees given = allUnifiable given :=
  Bool.and_true _

theorem conforms_eq {shape : Shape} {given : Given} (h : allUnifiable given = true) :
    unification.conforms shape given = fits shape given := by
  rw [unification]
  simp only [h, Bool.true_and]

/-! ### Parts of values that unify -/

theorem isValue_of_mem_membersOf {j : Json} (h : isValue j = true) :
    (∀ m ∈ membersOf j, isValue m.2 = true) ∧ (membersOf j).Pairwise MembersUnify := by
  cases j with
  | obj text members =>
    rw [isValue, areMembers_iff] at h
    exact ⟨fun m hm => (h.1 m hm).2, h.2⟩
  | _ => exact ⟨List.forall_mem_nil _, List.Pairwise.nil⟩

theorem membersUnify_of_unifiable {a b : Json} (h : unifiable a b = true) :
    ∀ m ∈ membersOf a, ∀ n ∈ membersOf b, MembersUnify m n := by
  cases a with
  | obj text ms =>
    cases b with
    | obj text' ns => exact membersUnifiable_iff.mp h
    | _ => cases h
  | _ => exact List.forall_mem_nil _

theorem allUnifiable_labelled {given : Given} (h : allUnifiable given = true) (l : Label) :
    allUnifiable (given.labelled Key.label l) = true := by
  rw [allUnifiable_iff] at h ⊢
  have hpairs : (given.flatMap membersOf).Pairwise MembersUnify := by
    refine List.pairwise_flatMap.mpr ⟨fun j hj => (isValue_of_mem_membersOf (h.1 j hj)).2, ?_⟩
    exact h.2.imp membersUnify_of_unifiable
  constructor
  · intro v hv
    obtain ⟨m, hm, rfl⟩ := List.mem_map.mp hv
    obtain ⟨j, hj, hmem⟩ := List.mem_flatMap.mp (List.mem_of_mem_filter hm)
    exact (isValue_of_mem_membersOf (h.1 j hj)).1 m hmem
  · rw [Given.labelled, List.pairwise_map]
    refine (hpairs.filter _).imp_of_mem fun {m n} hm hn hunify => hunify ?_
    rw [labelOf, labelOf, of_decide_eq_true (List.mem_filter.mp hm).2,
      of_decide_eq_true (List.mem_filter.mp hn).2]

theorem allUnifiable_values {given : Given} (h : allUnifiable given = true) (key : String) :
    allUnifiable (unification.values key given) = true := allUnifiable_labelled h _

theorem allUnifiable_item {given : Given} (h : allUnifiable given = true) (i : Nat) :
    allUnifiable (given.item i) = true := by
  rw [allUnifiable_iff] at h ⊢
  constructor
  · intro v hv
    obtain ⟨j, hj, hitem⟩ := List.mem_filterMap.mp hv
    have hvalue := h.1 j hj
    cases j with
    | arr text items =>
      rw [isValue, areValues_iff] at hvalue
      exact hvalue v (List.mem_of_getElem? hitem)
    | _ => cases hitem
  · refine List.pairwise_filterMap.mpr (h.2.imp fun {a b} hab v hv w hw => ?_)
    cases a with
    | arr text xs =>
      cases b with
      | arr text' ys =>
        obtain ⟨hi, rfl⟩ := List.getElem?_eq_some_iff.mp hv
        obtain ⟨hi', rfl⟩ := List.getElem?_eq_some_iff.mp hw
        exact (List.forall₂_iff_get.mp (itemsUnifiable_iff.mp hab)).2 i hi hi'
      | _ => cases hw
    | _ => cases hv

/-! ### Kinds of values that unify -/

theorem eq_of_unifiable {kind : Json → Bool} {given : Given} (h : allUnifiable given = true)
    (hkind : ∀ a b, unifiable a b = true → kind a = kind b) {j : Json} (hj : j ∈ given) :
    ∀ j' ∈ given, kind j' = kind j := by
  have hpairs : given.Pairwise fun a b => kind a = kind b :=
    (allUnifiable_iff.mp h).2.imp fun {a b} => hkind a b
  have : Std.Symm fun a b : Json => kind a = kind b := ⟨fun _ _ => Eq.symm⟩
  exact fun j' hj' => List.Pairwise.forall_of_forall (R := fun a b => kind a = kind b)
    (fun _ _ => rfl) hpairs hj' hj

theorem isArray_of_unifiable (a b : Json) (h : unifiable a b = true) : isArray a = isArray b := by
  cases a <;> cases b <;> first | rfl | cases h

theorem isObject_of_unifiable (a b : Json) (h : unifiable a b = true) :
    isObject a = isObject b := by
  cases a <;> cases b <;> first | rfl | cases h

theorem all_isArray {given : Given} (h : allUnifiable given = true) {text : String}
    {items : List Json} (hmem : .arr text items ∈ given) : given.all isArray = true :=
  List.all_eq_true.mpr (eq_of_unifiable h isArray_of_unifiable hmem)

theorem all_isObject {given : Given} (h : allUnifiable given = true) {text : String}
    {members : List (String × Json)} (hmem : .obj text members ∈ given) :
    given.all isObject = true :=
  List.all_eq_true.mpr (eq_of_unifiable h isObject_of_unifiable hmem)

/-! ### Shapes of parts -/

theorem item_ne_nil_iff {given : Given} {i : Nat} :
    given.item i ≠ [] ↔ i < longest given := by
  induction given with
  | nil => simp [Given.item, longest]
  | cons j given ih =>
    cases j with
    | arr text items =>
      have hlongest : longest (.arr text items :: given) = max items.length (longest given) := rfl
      rw [hlongest]
      cases hi : items[i]? with
      | none =>
        have hitem : Given.item (.arr text items :: given) i = Given.item given i := by
          simp [Given.item, hi]
        have hlength := List.getElem?_eq_none_iff.mp hi
        rw [hitem, ih]
        omega
      | some j =>
        have hitem : Given.item (.arr text items :: given) i = j :: Given.item given i := by
          simp [Given.item, hi]
        have hlength := (List.getElem?_eq_some_iff.mp hi).1
        rw [hitem]
        exact iff_of_true (List.cons_ne_nil _ _) (by omega)
    | _ => exact ih

theorem fitFields_eq_all {given : Given} (h : allUnifiable given = true) (fields : List Field) :
    fitFields fields given = fields.all (unification.holds given) := by
  induction fields with
  | nil => rfl
  | cons f fields ih =>
    obtain ⟨key, needed, shape⟩ := f
    rw [fitFields, List.all_cons, ih]
    congr 1
    simp only [Checker.holds, conforms_eq (allUnifiable_values h key)]
    rfl

theorem fitForm_eq_any (forms : List (String × Shape)) (given : Given) :
    fitForm forms given = forms.any fun f => !(unification.values f.1 given).isEmpty &&
      onlyMember given f.1 && fits f.2 (unification.values f.1 given) := by
  induction forms with
  | nil => rfl
  | cons f forms ih =>
    obtain ⟨key, shape⟩ := f
    rw [fitForm, ih, List.any_cons]
    rfl

theorem fits_oneOf_of_mem {texts : List String} {forms : List (String × Shape)} {given : Given}
    (h : allUnifiable given = true) {text : String} {members : List (String × Json)}
    (hmem : .obj text members ∈ given) : fits (.oneOf texts forms) given = fitForm forms given := by
  have htext : given.all (isText texts) = false := by
    rw [List.all_eq_false]
    exact ⟨_, hmem, Bool.false_ne_true⟩
  rw [fits, htext, all_isObject h hmem, Bool.false_or, Bool.true_and]

/-! ### Values with other spellings -/

section rendered

variable {P : Char → Prop}

/-- Values that are properly spelled. -/
def AreProper (P : Char → Prop) (given : Given) : Prop := ∀ j ∈ given, ∃ n, Proper P n j

theorem labelOf_escaped {key : String} (h : Json.Spells P key) :
    labelOf (Json.escaped true key) = labelOf key := by
  rw [labelOf, Json.content_escaped h.1, labelOf]

theorem spells_of_mem {n : Nat} {j : Json} (h : Proper P n j) :
    ∀ m ∈ membersOf j, Json.Spells P m.1 ∧ ∃ n, Proper P n m.2 := by
  cases h with
  | obj hkeys hmembers => exact fun m hm => ⟨hkeys m hm, _, hmembers m hm⟩
  | _ => exact List.forall_mem_nil _

theorem membersOf_rendered (j : Json) : membersOf (j.rendered true) =
    (membersOf j).map fun m => (Json.escaped true m.1, m.2.rendered true) := by
  cases j with
  | obj text members => exact Json.renderedMembers_eq_map true members
  | _ => rfl

theorem unifiable_rendered {n : Nat} {a : Json} (ha : Proper P n a) :
    ∀ {m : Nat} {b : Json}, Proper P m b →
      unifiable (a.rendered true) (b.rendered true) = unifiable a b := by
  induction ha with
  | null => rintro m b (_ | _ | _ | _ | _ | _) <;> rfl
  | bool => rintro m b (_ | _ | _ | _ | _ | _) <;> rfl
  | num => rintro m b (_ | _ | _ | _ | _ | _) <;> rfl
  | @str _ s hs =>
    intro m b hb
    cases hb with
    | str hs' =>
      simp only [Json.rendered, unifiable, Json.content?_escaped hs.1, Json.content?_escaped hs'.1]
    | _ => rfl
  | @arr _ text xs _ ih =>
    intro m b hb
    cases hb with
    | @arr _ text' ys hys =>
      simp only [Json.rendered, unifiable, Json.renderedItems_eq_map]
      rw [Bool.eq_iff_iff, itemsUnifiable_iff, itemsUnifiable_iff, List.forall₂_map_left_iff,
        List.forall₂_map_right_iff]
      refine ⟨fun h => ?_, fun h => ?_⟩ <;> rw [List.forall₂_iff_get] at h ⊢ <;>
        refine ⟨h.1, fun i hi hi' => ?_⟩ <;> have hitem := h.2 i hi hi'
      · rwa [ih _ (List.get_mem _ _) (hys _ (List.get_mem _ _))] at hitem
      · rwa [ih _ (List.get_mem _ _) (hys _ (List.get_mem _ _))]
    | _ => rfl
  | @obj _ text ms hkeys _ ih =>
    intro m b hb
    cases hb with
    | @obj _ text' ns hkeys' hns =>
      simp only [Json.rendered, unifiable, Json.renderedMembers_eq_map]
      rw [Bool.eq_iff_iff, membersUnifiable_iff, membersUnifiable_iff]
      simp only [List.forall_mem_map]
      refine forall₂_congr fun m hm => forall₂_congr fun n hn => ?_
      simp only [MembersUnify, labelOf_escaped (hkeys m hm), labelOf_escaped (hkeys' n hn),
        ih m hm (hns n hn)]
    | _ => rfl

theorem isValue_rendered {n : Nat} {j : Json} (h : Proper P n j) :
    isValue (j.rendered true) = isValue j := by
  induction h with
  | str hs => simp only [Json.rendered, isValue, Json.content?_escaped hs.1]
  | @arr _ text items _ ih =>
    simp only [Json.rendered, isValue, Json.renderedItems_eq_map]
    rw [Bool.eq_iff_iff, areValues_iff, areValues_iff, List.forall_mem_map]
    exact forall₂_congr fun j hj => by rw [ih j hj]
  | @obj _ text members hkeys hmembers ih =>
    simp only [Json.rendered, isValue, Json.renderedMembers_eq_map]
    rw [Bool.eq_iff_iff, areMembers_iff, areMembers_iff, List.forall_mem_map, List.pairwise_map]
    refine and_congr (forall₂_congr fun m hm => ?_) (List.Pairwise.iff_of_mem fun {m n} hm hn => ?_)
    · simp only [Json.content?_escaped (hkeys m hm).1, ih m hm]
    · simp only [MembersUnify, labelOf_escaped (hkeys m hm), labelOf_escaped (hkeys n hn),
        unifiable_rendered (hmembers m hm) (hmembers n hn)]
  | _ => rfl

theorem areProper_labelled {given : Given} (h : AreProper P given) (l : Label) :
    AreProper P (given.labelled Key.label l) := by
  intro v hv
  obtain ⟨m, hm, rfl⟩ := List.mem_map.mp hv
  obtain ⟨j, hj, hmem⟩ := List.mem_flatMap.mp (List.mem_of_mem_filter hm)
  obtain ⟨n, hproper⟩ := h j hj
  exact (spells_of_mem hproper m hmem).2

theorem areProper_item {given : Given} (h : AreProper P given) (i : Nat) :
    AreProper P (given.item i) := by
  intro v hv
  obtain ⟨j, hj, hitem⟩ := List.mem_filterMap.mp hv
  obtain ⟨n, hproper⟩ := h j hj
  cases hproper with
  | arr hitems => exact ⟨_, hitems v (List.mem_of_getElem? hitem)⟩
  | _ => cases hitem

theorem flatMap_membersOf_rendered (given : Given) :
    (given.map (Json.rendered true)).flatMap membersOf = (given.flatMap membersOf).map
      fun m => (Json.escaped true m.1, m.2.rendered true) := by
  rw [List.flatMap_map, List.map_flatMap]
  exact List.flatMap_congr fun j _ => membersOf_rendered j

theorem spells_of_mem_flatMap {given : Given} (h : AreProper P given) :
    ∀ m ∈ given.flatMap membersOf, Json.Spells P m.1 := by
  intro m hm
  obtain ⟨j, hj, hmem⟩ := List.mem_flatMap.mp hm
  obtain ⟨n, hproper⟩ := h j hj
  exact (spells_of_mem hproper m hmem).1

theorem labelled_rendered {given : Given} (h : AreProper P given) (l : Label) :
    Given.labelled (given.map (Json.rendered true)) Key.label l =
      (given.labelled Key.label l).map (Json.rendered true) := by
  have hfilter : ((given.flatMap membersOf).filter fun m =>
      decide (Key.label (Json.content (Json.escaped true m.1)) = l)) =
        (given.flatMap membersOf).filter fun m => decide (Key.label (Json.content m.1) = l) := by
    refine List.filter_congr fun m hm => ?_
    rw [Json.content_escaped (spells_of_mem_flatMap h m hm).1]
  simp only [Given.labelled, flatMap_membersOf_rendered, List.filter_map, List.map_map,
    Function.comp_def, hfilter]

theorem item_rendered (given : Given) (i : Nat) :
    Given.item (given.map (Json.rendered true)) i = (given.item i).map (Json.rendered true) := by
  rw [Given.item, Given.item, List.filterMap_map, List.map_filterMap]
  refine congrFun (congrArg _ (funext fun j => ?_)) _
  cases j with
  | arr text items =>
    rw [Function.comp_apply, Json.rendered, Json.renderedItems_eq_map]
    exact List.getElem?_map
  | _ => rfl

theorem longest_rendered (given : Given) :
    longest (given.map (Json.rendered true)) = longest given := by
  induction given with
  | nil => rfl
  | cons j given ih =>
    cases j with
    | arr text items =>
      have hlongest : ∀ (text : String) (items : List Json) (given : Given),
          longest (.arr text items :: given) = max items.length (longest given) :=
        fun _ _ _ => rfl
      rw [List.map_cons, Json.rendered, Json.renderedItems_eq_map, hlongest, hlongest, ih,
        List.length_map]
    | _ => exact ih

theorem onlyMember_rendered {given : Given} (h : AreProper P given) (key : String) :
    onlyMember (given.map (Json.rendered true)) key = onlyMember given key := by
  rw [onlyMember, onlyMember, flatMap_membersOf_rendered, List.all_map, Bool.eq_iff_iff,
    List.all_eq_true, List.all_eq_true]
  refine forall₂_congr fun m hm => ?_
  rw [Function.comp_apply, labelOf_escaped (spells_of_mem_flatMap h m hm)]

theorem all_rendered {test : Json → Bool} {given : Given} (h : AreProper P given)
    (htest : ∀ {n j}, Proper P n j → test (j.rendered true) = test j) :
    (given.map (Json.rendered true)).all test = given.all test := by
  rw [List.all_map, Bool.eq_iff_iff, List.all_eq_true, List.all_eq_true]
  refine forall₂_congr fun j hj => ?_
  obtain ⟨n, hproper⟩ := h j hj
  rw [Function.comp_apply, htest hproper]

theorem accepts_rendered {n : Nat} {j : Json} (h : Proper P n j) (kind : Schema.Scalar) :
    kind.accepts (j.rendered true) = kind.accepts j := by
  cases h with
  | str hs => cases kind <;> simp [Json.rendered, Schema.Scalar.accepts, Json.content_escaped hs.1]
  | _ => cases kind <;> rfl

theorem isText_rendered {n : Nat} {j : Json} (h : Proper P n j) (texts : List String) :
    isText texts (j.rendered true) = isText texts j := by
  cases h with
  | str hs => simp only [Json.rendered, isText, Json.content_escaped hs.1]
  | _ => rfl

mutual

theorem fits_rendered (shape : Shape) {given : Given} (h : AreProper P given) :
    fits shape (given.map (Json.rendered true)) = fits shape given := by
  cases shape with
  | any => simp only [fits]
  | scalar kind =>
    simp only [fits]
    exact all_rendered h fun hj => accepts_rendered hj kind
  | list item =>
    simp only [fits, longest_rendered, item_rendered]
    rw [all_rendered h fun {n j} _ => by cases j <;> rfl]
    simp only [fits_rendered item (areProper_item h _)]
  | record fields =>
    simp only [fits]
    rw [all_rendered h fun {n j} _ => by cases j <;> rfl, fitFields_rendered fields h]
  | oneOf texts forms =>
    simp only [fits]
    rw [all_rendered h fun hj => isText_rendered hj texts,
      all_rendered h fun {n j} _ => by cases j <;> rfl, fitForm_rendered forms h]

theorem fitFields_rendered (fields : List (String × Bool × Shape)) {given : Given}
    (h : AreProper P given) :
    fitFields fields (given.map (Json.rendered true)) = fitFields fields given := by
  cases fields with
  | nil => simp only [fitFields]
  | cons f fields =>
    obtain ⟨key, needed, shape⟩ := f
    simp only [fitFields, labelled_rendered h, List.isEmpty_map,
      fits_rendered shape (areProper_labelled h _), fitFields_rendered fields h]

theorem fitForm_rendered (forms : List (String × Shape)) {given : Given} (h : AreProper P given) :
    fitForm forms (given.map (Json.rendered true)) = fitForm forms given := by
  cases forms with
  | nil => simp only [fitForm]
  | cons f forms =>
    obtain ⟨key, shape⟩ := f
    simp only [fitForm, labelled_rendered h, List.isEmpty_map, onlyMember_rendered h,
      fits_rendered shape (areProper_labelled h _), fitForm_rendered forms h]

end

end rendered

/-! ### Texts -/

/-- Tokens that may be followed by any others. -/
def InLine (ts : List Json.Token) : Prop :=
  ∀ rest, separatorsInLine false (ts ++ rest) = separatorsInLine false rest

theorem inLine_itemTokens {markup : Bool} {items : List Json}
    (h : ∀ j ∈ items, InLine (Json.tokens markup j)) : InLine (Json.itemTokens markup items) := by
  induction items with
  | nil => exact fun _ => rfl
  | cons j items ih =>
    rw [List.forall_mem_cons] at h
    cases items with
    | nil => exact h.1
    | cons next items =>
      intro rest
      have htokens : Json.itemTokens markup (j :: next :: items) =
          Json.tokens markup j ++ .comma :: Json.itemTokens markup (next :: items) := rfl
      rw [htokens, List.append_assoc, h.1]
      exact ih h.2 rest

theorem inLine_memberTokens {markup : Bool} {members : List (String × Json)}
    (h : ∀ m ∈ members, InLine (Json.tokens markup m.2)) :
    InLine (Json.memberTokens markup members) := by
  induction members with
  | nil => exact fun _ => rfl
  | cons m members ih =>
    obtain ⟨key, j⟩ := m
    rw [List.forall_mem_cons] at h
    cases members with
    | nil => exact h.1
    | cons next members =>
      intro rest
      have htokens : Json.memberTokens markup ((key, j) :: next :: members) =
          .str (Json.escaped markup key) :: .colon ::
            (Json.tokens markup j ++ .comma :: Json.memberTokens markup (next :: members)) := rfl
      rw [htokens, List.cons_append, List.cons_append, List.append_assoc]
      exact (h.1 _).trans (ih h.2 rest)

theorem inLine_tokens {P : Char → Prop} {n : Nat} {j : Json} (h : Proper P n j) (markup : Bool) :
    InLine (Json.tokens markup j) := by
  induction h with
  | null => exact fun _ => rfl
  | bool => exact fun _ => rfl
  | num => exact fun _ => rfl
  | str => exact fun _ => rfl
  | arr _ ih =>
    intro rest
    rw [Json.tokens, List.cons_append, List.append_assoc]
    exact inLine_itemTokens ih _
  | obj _ _ ih =>
    intro rest
    rw [Json.tokens, List.cons_append, List.append_assoc]
    exact inLine_memberTokens ih _

theorem parses_render {P : Char → Prop} {n : Nat} {j : Json} (h : Proper P n j)
    (hmark : byteOrderMark ∉ j.render.toList) : parses j.render = true := by
  have hscan : Json.Token.scan j.render.toList = some (Json.tokens true j) :=
    (Json.scans_write h).scan_eq
  have hlines : separatorsInLine false (Json.tokens true j) = true := by
    rw [← List.append_nil (Json.tokens true j), inLine_tokens h true []]
    rfl
  rw [parses, hscan, Option.all_some, hlines]
  simpa using hmark

/-! ### The laws -/

theorem label_unification : unification.label = Key.label := rfl

theorem agrees_obj {text : String} {members : List (String × Json)}
    (h : ∀ m ∈ members, (Json.content? m.1).isSome = true ∧ unification.agrees [m.2] = true)
    (hlabels : (members.map fun m => unification.label (Json.content m.1)).Nodup) :
    unification.agrees [.obj text members] = true := by
  rw [label_unification] at hlabels
  rw [agrees_eq, allUnifiable_singleton, isValue, areMembers_iff]
  refine ⟨fun m hm => ⟨(h m hm).1, ?_⟩, (List.pairwise_map.mp hlabels).imp ?_⟩
  · rw [← allUnifiable_singleton, ← agrees_eq]
    exact (h m hm).2
  · exact fun hne heq => absurd heq hne

theorem conforms_list {item : Shape} {given : Given} (h : unification.agrees given = true)
    {text : String} {items : List Json} (hmem : .arr text items ∈ given) :
    unification.conforms (.list item) given = true ↔
      ∀ i, given.item i ≠ [] → unification.conforms item (given.item i) = true := by
  rw [agrees_eq] at h
  rw [conforms_eq h, fits, all_isArray h hmem, Bool.true_and, List.all_eq_true]
  simp only [List.mem_range, item_ne_nil_iff, conforms_eq (allUnifiable_item h _)]

theorem conforms_record {fields : List Field} {given : Given} (h : unification.agrees given = true)
    {text : String} {members : List (String × Json)} (hmem : .obj text members ∈ given) :
    unification.conforms (.record fields) given = fields.all (unification.holds given) := by
  rw [agrees_eq] at h
  rw [conforms_eq h, fits, all_isObject h hmem, Bool.true_and, fitFields_eq_all h]

theorem conforms_tagged {texts : List String} {forms : List (String × Shape)}
    {text tag : String} {j : Json} (htag : Text.isKeyword tag = true)
    (h : unification.agrees [j] = true) :
    unification.conforms (.oneOf texts forms) [.obj text [(tag, j)]] =
      forms.any fun f => f.1 == tag && unification.conforms f.2 [j] := by
  have hlabel : labelOf tag = .field tag := by
    rw [labelOf, content_of_isKeyword htag, Key.label_eq_field htag]
  have hagrees : allUnifiable [.obj text [(tag, j)]] = true := by
    rw [← agrees_eq]
    refine agrees_obj ?_ (List.pairwise_singleton _ _)
    rw [List.forall_mem_singleton, content?_of_isKeyword htag]
    exact ⟨rfl, h⟩
  have hvalues : ∀ key, unification.values key [.obj text [(tag, j)]] =
      if key == tag then [j] else [] := by
    intro key
    have hsame : unification.label (Json.content tag) = .field key ↔ (key == tag) = true := by
      rw [label_unification, ← labelOf, hlabel, beq_iff_eq]
      exact ⟨fun h => (congrArg Label.text h).symm, fun h => by rw [h]⟩
    rw [Checker.values_cons, Checker.valuesIn_cons]
    simp only [hsame]
    split <;> rfl
  rw [agrees_eq] at h
  rw [conforms_eq hagrees, fits_oneOf_of_mem hagrees (List.mem_singleton_self _), fitForm_eq_any]
  refine congrArg (forms.any ·) (funext fun f => ?_)
  rw [hvalues, conforms_eq h]
  cases hkey : f.1 == tag with
  | false => rfl
  | true =>
    have honly : onlyMember [.obj text [(tag, j)]] f.1 = true := by
      simp [onlyMember, membersOf, hlabel, beq_iff_eq.mp hkey]
    rw [honly]
    rfl

theorem labels_eq {given given' : Given} (h : given'.map keys? = given.map keys?) :
    (given'.flatMap membersOf).map (fun m => labelOf m.1) =
      (given.flatMap membersOf).map fun m => labelOf m.1 := by
  have hmap : ∀ given : Given, (given.flatMap membersOf).map (fun m => labelOf m.1) =
      (given.map keys?).flatMap fun keys => (keys.getD []).map labelOf := by
    intro given
    rw [List.map_flatMap, List.flatMap_map]
    refine List.flatMap_congr fun j _ => ?_
    cases j with
    | obj text members => simp [membersOf, keys?]
    | _ => rfl
  rw [hmap, hmap, h]

theorem isEmpty_values (key : String) (given : Given) :
    (unification.values key given).isEmpty =
      (((given.flatMap membersOf).map fun m => labelOf m.1).filter (· = .field key)).isEmpty := by
  rw [List.filter_map, List.isEmpty_map, Checker.values, label_unification, Given.labelled,
    List.isEmpty_map]
  simp only [Function.comp_def, labelOf]

theorem onlyMember_eq (key : String) (given : Given) : onlyMember given key =
    ((given.flatMap membersOf).map fun m => labelOf m.1).all
      fun l => l.isDefinition || l == .field key := by
  rw [onlyMember, List.all_map]
  simp only [Function.comp_def]

theorem conforms_oneOf_congr {texts : List String} {forms : List (String × Shape)}
    {given given' : Given} (h : unification.agrees given = true)
    (h' : unification.agrees given' = true) {text : String} {members : List (String × Json)}
    (hmem : .obj text members ∈ given) (hkeys : given'.map keys? = given.map keys?)
    (hforms : ∀ f ∈ forms, unification.values f.1 given ≠ [] →
      unification.conforms f.2 (unification.values f.1 given') =
        unification.conforms f.2 (unification.values f.1 given)) :
    unification.conforms (.oneOf texts forms) given' =
      unification.conforms (.oneOf texts forms) given := by
  rw [agrees_eq] at h h'
  obtain ⟨j, hj, hobject⟩ : ∃ j ∈ given', keys? j = some (members.map Prod.fst) := by
    rw [← List.mem_map, hkeys]
    exact List.mem_map_of_mem hmem
  obtain ⟨text', members', rfl⟩ : ∃ text' members', j = .obj text' members' := by
    cases j with
    | obj text' members' => exact ⟨_, _, rfl⟩
    | _ => cases hobject
  rw [conforms_eq h, conforms_eq h', fits_oneOf_of_mem h hmem, fits_oneOf_of_mem h' hj,
    fitForm_eq_any, fitForm_eq_any, Bool.eq_iff_iff, List.any_eq_true, List.any_eq_true]
  refine exists_congr fun f => and_congr_right fun hf => ?_
  have hempty : (unification.values f.1 given').isEmpty =
      (unification.values f.1 given).isEmpty := by
    rw [isEmpty_values, isEmpty_values, labels_eq hkeys]
  rw [hempty, onlyMember_eq, onlyMember_eq, labels_eq hkeys]
  by_cases hvalues : unification.values f.1 given = []
  · rw [hvalues]
    simp
  · have hfits := hforms f hf hvalues
    rw [conforms_eq (allUnifiable_values h _), conforms_eq (allUnifiable_values h' _)] at hfits
    rw [hfits]

end SierraCasm.Document.Unification

namespace SierraCasm.Document

open Unification

/-- The checker that runs is lawful. -/
theorem lawful_unification : unification.Lawful where
  unmarked := by
    intro s h
    rw [show unification.parses s = parses s from rfl, parses, Bool.and_eq_true] at h
    simpa using h.1
  compact := parses_render
  label_eq_field := Key.label_eq_field
  agrees_null := rfl
  agrees_int := fun i => rfl
  agrees_str := by
    intro s h
    rw [agrees_eq, allUnifiable_singleton]
    exact h
  agrees_arr := by
    intro text items h
    rw [agrees_eq, allUnifiable_singleton, isValue, areValues_iff]
    intro j hj
    rw [← allUnifiable_singleton, ← agrees_eq]
    exact h j hj
  agrees_obj := agrees_obj
  agrees_of_mem := by
    intro given j h hj
    rw [agrees_eq] at h ⊢
    rw [allUnifiable_singleton]
    exact (allUnifiable_iff.mp h).1 j hj
  agrees_values := by
    intro given key h _
    rw [agrees_eq] at h ⊢
    exact allUnifiable_values h key
  agrees_item := by
    intro given i h _
    rw [agrees_eq] at h ⊢
    exact allUnifiable_item h i
  respelled := by
    intro P n j shape h
    have hproper : AreProper P [j] := List.forall_mem_singleton.mpr ⟨n, h⟩
    have hfits : fits shape [j.rendered true] = fits shape [j] := fits_rendered shape hproper
    show (allUnifiable [j.rendered true] && fits shape [j.rendered true]) =
      (allUnifiable [j] && fits shape [j])
    rw [hfits, allUnifiable_singleton, allUnifiable_singleton, isValue_rendered h]
  scalar_int := by
    intro kind i
    rw [conforms_eq (by rw [allUnifiable_singleton]; rfl), fits]
    simp
  scalar_str := by
    intro kind s h
    rw [conforms_eq (by rw [allUnifiable_singleton]; exact h), fits]
    simp
  list_null := fun item => rfl
  list := fun h ⟨text, items, hmem⟩ => conforms_list h hmem
  record := fun h ⟨text, members, hmem⟩ => conforms_record h hmem
  oneOf_str := by
    intro texts forms s h
    rw [conforms_eq (by rw [allUnifiable_singleton]; exact h), fits]
    simp [isText, isObject]
  oneOf_obj := conforms_tagged
  oneOf_congr := fun h h' ⟨text, members, hmem⟩ hkeys hforms =>
    conforms_oneOf_congr h h' hmem hkeys hforms

end SierraCasm.Document
