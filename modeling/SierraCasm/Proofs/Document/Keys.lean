import Mathlib.Tactic.SplitIfs
import SierraCasm.Document.Key
import SierraCasm.Proofs.Json.Strings

/-! # Keys that only spell themselves

The keys that a document gives a meaning to consist of letters and low lines.  Composing a text
never results in such a key unless the text is that key (`Key.label_eq_field`): a code point of
another kind leaves one of another kind behind when it is taken apart, put in order and joined.
The letter `K` is not counted, since the sign for degrees Kelvin is replaced by it. -/

namespace SierraCasm

theorem mem_of_lookup {α β : Type} [BEq α] [LawfulBEq α] {a : α} {b : β} {table : List (α × β)}
    (h : table.lookup a = some b) : (a, b) ∈ table := by
  obtain ⟨before, after, rfl, -⟩ := List.lookup_eq_some_iff.mp h
  simp

end SierraCasm

namespace SierraCasm.Text

/-- A small letter or a low line. -/
def isPlain (n : Nat) : Bool := (0x61 ≤ n && n ≤ 0x7A) || n = 0x5F

/-- A letter other than `K`, or a low line. -/
def isLetterCode (n : Nat) : Bool := (0x41 ≤ n && n ≤ 0x5A && n != 0x4B) || isPlain n

/-- Some code point is not a letter. -/
def Rough (ns : List Nat) : Prop := ∃ n ∈ ns, isLetterCode n = false

theorem isLetterCode_of_gt {n : Nat} (h : 0x7A < n) : isLetterCode n = false := by
  simp only [isLetterCode, isPlain, Bool.or_eq_false_iff, Bool.and_eq_false_iff,
    decide_eq_false_iff_not]
  omega

/-! ### Taking apart -/

theorem rough_of_pairOf {n : Nat} {parts : List Nat} {table : List (Nat × Nat × Nat)}
    (htable : table.all (fun e => !isLetterCode e.2.1 || !isLetterCode e.2.2) = true)
    (h : pairOf? n table = some parts) : Rough parts := by
  obtain ⟨pair, hpair, rfl⟩ := Option.map_eq_some_iff.mp h
  have hrough := List.all_eq_true.mp htable _ (mem_of_lookup hpair)
  simp only [Bool.or_eq_true, Bool.not_eq_true'] at hrough
  rcases hrough with hrough | hrough
  · exact ⟨pair.1, by simp, hrough⟩
  · exact ⟨pair.2, by simp, hrough⟩

theorem not_isLetterCode_of_lookup {n m : Nat} {table : List (Nat × Nat)}
    (htable : table.all (fun e => !isLetterCode e.2) = true) (h : table.lookup n = some m) :
    isLetterCode m = false := by
  simpa using List.all_eq_true.mp htable _ (mem_of_lookup h)

theorem rough_of_hangulSplit {n : Nat} {parts : List Nat} (h : Hangul.split? n = some parts) :
    Rough parts := by
  unfold Hangul.split? at h
  split at h
  · refine ⟨Hangul.leading + (n - Hangul.syllable) / (Hangul.vowels * Hangul.trailings), ?_,
      isLetterCode_of_gt ?_⟩
    · rw [← Option.some.inj h]
      split <;> simp
    · exact Nat.lt_of_lt_of_le (by decide : 0x7A < Hangul.leading) (Nat.le_add_right _ _)
  · cases h

theorem rough_of_split {n : Nat} {parts : List Nat} (h : split? n = some parts) : Rough parts := by
  simp only [split?, Option.orElse_eq_orElse, Option.orElse_eq_or, Option.or_eq_some_iff] at h
  rcases h with h | ⟨-, h | ⟨-, h | ⟨-, h⟩⟩⟩
  · exact rough_of_hangulSplit h
  · exact rough_of_pairOf (by decide +kernel) h
  · exact rough_of_pairOf (by decide +kernel) h
  · obtain ⟨m, hm, rfl⟩ := Option.map_eq_some_iff.mp h
    refine ⟨m, List.mem_singleton_self m, ?_⟩
    simp only [Option.or_eq_some_iff] at hm
    rcases hm with hm | ⟨-, hm | ⟨-, hm⟩⟩
    · exact not_isLetterCode_of_lookup (by decide +kernel) hm
    · exact not_isLetterCode_of_lookup (by decide +kernel) hm
    · exact not_isLetterCode_of_lookup (by decide +kernel) hm

theorem rough_takeApart (fuel : Nat) {n : Nat} (h : isLetterCode n = false) :
    Rough (takeApart fuel n) := by
  induction fuel generalizing n with
  | zero => exact ⟨n, List.mem_singleton_self n, h⟩
  | succ fuel ih =>
    rw [takeApart]
    split
    · rename_i parts hsplit
      obtain ⟨m, hm, hrough⟩ := rough_of_split hsplit
      obtain ⟨k, hk, hrough⟩ := ih hrough
      exact ⟨k, List.mem_flatMap.mpr ⟨m, hm, hk⟩, hrough⟩
    · exact ⟨n, List.mem_singleton_self n, h⟩

/-! ### Ordering and joining -/

theorem mem_place {n m : Nat} {ns : List Nat} : m ∈ place n ns ↔ m = n ∨ m ∈ ns := by
  induction ns with
  | nil => simp [place]
  | cons k ns ih =>
    rw [place]
    split
    · rw [List.mem_cons, ih, List.mem_cons]
      exact or_left_comm
    · rw [List.mem_cons]

theorem mem_orderMarks {m : Nat} {ns : List Nat} : m ∈ orderMarks ns ↔ m ∈ ns := by
  induction ns with
  | nil => rfl
  | cons n ns ih =>
    rw [List.mem_cons, ← ih]
    exact mem_place

theorem not_isLetterCode_of_join {a b c : Nat} (h : join? a b = some c) : isLetterCode c = false := by
  simp only [join?, Option.orElse_eq_orElse, Option.orElse_eq_or, Option.or_eq_some_iff] at h
  rcases h with h | ⟨-, h⟩
  · unfold Hangul.join? at h
    have hlarge : 0x7A < Hangul.syllable := by decide
    split at h
    · rw [← Option.some.inj h]
      exact isLetterCode_of_gt (Nat.lt_of_lt_of_le hlarge (Nat.le_add_right _ _))
    · split at h
      · rename_i hsyllable
        rw [← Option.some.inj h]
        exact isLetterCode_of_gt
          (Nat.lt_of_lt_of_le hlarge (Nat.le_trans hsyllable.1 (Nat.le_add_right _ _)))
      · cases h
  · obtain ⟨e, he, rfl⟩ := Option.map_eq_some_iff.mp h
    have hall : composites.all (fun e => !isLetterCode e.1) = true := by decide +kernel
    simpa using List.all_eq_true.mp hall e (List.mem_of_find?_eq_some he)

/-- What was rough stays rough, and a rough code point makes the text rough. -/
theorem Composing.rough_step {s : Composing} {n : Nat} (h : Rough s.all ∨ isLetterCode n = false) :
    Rough (s.step n).all := by
  have hread : ∀ {s' : Composing}, (∀ m, m = n ∨ m ∈ s.all → m ∈ s'.all) → Rough s'.all := by
    intro s' hall
    rcases h with ⟨m, hm, hrough⟩ | hrough
    · exact ⟨m, hall m (.inr hm), hrough⟩
    · exact ⟨n, hall n (.inl rfl), hrough⟩
  simp only [Composing.step]
  split
  · rename_i composite hjoined
    split at hjoined
    · cases hjoined
    · obtain ⟨base, -, hjoin⟩ := Option.bind_eq_some_iff.mp hjoined
      exact ⟨composite, by simp [Composing.all], not_isLetterCode_of_join hjoin⟩
  · split
    · exact hread fun m hm => by simpa [Composing.all] using hm
    · exact hread fun m hm => by simpa [Composing.all] using hm

theorem Composing.rough_foldl {s : Composing} {ns : List Nat} (h : Rough s.all ∨ Rough ns) :
    Rough (ns.foldl Composing.step s).all := by
  induction ns generalizing s with
  | nil =>
    rcases h with h | ⟨n, hn, -⟩
    · exact h
    · cases hn
  | cons n ns ih =>
    rw [List.foldl_cons]
    apply ih
    rcases h with h | ⟨m, hm, hrough⟩
    · exact .inl (rough_step (.inl h))
    · rcases List.mem_cons.mp hm with rfl | hm
      · exact .inl (rough_step (.inr hrough))
      · exact .inr ⟨m, hm, hrough⟩

theorem rough_joinMarks {ns : List Nat} (h : Rough ns) : Rough (joinMarks ns) := by
  obtain ⟨n, hn, hrough⟩ := Composing.rough_foldl (s := {}) (.inr h)
  exact ⟨n, List.mem_reverse.mpr hn, hrough⟩

/-! ### Composed text -/

theorem mem_joinRuns {m run : Nat} {ns : List Nat} (h : m ∈ ns) : m ∈ joinRuns run ns := by
  induction ns generalizing run with
  | nil => cases h
  | cons n ns ih =>
    simp only [joinRuns]
    rcases List.mem_cons.mp h with rfl | h
    · split_ifs <;> simp
    · split_ifs <;> simp [ih h]

/-- A text of plain characters. -/
def Plain (s : String) : Prop := ∀ c ∈ s.toList, isPlain c.toNat = true

-- The instance for lists: the one for characters would try all of them.
instance (s : String) : Decidable (Plain s) := List.decidableBAll _ s.toList

/-- A text of letters and low lines. -/
def isKeyword (s : String) : Bool := s.toList.all fun c => isLetterCode c.toNat

theorem isKeyword_of_plain {s : String} (h : Plain s) : isKeyword s = true :=
  List.all_eq_true.mpr fun c hc => by rw [isLetterCode, h c hc, Bool.or_true]

theorem isLetterCode_of_mem {s : String} (hs : isKeyword s = true) :
    ∀ c ∈ s.toList, isLetterCode c.toNat = true := List.all_eq_true.mp hs

theorem isLetterCode_bounds {n : Nat} (h : isLetterCode n = true) : 0x20 ≤ n ∧ n < 0x80 := by
  simp only [isLetterCode, isPlain, Bool.or_eq_true, Bool.and_eq_true, decide_eq_true_eq] at h
  omega

/-- A letter is none of some other characters. -/
theorem ne_of_isLetterCode {c : Char} (h : isLetterCode c.toNat = true) (d : Char)
    (hd : isLetterCode d.toNat = false) : c ≠ d := by
  rintro rfl
  rw [h] at hd
  cases hd

theorem isLetterCode_of_ofNat {n : Nat} (h : isLetterCode (Char.ofNat n).toNat = true) :
    isLetterCode n = true := by
  by_cases hvalid : n.isValidChar
  · rw [show Char.ofNat n = Char.ofNatAux n hvalid from dif_pos hvalid] at h
    exact h
  · rw [show Char.ofNat n = _ from dif_neg hvalid] at h
    cases h

theorem composed_of_isKeyword {s : String} (h : isKeyword (composed s) = true) :
    composed s = s := by
  by_cases hascii : isAscii s = true
  · exact composed_of_isAscii hascii
  · exfalso
    obtain ⟨c, hc, hlarge⟩ : ∃ c ∈ s.toList, ¬ c.toNat < 0x80 := by
      simpa [isAscii] using hascii
    have hmem : c.toNat ∈ joinRuns 0 (s.toList.map (·.toNat)) :=
      mem_joinRuns (List.mem_map_of_mem hc)
    have hrough : isLetterCode c.toNat = false := isLetterCode_of_gt (by omega)
    obtain ⟨n, hn, hrough⟩ := rough_takeApart maxSplits hrough
    obtain ⟨m, hm, hrough⟩ := rough_joinMarks
      ⟨n, mem_orderMarks.mpr (List.mem_flatMap.mpr ⟨_, hmem, hn⟩), hrough⟩
    have hletter : isLetterCode (Char.ofNat m).toNat = true := by
      apply isLetterCode_of_mem h
      rw [composed, if_neg hascii, String.toList_ofList]
      exact List.mem_map_of_mem hm
    rw [isLetterCode_of_ofNat hletter] at hrough
    cases hrough

end SierraCasm.Text

namespace SierraCasm.Document

open Text (isKeyword isLetterCode isLetterCode_of_mem isLetterCode_bounds ne_of_isLetterCode)

/-! ### Keywords -/

section keyword

variable {s : String} (hs : isKeyword s = true)
include hs

theorem isSpelling_of_isKeyword : Json.IsSpelling s.toList := by
  have hletters := isLetterCode_of_mem hs
  generalize s.toList = cs at hletters ⊢
  induction cs with
  | nil => exact .nil
  | cons c cs ih =>
    rw [List.forall_mem_cons] at hletters
    exact .char (ne_of_isLetterCode hletters.1 _ (by decide))
      (ne_of_isLetterCode hletters.1 _ (by decide)) (isLetterCode_bounds hletters.1).1
      (ih hletters.2)

theorem escaped_of_isKeyword (markup : Bool) : Json.escaped markup s = s := by
  have hplain : ∀ c ∈ s.toList, Json.isMarkup c = false := by
    intro c hc
    have hletter := isLetterCode_of_mem hs c hc
    simp only [Json.isMarkup, List.mem_cons, List.not_mem_nil, or_false, decide_eq_false_iff_not,
      not_or]
    refine ⟨?_, ?_, ?_, ?_, ?_⟩ <;> exact ne_of_isLetterCode hletter _ (by decide)
  rw [← String.toList_inj, Json.toList_escaped, Json.flatMap_writeChar_of_not_isMarkup _ hplain]

theorem contents_of_isKeyword : Json.contents s = s.toList.map some := by
  have hunits : Json.units s.toList = s.toList.map .char := by
    have hletters := isLetterCode_of_mem hs
    generalize s.toList = cs at hletters ⊢
    induction cs with
    | nil => rfl
    | cons c cs ih =>
      rw [List.forall_mem_cons] at hletters
      rw [Json.units_cons (ne_of_isLetterCode hletters.1 _ (by decide)), ih hletters.2,
        List.map_cons]
  rw [Json.contents, hunits, Json.joinPairs_map_char]

theorem content?_of_isKeyword : Json.content? s = some s := by
  rw [Json.content?, contents_of_isKeyword hs, Json.mapM_id_map_some, Option.map_some,
    String.ofList_toList]

theorem content_of_isKeyword : Json.content s = s := Json.content_of_content? (content?_of_isKeyword hs)

end keyword

/-- A keyword is the only key that means its member. -/
theorem Key.label_eq_field {key keyword : String} (h : Text.isKeyword keyword = true) :
    Key.label key = .field keyword ↔ key = keyword := by
  unfold Key.label Label.field
  constructor
  · intro hlabel
    split at hlabel
    · exact congrArg Label.text hlabel
    · obtain rfl : Text.composed key = keyword := congrArg Label.text hlabel
      exact (Text.composed_of_isKeyword h).symm
  · rintro rfl
    have hletters := Text.isLetterCode_of_mem h
    have hascii : Text.isAscii key = true := List.all_eq_true.mpr fun c hc =>
      decide_eq_true (Text.isLetterCode_bounds (hletters c hc)).2
    have hhead : (key.toList.head? == some '#') = false := by
      cases hcs : key.toList with
      | nil => rfl
      | cons c cs =>
        simpa using Text.ne_of_isLetterCode (hletters c (hcs ▸ List.mem_cons_self)) '#' (by decide)
    rw [hhead, Text.composed_of_isAscii hascii, ite_self]

end SierraCasm.Document
