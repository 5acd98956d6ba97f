import SierraCasm.Text.Decimal

/-! # Decimal integers are read back

The decimal digits of an integer spell it (`intOfString?_toString`).  They are also told apart from
what follows them, as long as that starts with another character (`append_decimal_inj`). -/

namespace SierraCasm

open Text

/-! ### Digits spell a number -/

theorem toList_toString (n : Nat) : (toString n).toList = Nat.toDigits 10 n := Nat.toList_repr

theorem isDigit_digitChar {k : Nat} (hk : k < 10) : isDigit k.digitChar = true := by
  have hdigits : ∀ k : Fin 10, isDigit (Nat.digitChar k.val) = true := by decide
  exact hdigits ⟨k, hk⟩

theorem isDigit_of_mem_toDigits {n : Nat} : ∀ c ∈ Nat.toDigits 10 n, isDigit c = true := by
  induction n using Nat.base_induction 10 (by decide) with
  | single m hm =>
    rw [Nat.toDigits_of_lt_base hm]
    simpa using isDigit_digitChar hm
  | digit m k hk hm ih =>
    rw [← Nat.toDigits_append_toDigits (by decide) hm hk, Nat.toDigits_of_lt_base hk]
    intro c hc
    rcases List.mem_append.mp hc with hc | hc
    · exact ih c hc
    · rw [List.mem_singleton.mp hc]
      exact isDigit_digitChar hk

theorem natOfChars?_toDigits (n : Nat) : natOfChars? (Nat.toDigits 10 n) = some n := by
  have hdigits : (Nat.toDigits 10 n).all isDigit = true :=
    List.all_eq_true.mpr isDigit_of_mem_toDigits
  have hvalue : ofDigits (Nat.toDigits 10 n) = n :=
    Nat.ofDigitChars_eq_foldl.symm.trans Nat.ofDigitChars_ten_toDigits
  simp [natOfChars?, hdigits, hvalue, Nat.toDigits_ne_nil]

theorem natOfChars?_toString (n : Nat) : natOfChars? (toString n).toList = some n := by
  rw [toList_toString, natOfChars?_toDigits]

theorem intOfChars?_of_isDigit {cs : List Char} (h : ∀ c ∈ cs, isDigit c = true) :
    intOfChars? cs = (natOfChars? cs).map Int.ofNat := by
  unfold intOfChars?
  split
  case h_1 => exact absurd (h '+' List.mem_cons_self) (by decide)
  case h_2 => exact absurd (h '-' List.mem_cons_self) (by decide)
  case h_3 => rfl

theorem intOfString?_toString (n : Int) : intOfString? (toString n) = some n := by
  rw [intOfString?]
  cases n with
  | ofNat n =>
    show intOfChars? (toString n).toList = _
    rw [toList_toString, intOfChars?_of_isDigit isDigit_of_mem_toDigits, natOfChars?_toDigits]
    rfl
  | negSucc n =>
    show intOfChars? ("-" ++ toString (n + 1)).toList = _
    rw [String.toList_append]
    show intOfChars? ('-' :: (toString (n + 1)).toList) = _
    rw [intOfChars?, natOfChars?_toString]
    rfl

theorem toString_inj {m n : Int} (h : toString m = toString n) : m = n := by
  have hm := intOfString?_toString m
  rw [h, intOfString?_toString] at hm
  exact (Option.some.inj hm).symm

/-! ### Where an integer ends -/

/-- A character of a decimal integer. -/
def isDecimal (c : Char) : Bool := c == '-' || isDigit c

theorem isDecimal_of_mem {n : Int} : ∀ c ∈ (toString n).toList, isDecimal c = true := by
  have hdigits : ∀ k : Nat, ∀ c ∈ (toString k).toList, isDecimal c = true := by
    intro k c hc
    rw [toList_toString] at hc
    simp [isDecimal, isDigit_of_mem_toDigits c hc]
  cases n with
  | ofNat n => exact hdigits n
  | negSucc n =>
    show ∀ c ∈ ("-" ++ toString (n + 1)).toList, isDecimal c = true
    intro c hc
    rw [String.toList_append] at hc
    rcases List.mem_append.mp hc with hc | hc
    · rw [List.mem_singleton.mp hc]
      decide
    · exact hdigits (n + 1) c hc

theorem toList_toString_ne_nil (n : Int) : (toString n).toList ≠ [] := by
  intro hnil
  have h := intOfString?_toString n
  rw [intOfString?, hnil] at h
  cases h

/-- A text that starts with no character of a kind. -/
def StartsOutside (kind : Char → Bool) (cs : List Char) : Prop :=
  ∀ c ∈ cs.head?, kind c = false

theorem startsOutside_cons {kind : Char → Bool} {c : Char} (h : kind c = false) (cs : List Char) :
    StartsOutside kind (c :: cs) := by
  intro d hd
  cases hd
  exact h

/-- Two texts of one kind of characters, each followed by another character or by nothing, are the
same if the whole is. -/
theorem append_inj_of_kind {kind : Char → Bool} {s t xs ys : List Char}
    (hs : ∀ c ∈ s, kind c = true) (ht : ∀ c ∈ t, kind c = true) (hxs : StartsOutside kind xs)
    (hys : StartsOutside kind ys) (h : s ++ xs = t ++ ys) : s = t ∧ xs = ys := by
  have hrun : ∀ {s xs : List Char}, (∀ c ∈ s, kind c = true) → StartsOutside kind xs →
      (s ++ xs).takeWhile kind = s := by
    intro s xs hs hxs
    rw [List.takeWhile_append_of_pos hs]
    cases xs with
    | nil => simp
    | cons x xs => simp [hxs x rfl]
  have heq : s = t := by
    rw [← hrun hs hxs, h, hrun ht hys]
  subst heq
  exact ⟨rfl, List.append_cancel_left h⟩

theorem append_decimal_inj {m n : Int} {xs ys : List Char} (hxs : StartsOutside isDecimal xs)
    (hys : StartsOutside isDecimal ys)
    (h : (toString m).toList ++ xs = (toString n).toList ++ ys) : m = n ∧ xs = ys := by
  obtain ⟨htext, hrest⟩ := append_inj_of_kind isDecimal_of_mem isDecimal_of_mem hxs hys h
  exact ⟨toString_inj (String.toList_inj.mp htext), hrest⟩

end SierraCasm
