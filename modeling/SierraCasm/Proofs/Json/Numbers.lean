import SierraCasm.Json.Lexer
import SierraCasm.Proofs.Text.Decimal

/-! # Written integers

The decimal digits of an integer are a number of JSON: there is no leading zero. -/

namespace SierraCasm

namespace Json

theorem step_digit {k : Nat} (hk : k < 10) :
    NumberState.digits.step k.digitChar = some .digits := by
  have hdigits : ∀ k : Fin 10,
      NumberState.digits.step (Nat.digitChar k.val) = some .digits := by decide
  exact hdigits ⟨k, hk⟩

theorem step_firstDigit {s : NumberState} (hs : s = .start ∨ s = .sign) {k : Nat} (hpos : 0 < k)
    (hk : k < 10) : s.step k.digitChar = some .digits := by
  have hdigits : ∀ k : Fin 10, 0 < k.val →
      NumberState.start.step (Nat.digitChar k.val) = some .digits ∧
        NumberState.sign.step (Nat.digitChar k.val) = some .digits := by decide
  rcases hs with rfl | rfl
  · exact (hdigits ⟨k, hk⟩ hpos).1
  · exact (hdigits ⟨k, hk⟩ hpos).2

theorem foldlM_toDigits {s : NumberState} (hs : s = .start ∨ s = .sign) {n : Nat} (hn : 0 < n) :
    (Nat.toDigits 10 n).foldlM NumberState.step s = some .digits := by
  induction n using Nat.base_induction 10 (by decide) with
  | single m hm =>
    rw [Nat.toDigits_of_lt_base hm, List.foldlM_cons, step_firstDigit hs hn hm]
    rfl
  | digit m k hk hm ih =>
    rw [← Nat.toDigits_append_toDigits (by decide) hm hk, Nat.toDigits_of_lt_base hk,
      List.foldlM_append, ih hm]
    show [k.digitChar].foldlM NumberState.step .digits = _
    rw [List.foldlM_cons, step_digit hk]
    rfl

theorem isNumber_toString (n : Int) : isNumber (toString n).toList = true := by
  cases n with
  | ofNat n =>
    show isNumber (toString n).toList = true
    rcases Nat.eq_zero_or_pos n with rfl | hn
    · decide
    · rw [toList_toString, isNumber, foldlM_toDigits (.inl rfl) hn]
      rfl
  | negSucc n =>
    show isNumber ("-" ++ toString (n + 1)).toList = true
    rw [String.toList_append, toList_toString]
    show ((Nat.toDigits 10 (n + 1)).foldlM NumberState.step .sign).any NumberState.final = true
    rw [foldlM_toDigits (.inr rfl) n.succ_pos]
    rfl

end Json

end SierraCasm
