/-! # The Stark field

`Felt` is the field of integers modulo the Stark prime `2^251 + 17 * 2^192 + 1`, the native
number of both languages.  An element is kept as its representative below the prime, so equality
of elements is equality of representatives.  `Felt.ofInt` reduces any integer, `Felt.signed` gives
the representative nearest to zero, which is how immediates are written. -/

namespace SierraCasm

def starkPrime : Nat := Nat.pow 2 251 + 17 * Nat.pow 2 192 + 1

theorem starkPrime_pos : 0 < starkPrime := by decide

/-- An element of the Stark field, by its representative below the prime. -/
@[ext] structure Felt where
  rep : Nat
  rep_lt : rep < starkPrime
deriving DecidableEq

namespace Felt

/-- The class of an integer. -/
def ofInt (v : Int) : Felt where
  rep := (v % starkPrime).toNat
  rep_lt := by
    have hpos : (0 : Int) < starkPrime := by exact_mod_cast starkPrime_pos
    have h := Int.emod_lt_of_pos v hpos
    have h0 := Int.emod_nonneg v (by omega : (starkPrime : Int) ≠ 0)
    omega

theorem rep_ofInt (v : Int) : ((ofInt v).rep : Int) = v % starkPrime := by
  have hpos : (0 : Int) < starkPrime := by exact_mod_cast starkPrime_pos
  have h0 := Int.emod_nonneg v (by omega : (starkPrime : Int) ≠ 0)
  simp only [ofInt]
  omega

/-- The representative nearest to zero; the two halves meet at `(p - 1) / 2`. -/
def signed (a : Felt) : Int :=
  if a.rep ≤ starkPrime / 2 then a.rep else (a.rep : Int) - starkPrime

theorem ofInt_signed (a : Felt) : ofInt a.signed = a := by
  have hpos : (0 : Int) < starkPrime := by exact_mod_cast starkPrime_pos
  have hlt := a.rep_lt
  apply Felt.ext
  have h := rep_ofInt a.signed
  have hmod : a.signed % starkPrime = a.rep := by
    unfold signed
    split
    · exact Int.emod_eq_of_lt (by omega) (by omega)
    · rw [Int.sub_emod_right]
      exact Int.emod_eq_of_lt (by omega) (by omega)
  omega

instance : Neg Felt := ⟨fun a => ofInt (-a.rep)⟩
instance : Add Felt := ⟨fun a b => ofInt (a.rep + b.rep)⟩
instance : Sub Felt := ⟨fun a b => ofInt ((a.rep : Int) - b.rep)⟩
instance : Mul Felt := ⟨fun a b => ofInt ((a.rep : Int) * b.rep)⟩

/-! ### Reduction respects the operations -/

theorem ofInt_emod (v : Int) : ofInt (v % starkPrime) = ofInt v := by
  simp [ofInt]

theorem neg_ofInt (v : Int) : -ofInt v = ofInt (-v) := by
  change ofInt (-(ofInt v).rep) = ofInt (-v)
  rw [rep_ofInt, ← ofInt_emod, ← ofInt_emod (-v)]
  congr 1
  have h := Int.sub_emod 0 v starkPrime
  have h' := Int.sub_emod 0 (v % starkPrime) starkPrime
  rw [Int.emod_emod] at h'
  rw [← Int.zero_sub, ← Int.zero_sub, h', h]

theorem ofInt_add_ofInt (v w : Int) : ofInt v + ofInt w = ofInt (v + w) := by
  change ofInt ((ofInt v).rep + (ofInt w).rep) = ofInt (v + w)
  rw [rep_ofInt, rep_ofInt, ← ofInt_emod, ← Int.add_emod, ofInt_emod]

theorem ofInt_sub_ofInt (v w : Int) : ofInt v - ofInt w = ofInt (v - w) := by
  change ofInt ((ofInt v).rep - (ofInt w).rep) = ofInt (v - w)
  rw [rep_ofInt, rep_ofInt, ← ofInt_emod, ← Int.sub_emod, ofInt_emod]

theorem ofInt_mul_ofInt (v w : Int) : ofInt v * ofInt w = ofInt (v * w) := by
  change ofInt ((ofInt v).rep * (ofInt w).rep) = ofInt (v * w)
  rw [rep_ofInt, rep_ofInt, ← ofInt_emod, ← Int.mul_emod, ofInt_emod]

/-- Constants of the field may be written with any integer strictly between `-p` and `p`. -/
def inRange (v : Int) : Bool := v.natAbs < starkPrime

theorem inRange_iff (v : Int) : inRange v = true ↔ -(starkPrime : Int) < v ∧ v < starkPrime := by
  simp only [inRange, decide_eq_true_eq]
  omega

/-- The signed decimal text of an element. -/
def render (a : Felt) : String := toString a.signed

end Felt

end SierraCasm
