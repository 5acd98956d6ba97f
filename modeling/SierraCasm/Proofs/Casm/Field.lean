import Mathlib.Algebra.Ring.Int.Defs
import Mathlib.Data.Int.Cast.Lemmas
import Mathlib.Tactic.Ring
import SierraCasm.Felt

/-! # The ring of field elements

Addresses and values of the machine are elements of the Stark field.  Reduction respects the
operations, so the laws of a commutative ring hold because they hold for integers; the class of an
integer is its cast. -/

namespace SierraCasm.Felt

instance : Zero Felt := ⟨ofInt 0⟩
instance : One Felt := ⟨ofInt 1⟩
instance : NatCast Felt := ⟨fun n => ofInt n⟩
instance : IntCast Felt := ⟨ofInt⟩

theorem exists_ofInt (a : Felt) : ∃ v : Int, ofInt v = a := ⟨a.signed, ofInt_signed a⟩

instance : CommRing Felt where
  add_assoc a b c := by
    obtain ⟨a, rfl⟩ := exists_ofInt a
    obtain ⟨b, rfl⟩ := exists_ofInt b
    obtain ⟨c, rfl⟩ := exists_ofInt c
    simp only [ofInt_add_ofInt, Int.add_assoc]
  zero_add a := by
    obtain ⟨a, rfl⟩ := exists_ofInt a
    exact (ofInt_add_ofInt 0 a).trans (by rw [Int.zero_add])
  add_zero a := by
    obtain ⟨a, rfl⟩ := exists_ofInt a
    exact (ofInt_add_ofInt a 0).trans (by rw [Int.add_zero])
  add_comm a b := by
    obtain ⟨a, rfl⟩ := exists_ofInt a
    obtain ⟨b, rfl⟩ := exists_ofInt b
    rw [ofInt_add_ofInt, ofInt_add_ofInt, Int.add_comm]
  mul_assoc a b c := by
    obtain ⟨a, rfl⟩ := exists_ofInt a
    obtain ⟨b, rfl⟩ := exists_ofInt b
    obtain ⟨c, rfl⟩ := exists_ofInt c
    simp only [ofInt_mul_ofInt, Int.mul_assoc]
  one_mul a := by
    obtain ⟨a, rfl⟩ := exists_ofInt a
    exact (ofInt_mul_ofInt 1 a).trans (by rw [Int.one_mul])
  mul_one a := by
    obtain ⟨a, rfl⟩ := exists_ofInt a
    exact (ofInt_mul_ofInt a 1).trans (by rw [Int.mul_one])
  zero_mul a := by
    obtain ⟨a, rfl⟩ := exists_ofInt a
    exact (ofInt_mul_ofInt 0 a).trans (by rw [Int.zero_mul]; rfl)
  mul_zero a := by
    obtain ⟨a, rfl⟩ := exists_ofInt a
    exact (ofInt_mul_ofInt a 0).trans (by rw [Int.mul_zero]; rfl)
  mul_comm a b := by
    obtain ⟨a, rfl⟩ := exists_ofInt a
    obtain ⟨b, rfl⟩ := exists_ofInt b
    rw [ofInt_mul_ofInt, ofInt_mul_ofInt, Int.mul_comm]
  left_distrib a b c := by
    obtain ⟨a, rfl⟩ := exists_ofInt a
    obtain ⟨b, rfl⟩ := exists_ofInt b
    obtain ⟨c, rfl⟩ := exists_ofInt c
    simp only [ofInt_add_ofInt, ofInt_mul_ofInt, Int.mul_add]
  right_distrib a b c := by
    obtain ⟨a, rfl⟩ := exists_ofInt a
    obtain ⟨b, rfl⟩ := exists_ofInt b
    obtain ⟨c, rfl⟩ := exists_ofInt c
    simp only [ofInt_add_ofInt, ofInt_mul_ofInt, Int.add_mul]
  neg_add_cancel a := by
    obtain ⟨a, rfl⟩ := exists_ofInt a
    rw [neg_ofInt, ofInt_add_ofInt, Int.add_left_neg]
    rfl
  sub_eq_add_neg a b := by
    obtain ⟨a, rfl⟩ := exists_ofInt a
    obtain ⟨b, rfl⟩ := exists_ofInt b
    rw [ofInt_sub_ofInt, neg_ofInt, ofInt_add_ofInt, Int.sub_eq_add_neg]
  nsmul := nsmulRec
  zsmul := zsmulRec
  natCast_zero := rfl
  natCast_succ n := by
    change ofInt (n + 1 : Nat) = ofInt n + ofInt 1
    rw [ofInt_add_ofInt, Nat.cast_succ]
  intCast_ofNat _ := rfl
  intCast_negSucc n := by
    change ofInt (Int.negSucc n) = -ofInt (n + 1 : Nat)
    rw [neg_ofInt, Int.negSucc_eq, Nat.cast_succ]

@[simp] theorem ofInt_eq_cast (v : Int) : ofInt v = (v : Felt) := rfl

theorem rep_natCast {n : Nat} (h : n < starkPrime) : (n : Felt).rep = n := by
  have hrep : (((n : Int) : Felt).rep : Int) = (n : Int) % starkPrime := rep_ofInt n
  rw [Int.emod_eq_of_lt (Int.natCast_nonneg n) (Int.ofNat_lt.mpr h)] at hrep
  exact_mod_cast hrep

end SierraCasm.Felt
