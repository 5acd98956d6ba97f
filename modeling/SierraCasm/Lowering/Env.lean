import SierraCasm.Lowering.Reference
import SierraCasm.Sierra.Render

/-! # Environments

The variables that are alive at a statement, with their values.  Bindings are kept in ascending
order of the variables' numbers, so an environment is determined by its look-ups. -/

namespace SierraCasm.Lowering

open Sierra

/-- The variables alive at a statement. -/
structure Env where
  bindings : List (VarId × Ref) := []
deriving DecidableEq, Repr

namespace Env

def find? (e : Env) (v : VarId) : Option Ref :=
  (e.bindings.find? fun b => b.1 == v).map (·.2)

def erase (e : Env) (v : VarId) : Env := ⟨e.bindings.filter fun b => b.1 != v⟩

/-- Puts a binding at its place. -/
def insertBinding (v : VarId) (r : Ref) : List (VarId × Ref) → List (VarId × Ref)
  | [] => [(v, r)]
  | b :: bs =>
    if v.id < b.1.id then (v, r) :: b :: bs
    else if v = b.1 then (v, r) :: bs
    else b :: insertBinding v r bs

def insert (e : Env) (v : VarId) (r : Ref) : Env := ⟨insertBinding v r e.bindings⟩

def vars (e : Env) : List VarId := e.bindings.map (·.1)

/-! ### Look-ups -/

theorem find?_insert_self (e : Env) (v : VarId) (r : Ref) : (e.insert v r).find? v = some r := by
  simp only [find?, insert]
  induction e.bindings with
  | nil => simp [insertBinding]
  | cons b bs ih =>
    simp only [insertBinding]
    split
    · simp
    · split
      · simp
      · rename_i hne
        rw [List.find?_cons_of_neg (by simpa using fun h => hne h.symm)]
        exact ih

theorem find?_insert_of_ne (e : Env) {v w : VarId} (h : w ≠ v) (r : Ref) :
    (e.insert v r).find? w = e.find? w := by
  have hv : (v == w) = false := by simpa using fun h' => h h'.symm
  simp only [find?, insert]
  induction e.bindings with
  | nil => simp [insertBinding, hv]
  | cons b bs ih =>
    simp only [insertBinding]
    split
    · simp [List.find?_cons, hv]
    · split
      · rename_i heq
        simp [← heq, hv]
      · simp only [List.find?_cons]
        split
        · rfl
        · exact ih

theorem find?_erase_self (e : Env) (v : VarId) : (e.erase v).find? v = none := by
  simp [find?, erase]

theorem find?_erase_of_ne (e : Env) {v w : VarId} (h : w ≠ v) :
    (e.erase v).find? w = e.find? w := by
  simp only [find?, erase]
  induction e.bindings with
  | nil => rfl
  | cons b bs ih =>
    by_cases hb : b.1 = v
    · rw [List.filter_cons_of_neg (by simp [hb]), List.find?_cons_of_neg
        (by simpa [hb] using fun h' => h h'.symm)]
      exact ih
    · simp only [List.filter_cons, bne_iff_ne, ne_eq, hb, not_false_eq_true, ite_true,
        List.find?_cons]
      split
      · rfl
      · exact ih

/-! ### The order of the bindings -/

/-- The bindings ascend strictly. -/
def Ordered (e : Env) : Prop := e.vars.Pairwise (·.id < ·.id)

theorem ordered_empty : Ordered {} := List.Pairwise.nil

theorem Ordered.erase {e : Env} (h : e.Ordered) (v : VarId) : (e.erase v).Ordered := by
  simp only [Ordered, vars, Env.erase, List.pairwise_map] at h ⊢
  exact h.filter _

theorem mem_vars_insert (e : Env) (v w : VarId) (r : Ref) :
    w ∈ (e.insert v r).vars ↔ w = v ∨ w ∈ e.vars := by
  simp only [vars, insert]
  induction e.bindings with
  | nil => simp [insertBinding]
  | cons b bs ih =>
    simp only [insertBinding]
    split
    · simp
    · split
      · rename_i heq
        simp [← heq]
      · simp only [List.map_cons, List.mem_cons, ih]
        exact or_left_comm

theorem Ordered.insert {e : Env} (h : e.Ordered) (v : VarId) (r : Ref) :
    (e.insert v r).Ordered := by
  obtain ⟨bindings⟩ := e
  simp only [Ordered, vars, Env.insert] at h ⊢
  induction bindings with
  | nil => simp [insertBinding]
  | cons b bs ih =>
    rw [List.map_cons, List.pairwise_cons] at h
    simp only [insertBinding]
    split
    · rename_i hlt
      rw [List.map_cons, List.map_cons, List.pairwise_cons, List.pairwise_cons]
      refine ⟨fun w hw => ?_, h⟩
      rcases List.mem_cons.1 hw with rfl | hw
      · exact hlt
      · exact UInt64.lt_trans hlt (h.1 w hw)
    · split
      · rename_i heq
        rw [List.map_cons, List.pairwise_cons]
        exact ⟨by simpa [heq] using h.1, h.2⟩
      · rename_i hlt hne
        rw [List.map_cons, List.pairwise_cons]
        refine ⟨fun w hw => ?_, ih h.2⟩
        rcases (mem_vars_insert ⟨bs⟩ v w r).1 hw with rfl | hw
        · have hid : w.id ≠ b.1.id := fun hid => hne (by cases w; cases hb : b.1; simp_all)
          exact UInt64.lt_of_le_of_ne (UInt64.not_lt.1 hlt) hid.symm
        · exact h.1 w hw

/-- Two environments bind the same variables to references that agree. -/
def same (a b : Env) : Bool :=
  a.vars == b.vars && (a.bindings.zip b.bindings).all fun p => p.1.2.same p.2.2

/-- The environment after the end of an epoch. -/
def invalidateAp (e : Env) : Env := ⟨e.bindings.map fun b => (b.1, b.2.invalidateAp)⟩

end Env

/-- Variables, given in ascending order, as a message lists them: numbers are read as signed 64-bit
integers and listed in the order of these. -/
def renderLive (vars : List VarId) : String :=
  let numbers := vars.map fun v => v.id.toInt64
  let signed := numbers.filter (· < 0) ++ numbers.filter (0 ≤ ·)
  ", ".intercalate (signed.map fun n => "[" ++ toString n.toInt ++ "]")

end SierraCasm.Lowering
