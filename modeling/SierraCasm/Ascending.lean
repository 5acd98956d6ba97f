/-! # Ascending lists of numbers

Finite sets of numbers as strictly ascending lists. -/

namespace SierraCasm.Ascending

/-- Adds a number unless it is there. -/
def insert (n : Nat) : List Nat → List Nat
  | [] => [n]
  | m :: ms =>
    if n < m then n :: m :: ms
    else if n = m then m :: ms
    else m :: insert n ms

/-- The numbers of a list, without repetition. -/
def ofList (ns : List Nat) : List Nat := ns.foldr insert []

theorem mem_insert (n k : Nat) (ms : List Nat) : k ∈ insert n ms ↔ k = n ∨ k ∈ ms := by
  induction ms with
  | nil => simp [insert]
  | cons m ms ih =>
    simp only [insert]
    split
    · simp
    · split
      · rename_i _ h
        simp [h]
      · simp only [List.mem_cons, ih]
        grind

theorem pairwise_insert (n : Nat) (ms : List Nat) (h : ms.Pairwise (· < ·)) :
    (insert n ms).Pairwise (· < ·) := by
  induction ms with
  | nil => simp [insert]
  | cons m ms ih =>
    simp only [insert]
    split
    · rename_i hlt
      have := List.pairwise_cons.mp h
      refine List.pairwise_cons.mpr ⟨?_, h⟩
      intro k hk
      rcases List.mem_cons.mp hk with rfl | hk
      · exact hlt
      · exact Nat.lt_trans hlt (this.1 k hk)
    · split
      · exact h
      · have := List.pairwise_cons.mp h
        refine List.pairwise_cons.mpr ⟨?_, ih this.2⟩
        intro k hk
        rcases (mem_insert n k ms).mp hk with rfl | hk
        · omega
        · exact this.1 k hk

theorem mem_ofList (k : Nat) (ns : List Nat) : k ∈ ofList ns ↔ k ∈ ns := by
  induction ns with
  | nil => simp [ofList]
  | cons n ns ih =>
    simp only [ofList, List.foldr_cons, List.mem_cons] at ih ⊢
    rw [mem_insert, ih]

theorem pairwise_ofList (ns : List Nat) : (ofList ns).Pairwise (· < ·) := by
  induction ns with
  | nil => simp [ofList]
  | cons n ns ih => exact pairwise_insert n _ ih

end SierraCasm.Ascending
