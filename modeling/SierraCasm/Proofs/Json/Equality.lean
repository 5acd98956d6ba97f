import SierraCasm.Json.Basic

/-! # Equality of JSON trees

Whether two trees are the same, texts included, can be decided (`isSame_iff`). -/

namespace SierraCasm.Json

mutual

/-- Two trees are the same. -/
def isSame : Json → Json → Bool
  | .null, .null => true
  | .bool a, .bool b => a == b
  | .num a, .num b => a == b
  | .str a, .str b => a == b
  | .arr t xs, .arr u ys => t == u && sameItems xs ys
  | .obj t ms, .obj u ns => t == u && sameMembers ms ns
  | _, _ => false

def sameItems : List Json → List Json → Bool
  | [], [] => true
  | x :: xs, y :: ys => isSame x y && sameItems xs ys
  | _, _ => false

def sameMembers : List (String × Json) → List (String × Json) → Bool
  | [], [] => true
  | (k, x) :: ms, (l, y) :: ns => k == l && isSame x y && sameMembers ms ns
  | _, _ => false

end

theorem sameItems_iff {xs ys : List Json} (h : ∀ x ∈ xs, ∀ y, isSame x y = true ↔ x = y) :
    sameItems xs ys = true ↔ xs = ys := by
  induction xs generalizing ys with
  | nil => cases ys <;> simp [sameItems]
  | cons x xs ih =>
    obtain ⟨hx, hxs⟩ := List.forall_mem_cons.mp h
    cases ys with
    | nil => simp [sameItems]
    | cons y ys => simp [sameItems, hx, ih hxs]

theorem sameMembers_iff {ms ns : List (String × Json)}
    (h : ∀ m ∈ ms, ∀ y, isSame m.2 y = true ↔ m.2 = y) :
    sameMembers ms ns = true ↔ ms = ns := by
  induction ms generalizing ns with
  | nil => cases ns <;> simp [sameMembers]
  | cons m ms ih =>
    obtain ⟨hm, hms⟩ := List.forall_mem_cons.mp h
    obtain ⟨k, x⟩ := m
    cases ns with
    | nil => simp [sameMembers]
    | cons n ns =>
      obtain ⟨l, y⟩ := n
      simp [sameMembers, hm, ih hms]

theorem isSame_iff (a b : Json) : isSame a b = true ↔ a = b := by
  induction hsize : sizeOf a using Nat.strongRecOn generalizing a b with
  | ind n ih =>
    subst hsize
    cases a with
    | arr t xs =>
      have hxs : ∀ x ∈ xs, ∀ y, isSame x y = true ↔ x = y := by
        intro x hx y
        have hlt := List.sizeOf_lt_of_mem hx
        exact ih (sizeOf x) (by simp only [arr.sizeOf_spec]; omega) x y rfl
      cases b <;> simp [isSame, sameItems_iff hxs]
    | obj t ms =>
      have hms : ∀ m ∈ ms, ∀ y, isSame m.2 y = true ↔ m.2 = y := by
        intro m hm y
        have hlt := List.sizeOf_lt_of_mem hm
        obtain ⟨k, x⟩ := m
        simp only [Prod.mk.sizeOf_spec] at hlt
        exact ih (sizeOf x) (by simp only [obj.sizeOf_spec]; omega) x y rfl
      cases b <;> simp [isSame, sameMembers_iff hms]
    | _ => cases b <;> simp [isSame]

instance : DecidableEq Json := fun a b => decidable_of_iff _ (isSame_iff a b)

end SierraCasm.Json
