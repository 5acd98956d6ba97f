/-! # Checks

A check is a computation that either passes or stops with an error; the first error wins. -/

namespace SierraCasm

variable {ε α β : Type}

/-- Passes if the condition holds. -/
def require (condition : Bool) (error : ε) : Except ε Unit :=
  if condition then .ok () else .error error

/-- Checks the elements of a list from left to right. -/
def checkAll (check : α → Except ε Unit) : List α → Except ε Unit
  | [] => .ok ()
  | x :: xs => do
    check x
    checkAll check xs

theorem bind_eq_ok {x : Except ε α} {f : α → Except ε β} {b : β} :
    x >>= f = .ok b ↔ ∃ a, x = .ok a ∧ f a = .ok b := by
  cases x with
  | error e => simp [bind, Except.bind]
  | ok a => simp [bind, Except.bind]

theorem bind_eq_error {x : Except ε α} {f : α → Except ε β} {e : ε} :
    x >>= f = .error e ↔ x = .error e ∨ ∃ a, x = .ok a ∧ f a = .error e := by
  cases x with
  | error e => simp [bind, Except.bind]
  | ok a => simp [bind, Except.bind]

theorem check_bind_eq_ok {x : Except ε Unit} {f : Unit → Except ε β} {b : β} :
    x >>= f = .ok b ↔ x = .ok () ∧ f () = .ok b := by
  cases x with
  | error e => simp [bind, Except.bind]
  | ok u => simp [bind, Except.bind]

theorem mapError_eq_ok {ε' : Type} {x : Except ε α} {f : ε → ε'} {a : α} :
    x.mapError f = .ok a ↔ x = .ok a := by
  cases x with
  | error e =>
    constructor
    · intro h
      cases h
    · intro h
      cases h
  | ok b =>
    constructor
    · intro h
      cases h
      rfl
    · intro h
      cases h
      rfl

theorem mapError_eq_error {ε' : Type} {x : Except ε α} {f : ε → ε'} {e' : ε'} :
    x.mapError f = .error e' ↔ ∃ e, x = .error e ∧ f e = e' := by
  cases x with
  | error e =>
    constructor
    · intro h
      cases h
      exact ⟨e, rfl, rfl⟩
    · rintro ⟨_, ⟨⟩, rfl⟩
      rfl
  | ok a =>
    constructor
    · intro h
      cases h
    · rintro ⟨_, ⟨⟩, -⟩

theorem exists_of_toOption_any {x : Except ε α} {test : α → Bool}
    (h : x.toOption.any test = true) : ∃ a, x = .ok a ∧ test a = true := by
  cases x with
  | error e => cases h
  | ok a => exact ⟨a, rfl, h⟩

/-- A computation stops with errors of one kind only. -/
def StopsOnly (P : ε → Prop) (x : Except ε α) : Prop := ∀ e, x = .error e → P e

namespace StopsOnly

variable {P : ε → Prop} {x : Except ε α}

theorem ok {a : α} : StopsOnly P (.ok a : Except ε α) := fun _ h => by cases h

theorem error {e : ε} (h : P e) : StopsOnly P (.error e : Except ε α) := fun _ h' => by
  cases h'
  exact h

theorem bind {f : α → Except ε β} (hx : StopsOnly P x) (hf : ∀ a, x = .ok a → StopsOnly P (f a)) :
    StopsOnly P (x >>= f) := by
  cases x with
  | error e => exact .error (hx e rfl)
  | ok a => exact hf a rfl

theorem mapError {ε' : Type} {Q : ε' → Prop} {f : ε → ε'} (hx : StopsOnly P x)
    (h : ∀ e, P e → Q (f e)) : StopsOnly Q (x.mapError f) := by
  cases x with
  | error e => exact .error (h e (hx e rfl))
  | ok a => exact .ok

theorem require {c : Bool} {e : ε} (h : P e) : StopsOnly P (SierraCasm.require c e) := by
  cases c with
  | false => exact .error h
  | true => exact .ok

end StopsOnly

@[simp] theorem require_eq_ok (c : Bool) (e : ε) : require c e = .ok () ↔ c = true := by
  cases c <;> simp [require]

theorem checkAll_eq_ok (check : α → Except ε Unit) (xs : List α) :
    checkAll check xs = .ok () ↔ ∀ x ∈ xs, check x = .ok () := by
  induction xs with
  | nil => simp [checkAll]
  | cons x xs ih =>
    cases h : check x with
    | error e => simp [checkAll, bind, Except.bind, h]
    | ok u => simp [checkAll, bind, Except.bind, h, ih]

end SierraCasm
