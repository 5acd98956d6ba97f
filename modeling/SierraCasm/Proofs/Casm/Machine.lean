import Mathlib.Data.Int.GCD
import SierraCasm.Casm.Program
import SierraCasm.Proofs.Casm.Field

/-! # The CASM machine

The machine has three registers and a memory in which every cell is written at most once.  An
equation fixes the one cell in it that is not written yet, and must hold afterwards; a call pushes
the caller's `fp` and the return address, and a return takes them back.  `step` executes the
instruction at `pc`, and is undefined where the machine is stuck. -/

namespace SierraCasm.Casm

/-! ### Memory -/

/-- The cells that are written, with their values. -/
abbrev Memory := Felt → Option Felt

namespace Memory

/-- Writes a cell unless it is written. -/
def write (mem : Memory) (a x : Felt) : Memory :=
  fun b => if b = a ∧ mem b = none then some x else mem b

/-- Every cell that is written keeps its value. -/
def Keeps (mem mem' : Memory) : Prop := ∀ ⦃a x : Felt⦄, mem a = some x → mem' a = some x

theorem keeps_self (mem : Memory) : mem.Keeps mem := fun _ _ h => h

theorem Keeps.trans {mem mem' mem'' : Memory} (h : mem.Keeps mem') (h' : mem'.Keeps mem'') :
    mem.Keeps mem'' := by
  intro a x hx
  exact h' (h hx)

theorem keeps_write (mem : Memory) (a x : Felt) : mem.Keeps (mem.write a x) := by
  intro b y hy
  rw [write, if_neg (by rw [hy]; simp), hy]

theorem write_self {mem : Memory} {a : Felt} (h : mem a = none) (x : Felt) :
    mem.write a x a = some x := by
  rw [write, if_pos ⟨rfl, h⟩]

theorem write_of_ne {mem : Memory} {a b : Felt} (h : b ≠ a) (x : Felt) :
    mem.write a x b = mem b := by
  rw [write, if_neg fun hab => h hab.1]

end Memory

/-- The registers and the memory. -/
structure State where
  pc : Felt
  ap : Felt
  fp : Felt
  mem : Memory

/-! ### Operands -/

def CellRef.address (c : CellRef) (ap fp : Felt) : Felt :=
  (match c.register with | .ap => ap | .fp => fp) + Felt.ofInt c.offset.toInt

def Operand.value? (o : Operand) (ap fp : Felt) (mem : Memory) : Option Felt :=
  match o with
  | .deref c => mem (c.address ap fp)
  | .immediate v => some (Felt.ofInt v)

def Arith.apply : Arith → Felt → Felt → Felt
  | .add, x, y => x + y
  | .mul, x, y => x * y

/-- The value of a right-hand side. -/
def Res.value? (res : Res) (ap fp : Felt) (mem : Memory) : Option Felt :=
  match res with
  | .deref c => mem (c.address ap fp)
  | .doubleDeref c offset => (mem (c.address ap fp)).bind fun a => mem (a + Felt.ofInt offset.toInt)
  | .immediate v => some (Felt.ofInt v)
  | .binary op left right =>
    (mem (left.address ap fp)).bind fun x => (right.value? ap fp mem).map fun y => op.apply x y

/-! ### Equations -/

def inverse (a : Felt) : Felt := Felt.ofInt (Nat.gcdA a.rep starkPrime)

/-- The operand that gives `z` together with `y`. -/
def Arith.undo : Arith → Felt → Felt → Felt
  | .add, z, y => z - y
  | .mul, z, y => z * inverse y

/-- Writes the cell that makes a right-hand side have the value `z`, if it is the only one in it
that is not written. -/
def Res.solve (res : Res) (z ap fp : Felt) (mem : Memory) : Memory :=
  match res with
  | .deref c => mem.write (c.address ap fp) z
  | .doubleDeref c offset =>
    match mem (c.address ap fp) with
    | some a => mem.write (a + Felt.ofInt offset.toInt) z
    | none => mem
  | .immediate _ => mem
  | .binary op left right =>
    match mem (left.address ap fp), right with
    | none, right =>
      match right.value? ap fp mem with
      | some y => mem.write (left.address ap fp) (op.undo z y)
      | none => mem
    | some x, .deref c => mem.write (c.address ap fp) (op.undo z x)
    | some _, .immediate _ => mem

/-- An equation fixes the cell in it that is not written. -/
def deduce (dst : CellRef) (res : Res) (ap fp : Felt) (mem : Memory) : Memory :=
  match mem (dst.address ap fp), res.value? ap fp mem with
  | none, some x => mem.write (dst.address ap fp) x
  | some z, none => res.solve z ap fp mem
  | _, _ => mem

/-- Both sides of an equation have the same value. -/
def Holds (dst : CellRef) (res : Res) (ap fp : Felt) (mem : Memory) : Prop :=
  ∃ x, mem (dst.address ap fp) = some x ∧ res.value? ap fp mem = some x

instance (dst : CellRef) (res : Res) (ap fp : Felt) (mem : Memory) :
    Decidable (Holds dst res ap fp mem) :=
  match h : mem (dst.address ap fp) with
  | none => .isFalse fun ⟨x, hx, _⟩ => by rw [h] at hx; cases hx
  | some x => decidable_of_iff (res.value? ap fp mem = some x)
      ⟨fun hres => ⟨x, h, hres⟩, fun ⟨y, hy, hres⟩ => by rw [h] at hy; cases hy; exact hres⟩

/-- The memory after an equation, if it can be made true. -/
def assertEq (dst : CellRef) (res : Res) (ap fp : Felt) (mem : Memory) : Option Memory :=
  if Holds dst res ap fp (deduce dst res ap fp mem) then some (deduce dst res ap fp mem) else none

theorem keeps_solve (res : Res) (z ap fp : Felt) (mem : Memory) :
    mem.Keeps (res.solve z ap fp mem) := by
  unfold Res.solve
  repeat' split
  all_goals first | exact mem.keeps_self | exact mem.keeps_write _ _

theorem keeps_deduce (dst : CellRef) (res : Res) (ap fp : Felt) (mem : Memory) :
    mem.Keeps (deduce dst res ap fp mem) := by
  unfold deduce
  split
  · exact mem.keeps_write _ _
  · exact keeps_solve res _ ap fp mem
  · exact mem.keeps_self

/-- After an equation it holds, and what was written stays. -/
theorem assertEq_eq_some {dst : CellRef} {res : Res} {ap fp : Felt} {mem mem' : Memory}
    (h : assertEq dst res ap fp mem = some mem') :
    mem.Keeps mem' ∧ Holds dst res ap fp mem' := by
  unfold assertEq at h
  split at h
  · rename_i hholds
    cases h
    exact ⟨keeps_deduce dst res ap fp mem, hholds⟩
  · cases h

theorem Operand.value?_mono {o : Operand} {ap fp x : Felt} {mem mem' : Memory}
    (hmem : mem.Keeps mem') (h : o.value? ap fp mem = some x) : o.value? ap fp mem' = some x := by
  cases o with
  | deref c => exact hmem h
  | immediate v => exact h

theorem Res.value?_mono {res : Res} {ap fp x : Felt} {mem mem' : Memory}
    (hmem : mem.Keeps mem') (h : res.value? ap fp mem = some x) :
    res.value? ap fp mem' = some x := by
  cases res with
  | deref c => exact hmem h
  | doubleDeref c offset =>
    obtain ⟨a, ha, hx⟩ := Option.bind_eq_some_iff.mp h
    exact Option.bind_eq_some_iff.mpr ⟨a, hmem ha, hmem hx⟩
  | immediate v => exact h
  | binary op left right =>
    obtain ⟨y, hy, h⟩ := Option.bind_eq_some_iff.mp h
    obtain ⟨z, hz, rfl⟩ := Option.map_eq_some_iff.mp h
    refine Option.bind_eq_some_iff.mpr ⟨y, hmem hy, ?_⟩
    rw [Operand.value?_mono hmem hz, Option.map_some]

/-- An equation whose right-hand side is known fixes the cell on its left. -/
theorem assertEq_of_value {dst : CellRef} {res : Res} {ap fp x : Felt} {mem : Memory}
    (hdst : mem (dst.address ap fp) = none) (hres : res.value? ap fp mem = some x) :
    (assertEq dst res ap fp mem).isSome := by
  have hdeduce : deduce dst res ap fp mem = mem.write (dst.address ap fp) x := by
    rw [deduce, hdst, hres]
  have hholds : Holds dst res ap fp (deduce dst res ap fp mem) := by
    rw [hdeduce]
    exact ⟨x, mem.write_self hdst x, Res.value?_mono (mem.keeps_write _ x) hres⟩
  rw [assertEq, if_pos hholds, Option.isSome_some]

/-- A sum whose value and whose second operand are known fixes its first operand. -/
theorem assertEq_of_difference {dst left : CellRef} {right : Operand} {ap fp y z : Felt}
    {mem : Memory} (hdst : mem (dst.address ap fp) = some z)
    (hleft : mem (left.address ap fp) = none) (hright : right.value? ap fp mem = some y) :
    (assertEq dst (.binary .add left right) ap fp mem).isSome := by
  have hdeduce : deduce dst (.binary .add left right) ap fp mem =
      mem.write (left.address ap fp) (z - y) := by
    simp [deduce, Res.value?, Res.solve, hdst, hleft, hright, Arith.undo]
  have hkeeps := mem.keeps_write (left.address ap fp) (z - y)
  have hholds : Holds dst (.binary .add left right) ap fp
      (deduce dst (.binary .add left right) ap fp mem) := by
    refine ⟨z, ?_, ?_⟩
    · rw [hdeduce]
      exact hkeeps hdst
    · rw [hdeduce, Res.value?, mem.write_self hleft, Option.bind_some,
        Operand.value?_mono hkeeps hright, Option.map_some, Arith.apply, sub_add_cancel]
  rw [assertEq, if_pos hholds, Option.isSome_some]

/-! ### Instructions -/

/-- Executes an instruction. -/
def Instruction.exec (i : Instruction) (σ : State) : Option State :=
  let next := σ.pc + Felt.ofInt i.size
  let ap := if i.incAp then σ.ap + 1 else σ.ap
  match i.body with
  | .assertEq dst res =>
    (assertEq dst res σ.ap σ.fp σ.mem).map fun mem => { σ with pc := next, ap := ap, mem := mem }
  | .jump target =>
    (target.value? σ.ap σ.fp σ.mem).map fun d => { σ with pc := σ.pc + d, ap := ap }
  | .jumpNonZero target condition =>
    (σ.mem (condition.address σ.ap σ.fp)).bind fun x =>
      if x = 0 then some { σ with pc := next, ap := ap }
      else (target.value? σ.ap σ.fp σ.mem).map fun d => { σ with pc := σ.pc + d, ap := ap }
  | .call target =>
    (target.value? σ.ap σ.fp σ.mem).bind fun d =>
      let mem := (σ.mem.write σ.ap σ.fp).write (σ.ap + 1) next
      if mem σ.ap = some σ.fp ∧ mem (σ.ap + 1) = some next then
        some { pc := σ.pc + d, ap := ap + 2, fp := σ.ap + 2, mem := mem }
      else none
  | .ret =>
    (σ.mem (σ.fp - 1)).bind fun pc =>
      (σ.mem (σ.fp - 2)).map fun fp => { σ with pc := pc, ap := ap, fp := fp }

/-- The instruction at a distance of `n` words. -/
def fetch : List Instruction → Nat → Option Instruction
  | [], _ => none
  | i :: rest, n => if n = 0 then some i else if n < i.size then none else fetch rest (n - i.size)

def step (p : Program) (σ : State) : Option State :=
  (fetch p.instructions σ.pc.rep).bind fun i => i.exec σ

def run (p : Program) : Nat → State → Option State
  | 0, σ => some σ
  | k + 1, σ => (step p σ).bind (run p k)

/-- The program fits into memory, and its constants are there, right after its code.  The words of
the code are not read as data, so nothing is asked of the cells that they take. -/
structure Loaded (p : Program) (mem : Memory) : Prop where
  fits : p.bytecodeSize ≤ starkPrime
  constants : ∀ {k : Nat} {v : Int}, p.constants[k]? = some v →
    mem ((p.codeSize + k : Nat) : Felt) = some (Felt.ofInt v)

theorem Loaded.mono {p : Program} {mem mem' : Memory} (hmem : mem.Keeps mem') (h : Loaded p mem) :
    Loaded p mem' :=
  ⟨h.fits, fun hk => hmem (h.constants hk)⟩

theorem Loaded.codeSize_le {p : Program} {mem : Memory} (h : Loaded p mem) :
    p.codeSize ≤ starkPrime := by
  have := h.fits
  rw [Program.bytecodeSize] at this
  omega

/-! ### What holds after some steps -/

/-- The machine can go on from a state in which the two cells at the top of the stack are free. -/
def Ready (p : Program) (σ : State) : Prop :=
  σ.mem σ.ap = none → σ.mem (σ.ap + 1) = none → (step p σ).isSome

/-- In a state of `I` the machine is about to execute an instruction. -/
def Fetches (p : Program) (I : State → Prop) (σ : State) (i : Instruction) : Prop :=
  fetch p.instructions σ.pc.rep = some i ∧ I σ

/-- In `k` steps, each from a state of `I`, the machine gets from `σ` to `σ'`. -/
def Passes (p : Program) (I : State → Prop) (k : Nat) (σ σ' : State) : Prop :=
  run p k σ = some σ' ∧ ∀ j < k, ∀ τ, run p j σ = some τ → I τ

theorem Passes.nil (p : Program) (I : State → Prop) (σ : State) : Passes p I 0 σ σ :=
  ⟨rfl, by simp⟩

theorem Passes.cons {p : Program} {I : State → Prop} {k : Nat} {σ σ₁ σ' : State} (hσ : I σ)
    (hstep : step p σ = some σ₁) (h : Passes p I k σ₁ σ') : Passes p I (k + 1) σ σ' := by
  refine ⟨by rw [run, hstep, Option.bind_some, h.1], fun j hj τ hτ => ?_⟩
  cases j with
  | zero =>
    cases hτ
    exact hσ
  | succ j =>
    rw [run, hstep, Option.bind_some] at hτ
    exact h.2 j (Nat.lt_of_succ_lt_succ hj) τ hτ

/-- In every state that `k` steps lead to `Q` holds, and up to there the machine is ready, in a
state of `I`. -/
def After (p : Program) (I : State → Prop) : Nat → (State → Prop) → State → Prop
  | 0, Q, σ => Q σ
  | k + 1, Q, σ => I σ ∧ Ready p σ ∧ ∀ τ, step p σ = some τ → After p I k Q τ

namespace After

variable {p : Program} {I : State → Prop} {σ : State} {k : Nat} {Q : State → Prop}

/-- A run either stops before the `k` steps are done or passes on to a state where `Q` holds. -/
theorem run_cases (h : After p I k Q σ) {n : Nat} {τ : State} (hrun : run p n σ = some τ) :
    (Passes p I n σ τ ∧ I τ ∧ Ready p τ) ∨
      ∃ σ', k ≤ n ∧ Passes p I k σ σ' ∧ Q σ' ∧ run p (n - k) σ' = some τ := by
  induction k generalizing σ n with
  | zero => exact .inr ⟨σ, Nat.zero_le n, .nil p I σ, h, hrun⟩
  | succ k ih =>
    cases n with
    | zero =>
      cases hrun
      exact .inl ⟨.nil p I _, h.1, h.2.1⟩
    | succ n =>
      obtain ⟨σ₁, hstep, hrun⟩ := Option.bind_eq_some_iff.mp hrun
      rcases ih (h.2.2 σ₁ hstep) hrun with ⟨hpasses, hin⟩ | ⟨σ', hle, hpasses, hQ, hrest⟩
      · exact .inl ⟨hpasses.cons h.1 hstep, hin⟩
      · exact .inr ⟨σ', Nat.succ_le_succ hle, hpasses.cons h.1 hstep, hQ,
          by rwa [Nat.succ_sub_succ]⟩

theorem mono {Q' : State → Prop} (h : After p I k Q σ) (hQ : ∀ τ, Q τ → Q' τ) :
    After p I k Q' σ := by
  induction k generalizing σ with
  | zero => exact hQ σ h
  | succ k ih => exact ⟨h.1, h.2.1, fun τ hstep => ih (h.2.2 τ hstep)⟩

theorem step_eq {i : Instruction} (h : Fetches p I σ i) : step p σ = i.exec σ := by
  rw [step, h.1, Option.bind_some]

theorem assertEq {dst : CellRef} {res : Res}
    (hfetch : Fetches p I σ { body := .assertEq dst res, incAp := true })
    (hready : σ.mem σ.ap = none → (Casm.assertEq dst res σ.ap σ.fp σ.mem).isSome)
    (hnext : ∀ mem, σ.mem.Keeps mem → Holds dst res σ.ap σ.fp mem →
      After p I k Q ⟨σ.pc + Felt.ofInt (1 + res.words : Nat), σ.ap + 1, σ.fp, mem⟩) :
    After p I (k + 1) Q σ := by
  have hstep := step_eq hfetch
  refine ⟨hfetch.2, fun hap _ => ?_, fun τ hτ => ?_⟩
  · rw [hstep, Instruction.exec, Option.isSome_map]
    exact hready hap
  · rw [hstep] at hτ
    obtain ⟨mem, hmem, rfl⟩ := Option.map_eq_some_iff.mp hτ
    obtain ⟨hkeeps, hholds⟩ := assertEq_eq_some hmem
    exact hnext mem hkeeps hholds

theorem jump {d : Int} (hfetch : Fetches p I σ { body := .jump (.immediate d) })
    (hnext : After p I k Q { σ with pc := σ.pc + Felt.ofInt d }) : After p I (k + 1) Q σ := by
  have hstep : step p σ = some { σ with pc := σ.pc + Felt.ofInt d } := step_eq hfetch
  refine ⟨hfetch.2, fun _ _ => by rw [hstep]; rfl, fun τ hτ => ?_⟩
  rw [hstep] at hτ
  cases hτ
  exact hnext

theorem jumpNonZero {d : Int} {c : CellRef} {x : Felt}
    (hfetch : Fetches p I σ { body := .jumpNonZero (.immediate d) c })
    (hx : σ.mem (c.address σ.ap σ.fp) = some x)
    (hnext : After p I k Q { σ with pc := σ.pc + if x = 0 then 2 else Felt.ofInt d }) :
    After p I (k + 1) Q σ := by
  have hstep : step p σ = some { σ with pc := σ.pc + if x = 0 then 2 else Felt.ofInt d } := by
    rw [step_eq hfetch, Instruction.exec]
    simp only [hx, Option.bind_some]
    split <;> rfl
  refine ⟨hfetch.2, fun _ _ => by rw [hstep]; rfl, fun τ hτ => ?_⟩
  rw [hstep] at hτ
  cases hτ
  exact hnext

theorem call {d : Int} (hfetch : Fetches p I σ { body := .call (.immediate d) })
    (hnext : ∀ mem, σ.mem.Keeps mem → mem σ.ap = some σ.fp → mem (σ.ap + 1) = some (σ.pc + 2) →
      After p I k Q ⟨σ.pc + Felt.ofInt d, σ.ap + 2, σ.ap + 2, mem⟩) : After p I (k + 1) Q σ := by
  have hne : σ.ap ≠ σ.ap + 1 := fun h => absurd (left_eq_add.mp h) (by decide)
  have hkeeps := (σ.mem.keeps_write σ.ap σ.fp).trans
    ((σ.mem.write σ.ap σ.fp).keeps_write (σ.ap + 1) (σ.pc + 2))
  have hstep := step_eq hfetch
  refine ⟨hfetch.2, fun hap hap' => ?_, fun τ hτ => ?_⟩
  · have hfirst := Memory.write_self hap σ.fp
    have hsecond : σ.mem.write σ.ap σ.fp (σ.ap + 1) = none := by
      rw [Memory.write_of_ne hne.symm, hap']
    rw [hstep, Instruction.exec]
    refine Option.isSome_iff_exists.mpr ⟨_, if_pos ⟨?_, Memory.write_self hsecond _⟩⟩
    exact Memory.keeps_write _ _ _ hfirst
  · rw [hstep] at hτ
    simp only [Instruction.exec, Operand.value?, Option.bind_some] at hτ
    split at hτ
    · rename_i hwritten
      cases hτ
      exact hnext _ hkeeps hwritten.1 hwritten.2
    · cases hτ

theorem ret {pc fp : Felt} (hfetch : Fetches p I σ { body := .ret })
    (hpc : σ.mem (σ.fp - 1) = some pc) (hfp : σ.mem (σ.fp - 2) = some fp)
    (hnext : After p I k Q { σ with pc := pc, fp := fp }) : After p I (k + 1) Q σ := by
  have hstep : step p σ = some { σ with pc := pc, fp := fp } := by
    rw [step_eq hfetch, Instruction.exec]
    simp only [hpc, hfp, Option.bind_some, Option.map_some]
    rfl
  refine ⟨hfetch.2, fun _ _ => by rw [hstep]; rfl, fun τ hτ => ?_⟩
  rw [hstep] at hτ
  cases hτ
  exact hnext

end After

end SierraCasm.Casm
