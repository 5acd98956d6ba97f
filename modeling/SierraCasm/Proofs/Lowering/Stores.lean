import SierraCasm.Proofs.Lowering.Denotation
import SierraCasm.Proofs.Lowering.Layout

/-! # Computing and storing values

What an operation is deferred to (`Defers`) denotes its result (`arithmetic_denotes`).  The
instruction that stores an expression is an equation (`Equates`, `store_eq_ok_iff`) whose only
solution for the top of the stack is the value of the expression, also for a difference
(`Equates.pushes`); a sequence of them leaves the values on the stack, in order
(`after_storeAll`). -/

namespace SierraCasm.Lowering

open Sierra Concrete Casm

variable {V : View}

/-! ### Arithmetic -/

/-- The operation `op` on `a` and `b` is deferred to `e`: of two constants it is computed, a constant
that is subtracted is added with the opposite sign, and one on the left changes places. -/
inductive Defers : BinaryOp → Expr → Expr → Expr → Prop
  | constants {op : BinaryOp} {x y : Int} :
      Defers op (.immediate x) (.immediate y)
        (.immediate (op.apply (Felt.ofInt x) (Felt.ofInt y)).signed)
  | cells {op : BinaryOp} {left right : Cell} :
      Defers op (.deref left) (.deref right) (.binary op left (.cell right))
  | subtracted {left : Cell} {v : Int} :
      Defers .sub (.deref left) (.immediate v)
        (.binary .add left (.immediate (-Felt.ofInt v).signed))
  | constant {op : BinaryOp} {left : Cell} {v : Int} (hop : op ≠ .sub) :
      Defers op (.deref left) (.immediate v) (.binary op left (.immediate v))
  | exchanged {op : BinaryOp} {right : Cell} {v : Int} (hop : op ≠ .sub) :
      Defers op (.immediate v) (.deref right) (.binary op right (.immediate v))

theorem arithmeticOn_immediate {op : BinaryOp} (hop : op ≠ .sub) (left : Cell) (v : Int) :
    arithmeticOn op (.deref left) (.immediate v) = .ok (.binary op left (.immediate v)) := by
  cases op with
  | sub => exact absurd rfl hop
  | add | mul => rfl

theorem arithmetic_eq_ok_iff {op : BinaryOp} {a b e : Expr} :
    arithmetic op a b = .ok e ↔ Defers op a b e := by
  constructor
  · intro h
    cases a with
    | lost => cases h
    | immediate x =>
      cases b with
      | immediate y =>
        cases h
        exact .constants
      | deref right =>
        by_cases hop : op = .sub
        · subst hop
          cases h
        · simp only [arithmetic, if_neg hop, arithmeticOn_immediate hop] at h
          cases h
          exact .exchanged hop
      | lost => cases h
      | doubleDeref | binary => cases op <;> cases h
    | deref left =>
      cases b with
      | deref right =>
        cases h
        exact .cells
      | immediate v =>
        cases op with
        | sub =>
          cases h
          exact .subtracted
        | add | mul =>
          cases h
          exact .constant (by decide)
      | lost | doubleDeref | binary => cases h
    | doubleDeref | binary => cases b <;> cases h
  · intro h
    cases h with
    | constants | cells | subtracted => rfl
    | constant hop => exact arithmeticOn_immediate hop _ _
    | exchanged hop => exact (if_neg hop).trans (arithmeticOn_immediate hop _ _)

theorem apply_comm {op : BinaryOp} (hop : op ≠ .sub) (x y : Felt) :
    op.apply x y = op.apply y x := by
  cases op with
  | add => exact add_comm x y
  | sub => exact absurd rfl hop
  | mul => exact mul_comm x y

theorem arithmetic_denotes {op : BinaryOp} {a b e : Expr} {x y : Felt}
    (h : arithmetic op a b = .ok e) (ha : a.Denotes V x) (hb : b.Denotes V y) :
    e.Denotes V (op.apply x y) := by
  rw [arithmetic_eq_ok_iff] at h
  cases h with
  | constants =>
    rw [← (ha : Felt.ofInt _ = x), ← (hb : Felt.ofInt _ = y)]
    exact Felt.ofInt_signed _
  | cells => exact ⟨x, y, ha, hb, rfl⟩
  | @subtracted left v =>
    have hneg : Operand.Reads V (.immediate (-Felt.ofInt v).signed) (-y) := by
      rw [← (hb : Felt.ofInt v = y)]
      exact Felt.ofInt_signed _
    exact ⟨x, -y, ha, hneg, (sub_eq_add_neg x y).symm⟩
  | constant => exact ⟨x, y, ha, hb, rfl⟩
  | exchanged hop => exact ⟨y, x, hb, ha, apply_comm hop y x⟩

theorem arithmetic_locations {op : BinaryOp} {a b e : Expr} (h : arithmetic op a b = .ok e) :
    ∀ c ∈ e.locations, c ∈ a.locations ∨ c ∈ b.locations := by
  rw [arithmetic_eq_ok_iff] at h
  cases h <;> simp [Expr.locations]

/-! ### One value -/

@[simp] theorem address_top (ap fp : Felt) : top.address ap fp = ap := by
  simp [top, CellRef.address]

theorem address_eq_ok_iff {c : Cell} {s : ApState} {ref : CellRef} :
    address c s = .ok ref ↔ c.at? s = some ref := by
  unfold address
  split
  · rename_i hat
    rw [hat, Except.ok.injEq, Option.some.injEq]
  · rename_i hat
    simp [hat]

theorem stored_eq_ok {e : Expr} {ref : CellRef} (h : stored e V.state = .ok ref) {x : Felt}
    (he : e.Denotes V x) : V.mem (ref.address V.ap V.fp) = some x := by
  unfold stored at h
  split at h
  · cases h
  · exact he (address_eq_ok_iff.mp h)
  · cases h

/-- A second operand is spelled `operand` at a position. -/
inductive Operand.Spelled (s : ApState) : Operand → Casm.Operand → Prop
  | immediate (v : Int) : Operand.Spelled s (.immediate v) (.immediate v)
  | cell {c : Cell} {ref : CellRef} (hc : c.at? s = some ref) :
      Operand.Spelled s (.cell c) (.deref ref)

theorem rightOperand_eq_ok_iff {o : Operand} {s : ApState} {operand : Casm.Operand} :
    rightOperand o s = .ok operand ↔ o.Spelled s operand := by
  constructor
  · intro h
    cases o with
    | immediate v =>
      cases h
      exact .immediate v
    | cell c =>
      obtain ⟨ref, href, h⟩ := bind_eq_ok.mp h
      cases h
      exact .cell (address_eq_ok_iff.mp href)
  · intro h
    cases h with
    | immediate v => rfl
    | cell hc => rw [rightOperand, address_eq_ok_iff.mpr hc]; rfl

/-- The equation `dst = res` is the one that writes `e` to the top of the stack. -/
inductive Equates (s : ApState) : Expr → CellRef → Res → Prop
  | immediate (v : Int) : Equates s (.immediate v) top (.immediate v)
  | deref {c : Cell} {ref : CellRef} (hc : c.at? s = some ref) :
      Equates s (.deref c) top (.deref ref)
  | doubleDeref {c : Cell} {ref : CellRef} {offset : Int64} (hc : c.at? s = some ref) :
      Equates s (.doubleDeref c offset) top (.doubleDeref ref offset)
  | sum {a : Cell} {b : Operand} {left : CellRef} {right : Casm.Operand}
      (hleft : a.at? s = some left) (hright : b.Spelled s right) :
      Equates s (.binary .add a b) top (.binary .add left right)
  | difference {a : Cell} {b : Operand} {left : CellRef} {right : Casm.Operand}
      (hleft : a.at? s = some left) (hright : b.Spelled s right) :
      Equates s (.binary .sub a b) left (.binary .add top right)
  | product {a : Cell} {b : Operand} {left : CellRef} {right : Casm.Operand}
      (hleft : a.at? s = some left) (hright : b.Spelled s right) :
      Equates s (.binary .mul a b) top (.binary .mul left right)

theorem store_eq_ok_iff {e : Expr} {s : ApState} {instruction : Instruction} :
    store e s = .ok instruction ↔
      ∃ dst res, Equates s e dst res ∧ instruction = push dst res := by
  constructor
  · intro h
    cases e with
    | lost => cases h
    | immediate v =>
      cases h
      exact ⟨_, _, .immediate v, rfl⟩
    | deref c =>
      obtain ⟨ref, href, h⟩ := bind_eq_ok.mp h
      cases h
      exact ⟨_, _, .deref (address_eq_ok_iff.mp href), rfl⟩
    | doubleDeref c offset =>
      obtain ⟨ref, href, h⟩ := bind_eq_ok.mp h
      cases h
      exact ⟨_, _, .doubleDeref (address_eq_ok_iff.mp href), rfl⟩
    | binary op a b =>
      obtain ⟨left, hleft, h⟩ := bind_eq_ok.mp h
      obtain ⟨right, hright, h⟩ := bind_eq_ok.mp h
      rw [address_eq_ok_iff] at hleft
      rw [rightOperand_eq_ok_iff] at hright
      cases op with
      | add =>
        cases h
        exact ⟨_, _, .sum hleft hright, rfl⟩
      | sub =>
        cases h
        exact ⟨_, _, .difference hleft hright, rfl⟩
      | mul =>
        cases h
        exact ⟨_, _, .product hleft hright, rfl⟩
  · rintro ⟨dst, res, h, rfl⟩
    cases h with
    | immediate v => rfl
    | deref hc | doubleDeref hc => rw [store, address_eq_ok_iff.mpr hc]; rfl
    | sum hleft hright | difference hleft hright | product hleft hright =>
      rw [store, address_eq_ok_iff.mpr hleft, rightOperand_eq_ok_iff.mpr hright]
      rfl

theorem Operand.Spelled.value_eq {o : Operand} {operand : Casm.Operand} {x : Felt}
    (h : o.Spelled V.state operand) (ho : o.Reads V x) :
    operand.value? V.ap V.fp V.mem = some x := by
  cases h with
  | immediate v => exact congrArg some ho
  | cell hc => exact ho hc

/-- The equation determines the top of the stack, and can be made true if it is free. -/
def Pushes (V : View) (dst : CellRef) (res : Res) (x : Felt) : Prop :=
  (∀ {mem : Memory}, V.mem.Keeps mem → Holds dst res V.ap V.fp mem → mem V.ap = some x) ∧
    (V.mem V.ap = none → (assertEq dst res V.ap V.fp V.mem).isSome)

theorem pushes_value {res : Res} {x : Felt} (h : res.value? V.ap V.fp V.mem = some x) :
    Pushes V top res x := by
  refine ⟨fun hmem hholds => ?_, fun hfree => assertEq_of_value (by simpa using hfree) h⟩
  obtain ⟨y, hy, hres⟩ := hholds
  rw [Res.value?_mono hmem h] at hres
  cases hres
  simpa using hy

/-- A difference is the only solution of a sum. -/
theorem pushes_difference {left : CellRef} {right : Casm.Operand} {x y : Felt}
    (hleft : V.mem (left.address V.ap V.fp) = some x)
    (hright : right.value? V.ap V.fp V.mem = some y) :
    Pushes V left (.binary .add top right) (x - y) := by
  refine ⟨fun hmem hholds => ?_, fun hfree =>
    assertEq_of_difference hleft (by simpa using hfree) hright⟩
  obtain ⟨z, hz, hres⟩ := hholds
  rw [hmem hleft] at hz
  cases hz
  obtain ⟨t, ht, hres⟩ := Option.bind_eq_some_iff.mp hres
  rw [Operand.value?_mono hmem hright, Option.map_some, Option.some.injEq] at hres
  rw [address_top] at ht
  rw [ht, ← hres, Arith.apply, add_sub_cancel_right]

/-- The equation that writes an expression pushes its value. -/
theorem Equates.pushes {e : Expr} {x : Felt} {dst : CellRef} {res : Res}
    (h : Equates V.state e dst res) (he : e.Denotes V x) : Pushes V dst res x := by
  cases h with
  | immediate v => exact pushes_value (congrArg some he)
  | deref hc => exact pushes_value (he hc)
  | doubleDeref hc =>
    obtain ⟨a, ha, hx⟩ := he
    refine pushes_value ?_
    rw [Res.value?, ha hc, Option.bind_some, hx]
  | sum hleft hright | product hleft hright =>
    obtain ⟨y, z, hy, hz, rfl⟩ := he
    refine pushes_value ?_
    rw [Res.value?, hy hleft, Option.bind_some, hright.value_eq hz]
    rfl
  | difference hleft hright =>
    obtain ⟨y, z, hy, hz, rfl⟩ := he
    exact pushes_difference (hy hleft) (hright.value_eq hz)

/-! ### Several values -/

/-- The distance of a cell from `ap` does not wrap while `ap` moves by up to `n` cells. -/
def Cell.Within (s : ApState) (n : Nat) : Cell → Prop
  | .ap epoch position => epoch = s.epoch → -2 ^ 63 + (n : Int) ≤ (position - s.offset).toInt
  | .fp _ => True

theorem toInt_sub_add {position offset : Int64} {n : Nat}
    (h : -2 ^ 63 + (n : Int) ≤ (position - offset).toInt) :
    (position - (offset + .ofNat n)).toInt = (position - offset).toInt - n := by
  have heq : position - (offset + .ofNat n) = .ofInt ((position - offset).toInt - n) := by
    rw [Int64.ofInt_sub, Int64.ofInt_toInt, Int64.ofInt_eq_ofNat]
    grind
  have hlt := (position - offset).toInt_lt
  rw [heq, Int64.toInt_ofInt_of_le (by omega) (by omega)]

theorem Cell.Within.distance {s : ApState} {n epoch : Nat} {position : Int64}
    (h : Cell.Within s (n + 1) (.ap epoch position)) (hepoch : epoch = s.epoch) :
    (position - (s.move 1).offset).toInt = (position - s.offset).toInt - 1 := by
  have hle := h hepoch
  exact toInt_sub_add (n := 1) (by push_cast at hle ⊢; omega)

theorem Cell.Within.succ {s : ApState} {c : Cell} {n : Nat} (h : c.Within s (n + 1)) :
    c.Within (s.move 1) n := by
  cases c with
  | fp offset => trivial
  | ap epoch position =>
    intro hepoch
    rw [h.distance hepoch]
    have hle := h hepoch
    push_cast at hle
    omega

theorem Cell.Within.carries {c : Cell} {n : Nat} (h : c.Within V.state (n + 1)) {mem : Memory}
    (hmem : V.mem.Keeps mem) : c.Carries V ⟨V.state.move 1, V.ap + 1, V.fp, mem⟩ := by
  cases c with
  | fp offset => exact Cell.carries_fp rfl hmem
  | ap epoch position => exact Cell.carries_of_move hmem rfl (by simp) h.distance

/-- The machine at an address. -/
def View.at (V : View) (pc : Nat) : State := ⟨(pc : Felt), V.ap, V.fp, V.mem⟩

variable {blocks : List (List Code)} {i : Nat}

theorem CodeAt.fetch_at {pc : Nat} {c : Code} {code : List Code}
    (hsize : (assemble blocks).codeSize ≤ starkPrime) (h : CodeAt blocks i pc (c :: code)) :
    Fetches (assemble blocks) (InBlock blocks i) (V.at pc)
      ((Layout.ofBlocks blocks).resolve pc c) := by
  have hle := h.le_codeSize
  obtain ⟨hlo, hhi⟩ := h.mem_block
  have hpos := c.size_pos
  rw [blockSize_cons] at hle hhi
  have hpc : (V.at pc).pc.rep = pc := Felt.rep_natCast (by omega)
  exact ⟨by rw [hpc]; exact h.fetch, by rw [hpc]; exact hlo, by rw [hpc]; omega⟩

theorem after_push {pc k : Nat} {dst : CellRef} {res : Res} {x : Felt} {code : List Code}
    {Q : State → Prop} (hsize : (assemble blocks).codeSize ≤ starkPrime)
    (hcode : CodeAt blocks i pc (.plain (push dst res) :: code)) (hpushes : Pushes V dst res x)
    (hnext : ∀ mem, V.mem.Keeps mem → mem V.ap = some x →
      After (assemble blocks) (InBlock blocks i) k Q
        (View.at ⟨V.state.move 1, V.ap + 1, V.fp, mem⟩ (pc + (Code.plain (push dst res)).size))) :
    After (assemble blocks) (InBlock blocks i) (k + 1) Q (V.at pc) := by
  refine After.assertEq (hcode.fetch_at hsize) hpushes.2 fun mem hmem hholds => ?_
  have hpc : (V.at pc).pc + Felt.ofInt (1 + res.words : Nat) =
      ((pc + (Code.plain (push dst res)).size : Nat) : Felt) := by
    simp [View.at, Code.size, push, Instruction.size, Body.words]
  rw [hpc]
  exact hnext mem hmem (hpushes.1 hmem hholds)

/-- Storing values leaves them on the stack, in order. -/
theorem after_storeAll {pc : Nat} {es : List Expr} {xs : List Felt} {code : List Instruction}
    (hsize : (assemble blocks).codeSize ≤ starkPrime)
    (hcode : CodeAt blocks i pc (code.map .plain)) (h : storeAll V.state es = .ok code)
    (hfits : List.Forall₂ (Expr.Fits V) es (xs.map some))
    (hwithin : ∀ e ∈ es, ∀ c ∈ e.locations, c.Within V.state es.length) :
    After (assemble blocks) (InBlock blocks i) es.length (fun τ =>
      τ.pc = ((pc + blockSize (code.map .plain) : Nat) : Felt) ∧ τ.ap = V.ap + (es.length : Nat) ∧
        τ.fp = V.fp ∧ V.mem.Keeps τ.mem ∧ Stored τ.mem V.ap (xs.map some)) (V.at pc) := by
  induction es generalizing V pc code xs with
  | nil =>
    cases h
    cases xs with
    | nil => exact ⟨by simp [View.at, blockSize], by simp [View.at], rfl, V.mem.keeps_self,
        fun _ _ hk => by simp at hk⟩
    | cons _ _ => cases hfits
  | cons e es ih =>
    cases xs with
    | nil => cases hfits
    | cons x xs =>
      rw [List.map_cons, List.forall₂_cons] at hfits
      obtain ⟨instruction, hstore, h⟩ := bind_eq_ok.mp h
      obtain ⟨rest, hrest, h⟩ := bind_eq_ok.mp h
      cases h
      obtain ⟨dst, res, hequates, rfl⟩ := store_eq_ok_iff.mp hstore
      refine after_push hsize hcode (hequates.pushes (hfits.1 rfl)) fun mem hmem htop => ?_
      have hwithin' : ∀ e' ∈ es, ∀ c ∈ e'.locations, c.Within V.state (es.length + 1) :=
        fun e' he' => hwithin e' (List.mem_cons_of_mem e he')
      have hafter := ih (V := ⟨V.state.move 1, V.ap + 1, V.fp, mem⟩) hcode.tail hrest
        (fits_carry hmem (fun e' he' c hc => (hwithin' e' he' c hc).carries hmem) hfits.2)
        (fun e' he' c hc => (hwithin' e' he' c hc).succ)
      refine hafter.mono fun τ hτ => ?_
      obtain ⟨hpc', hap, hfp, hkeeps, hstored⟩ := hτ
      refine ⟨?_, ?_, hfp, hmem.trans hkeeps, ?_⟩
      · rw [hpc', List.map_cons, blockSize_cons, Nat.add_assoc]
      · rw [hap, List.length_cons]
        push_cast
        ring
      · intro k y hk
        cases k with
        | zero =>
          rw [List.map_cons, List.getElem?_cons_zero, Option.some.injEq, Option.some.injEq] at hk
          rw [← hk, Nat.cast_zero, add_zero]
          exact hkeeps htop
        | succ k =>
          have := hstored hk
          rwa [add_assoc, add_comm (1 : Felt), ← Nat.cast_succ] at this

end SierraCasm.Lowering
