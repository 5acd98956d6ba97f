import SierraCasm.Proofs.Lowering.Stores

/-! # Evaluating deferred arithmetic

At a moment of a run an expression has a value if the cells that it reads can be addressed and are
written (`Expr.eval?`).  Deferred arithmetic has a value exactly if both operands do, and it is the
one that the operation gives in the field, whether constants were folded, operands exchanged or a
subtraction turned into an addition.  The instruction that stores an expression is an equation that
holds for its value at the top of the stack and no other (`arithmetic_and_store_exact`). -/

namespace SierraCasm.Lowering

open Sierra Concrete Casm

/-! ### Values of expressions -/

/-- What a cell holds, unless its epoch is over or it is not written. -/
def Cell.value? (V : View) (c : Cell) : Option Felt :=
  (c.at? V.state).bind fun ref => V.mem (ref.address V.ap V.fp)

def Operand.eval? (V : View) : Operand → Option Felt
  | .cell c => c.value? V
  | .immediate v => some (Felt.ofInt v)

/-- The value of an expression, if all that it reads has one. -/
def Expr.eval? (V : View) : Expr → Option Felt
  | .deref c => c.value? V
  | .doubleDeref c offset => (c.value? V).bind fun a => V.mem (a + Felt.ofInt offset.toInt)
  | .immediate v => some (Felt.ofInt v)
  | .binary op left right => (left.value? V).bind fun x => (right.eval? V).map (op.apply x)
  | .lost => none

section grows

variable {V : View} {mem : Memory} {x : Felt}

theorem Cell.value?_mono {c : Cell} (hmem : V.mem.Keeps mem) (h : c.value? V = some x) :
    c.value? { V with mem := mem } = some x := by
  obtain ⟨ref, href, hx⟩ := Option.bind_eq_some_iff.mp h
  exact Option.bind_eq_some_iff.mpr ⟨ref, href, hmem hx⟩

theorem Operand.eval?_mono {o : Operand} (hmem : V.mem.Keeps mem) (h : o.eval? V = some x) :
    o.eval? { V with mem := mem } = some x := by
  cases o with
  | cell c => exact Cell.value?_mono hmem h
  | immediate v => exact h

theorem Expr.eval?_mono {e : Expr} (hmem : V.mem.Keeps mem) (h : e.eval? V = some x) :
    e.eval? { V with mem := mem } = some x := by
  cases e with
  | deref c => exact Cell.value?_mono hmem h
  | doubleDeref c offset =>
    obtain ⟨a, ha, hx⟩ := Option.bind_eq_some_iff.mp h
    exact Option.bind_eq_some_iff.mpr ⟨a, Cell.value?_mono hmem ha, hmem hx⟩
  | immediate v => exact h
  | binary op left right =>
    obtain ⟨y, hy, h⟩ := Option.bind_eq_some_iff.mp h
    obtain ⟨z, hz, hx⟩ := Option.map_eq_some_iff.mp h
    exact Option.bind_eq_some_iff.mpr ⟨y, Cell.value?_mono hmem hy,
      Option.map_eq_some_iff.mpr ⟨z, Operand.eval?_mono hmem hz, hx⟩⟩
  | lost => cases h

end grows

/-! ### Arithmetic -/

section arithmetic

variable {V : View} {op : BinaryOp} {a b e : Expr}

/-- Deferred arithmetic has the value of the operation on the values of its operands. -/
theorem eval?_arithmetic (h : arithmetic op a b = .ok e) :
    e.eval? V = (a.eval? V).bind fun x => (b.eval? V).map (op.apply x) := by
  rw [arithmetic_eq_ok_iff] at h
  cases h with
  | constants => exact congrArg some (Felt.ofInt_signed _)
  | cells => rfl
  | @subtracted left v =>
    have hnegated : ∀ x, x + Felt.ofInt (-Felt.ofInt v).signed = x - Felt.ofInt v := by
      intro x
      rw [Felt.ofInt_signed, sub_eq_add_neg]
    exact congrArg (left.value? V).bind (funext fun x => congrArg some (hnegated x))
  | constant => rfl
  | @exchanged op right v hop =>
    change (right.value? V).bind (fun y => some (op.apply y (Felt.ofInt v))) =
      (right.value? V).map (op.apply (Felt.ofInt v))
    rw [Option.map_eq_bind]
    exact congrArg (right.value? V).bind
      (funext fun y => congrArg some (apply_comm hop y (Felt.ofInt v)))

end arithmetic

/-! ### Storing -/

section storing

variable {s : ApState} {ap fp z : Felt} {mem : Memory}

theorem Cell.value?_of_at {c : Cell} {ref : CellRef} (h : c.at? s = some ref) :
    c.value? ⟨s, ap, fp, mem⟩ = mem (ref.address ap fp) := by
  rw [Cell.value?, h, Option.bind_some]

theorem Operand.Spelled.eval_eq {o : Operand} {operand : Casm.Operand}
    (h : o.Spelled s operand) : o.eval? ⟨s, ap, fp, mem⟩ = operand.value? ap fp mem := by
  cases h with
  | immediate v => rfl
  | cell hc => exact Cell.value?_of_at hc

theorem holds_top_iff {res : Res} (hz : mem ap = some z) :
    Holds top res ap fp mem ↔ res.value? ap fp mem = some z := by
  rw [Holds, address_top, hz]
  constructor
  · rintro ⟨x, hx, hres⟩
    cases hx
    exact hres
  · exact fun hres => ⟨z, rfl, hres⟩

theorem holds_difference_iff {left : CellRef} {right : Casm.Operand} (hz : mem ap = some z) :
    Holds left (.binary .add top right) ap fp mem ↔
      ((mem (left.address ap fp)).bind fun x =>
        (right.value? ap fp mem).map (BinaryOp.sub.apply x)) = some z := by
  have hsum : (Res.binary .add top right).value? ap fp mem =
      (right.value? ap fp mem).map fun y => z + y := by
    rw [Res.value?, address_top, hz]
    rfl
  rw [Holds, hsum]
  simp only [Option.bind_eq_some_iff, Option.map_eq_some_iff]
  refine exists_congr fun x => and_congr_right fun _ => exists_congr fun y => ?_
  refine and_congr_right fun _ => ?_
  rw [BinaryOp.apply, sub_eq_iff_eq_add]
  exact eq_comm

/-- The equation that writes an expression holds exactly if the top of the stack is its value. -/
theorem Equates.holds_iff {e : Expr} {dst : CellRef} {res : Res} (h : Equates s e dst res)
    (hz : mem ap = some z) : Holds dst res ap fp mem ↔ e.eval? ⟨s, ap, fp, mem⟩ = some z := by
  cases h with
  | immediate v => exact holds_top_iff hz
  | deref hc | doubleDeref hc =>
    rw [holds_top_iff hz, Expr.eval?, Cell.value?_of_at hc]
    rfl
  | sum hleft hright | product hleft hright =>
    rw [holds_top_iff hz, Expr.eval?, Cell.value?_of_at hleft, hright.eval_eq]
    rfl
  | difference hleft hright =>
    rw [holds_difference_iff hz, Expr.eval?, Cell.value?_of_at hleft, hright.eval_eq]

theorem holds_store_iff {e : Expr} {instruction : Instruction} (h : store e s = .ok instruction) :
    ∃ dst res, instruction = push dst res ∧ ∀ {ap fp z : Felt} {mem : Memory}, mem ap = some z →
      (Holds dst res ap fp mem ↔ e.eval? ⟨s, ap, fp, mem⟩ = some z) := by
  obtain ⟨dst, res, hequates, hpush⟩ := store_eq_ok_iff.mp h
  exact ⟨dst, res, hpush, hequates.holds_iff⟩

end storing

/-- An equation holds in a memory exactly if the top of the stack is the value of an expression
there.  So if the expression has a value before the top of the stack is written, this is the only
one that can be written. -/
structure StoresExactly (e : Expr) (s : ApState) (dst : CellRef) (res : Res) : Prop where
  holds_iff : ∀ {ap fp z : Felt} {mem : Memory}, mem ap = some z →
    (Holds dst res ap fp mem ↔ e.eval? ⟨s, ap, fp, mem⟩ = some z)
  unique : ∀ {ap fp x : Felt} {mem : Memory}, mem ap = none →
    e.eval? ⟨s, ap, fp, mem⟩ = some x → ∀ z, Holds dst res ap fp (mem.write ap z) ↔ z = x

/-- Deferred arithmetic is arithmetic of the field, and the instruction that stores an expression
fixes the top of the stack to its value. -/
theorem arithmetic_and_store_exact :
    (∀ {op : BinaryOp} {a b e : Expr}, arithmetic op a b = .ok e → ∀ V : View,
      e.eval? V = (a.eval? V).bind fun x => (b.eval? V).map fun y => op.apply x y) ∧
    ∀ {e : Expr} {s : ApState} {instruction : Instruction}, store e s = .ok instruction →
      ∃ dst res, instruction = push dst res ∧ StoresExactly e s dst res := by
  refine ⟨fun h V => eval?_arithmetic h, fun {e s instruction} h => ?_⟩
  obtain ⟨dst, res, hpush, hholds⟩ := holds_store_iff h
  refine ⟨dst, res, hpush, hholds, fun {ap fp x mem} hfree hx z => ?_⟩
  have hvalue : e.eval? ⟨s, ap, fp, mem.write ap z⟩ = some x :=
    Expr.eval?_mono (mem.keeps_write ap z) hx
  rw [hholds (mem.write_self hfree z), hvalue, Option.some.injEq]
  exact eq_comm

/-- Subtracting a large constant from a cell adds a small one, a constant changes places with a
cell that it is multiplied by, and a difference of cells is stored as a sum. -/
theorem arithmetic_and_store_exact_samples :
    let large : Int := (starkPrime : Int) - 5
    let a : Expr := .deref (.ap 0 2)
    let b : Expr := .deref (.fp (-3))
    let shifted : Expr := .binary .add (.ap 0 2) (.immediate 5)
    let scaled : Expr := .binary .mul (.fp (-3)) (.immediate large)
    let difference : Expr := .binary .sub (.ap 0 2) (.cell (.fp (-3)))
    arithmetic .sub a (.immediate large) = .ok shifted ∧
      (∀ V, shifted.eval? V = (a.eval? V).bind fun x => some (x - Felt.ofInt large)) ∧
      arithmetic .mul (.immediate large) b = .ok scaled ∧
      (∀ V, scaled.eval? V = (b.eval? V).map fun y => Felt.ofInt large * y) ∧
      arithmetic .sub a b = .ok difference ∧
      store difference ⟨0, 7, true⟩ =
        .ok (push ⟨.ap, -5⟩ (.binary .add top (.deref ⟨.fp, -3⟩))) ∧
      ∃ dst res, push ⟨.ap, -5⟩ (.binary .add top (.deref ⟨.fp, -3⟩)) = push dst res ∧
        StoresExactly difference ⟨0, 7, true⟩ dst res := by
  intro large a b shifted scaled difference
  have hshifted : arithmetic .sub a (.immediate large) = .ok shifted := by decide +kernel
  have hscaled : arithmetic .mul (.immediate large) b = .ok scaled := rfl
  have hstore : store difference ⟨0, 7, true⟩ =
      .ok (push ⟨.ap, -5⟩ (.binary .add top (.deref ⟨.fp, -3⟩))) := rfl
  obtain ⟨harithmetic, hexact⟩ := arithmetic_and_store_exact
  exact ⟨hshifted, harithmetic hshifted, hscaled, harithmetic hscaled, rfl, hstore, hexact hstore⟩

end SierraCasm.Lowering
