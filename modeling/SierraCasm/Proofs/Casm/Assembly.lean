import SierraCasm.Casm.Program
import SierraCasm.Proofs.Text.Decimal

/-! # Assembly text determines the program

Two programs have the same assembly text exactly if they have the same instructions and the same
constants in all (`Program.render_eq_iff`).  The text has no parser; what makes it unambiguous is
that each part of it is told apart from what follows (`Delimited`): a cell is closed by its bracket,
an integer by any character that is not part of one, an instruction by the comma of its `ap++` or by
the semicolon of its line, and the code by the `d` of the first constant. -/

namespace SierraCasm.Casm

/-! ### Delimited texts -/

/-- The texts of two values, each with a text in `Rest` behind it, are the same only if the values
and the rests are. -/
def Delimited {α : Type} (text : α → List Char) (Rest : List Char → Prop) : Prop :=
  ∀ ⦃a b : α⦄ ⦃xs ys : List Char⦄, Rest xs → Rest ys → text a ++ xs = text b ++ ys →
    a = b ∧ xs = ys

/-- Any text may follow. -/
def Anything (_ : List Char) : Prop := True

/-- A text that starts with a comma or a semicolon, as what follows an instruction does. -/
inductive AtEnd : List Char → Prop
  | comma (xs : List Char) : AtEnd (',' :: xs)
  | semicolon (xs : List Char) : AtEnd (';' :: xs)

theorem AtEnd.startsOutside {xs : List Char} (h : AtEnd xs) : StartsOutside isDecimal xs := by
  cases h with
  | comma xs => exact startsOutside_cons (by decide) xs
  | semicolon xs => exact startsOutside_cons (by decide) xs

theorem AtEnd.ne_blank {xs ys : List Char} (h : AtEnd xs) : xs ≠ ' ' :: ys := by
  cases h <;> simp

/-- Lines one after the other are delimited if each is, and what follows them is no line. -/
theorem Delimited.flatMap {α : Type} {line : α → List Char} {Rest : List Char → Prop}
    (hline : Delimited line Anything) (hrest : ∀ a xs, ¬ Rest (line a ++ xs)) :
    Delimited (fun as : List α => as.flatMap line) Rest := by
  intro as bs xs ys hxs hys h
  dsimp only at h
  induction as generalizing bs with
  | nil =>
    cases bs with
    | nil => exact ⟨rfl, h⟩
    | cons b bs =>
      rw [List.flatMap_nil, List.nil_append, List.flatMap_cons, List.append_assoc] at h
      rw [h] at hxs
      exact absurd hxs (hrest b _)
  | cons a as ih =>
    cases bs with
    | nil =>
      rw [List.flatMap_nil, List.nil_append, List.flatMap_cons, List.append_assoc] at h
      rw [← h] at hys
      exact absurd hys (hrest a _)
    | cons b bs =>
      rw [List.flatMap_cons, List.flatMap_cons, List.append_assoc, List.append_assoc] at h
      obtain ⟨rfl, htail⟩ := hline trivial trivial h
      obtain ⟨rfl, hrest⟩ := ih htail
      exact ⟨rfl, hrest⟩

/-! ### Cells -/

theorem delimited_register : Delimited (fun r : Register => r.render.toList) Anything := by
  intro a b xs ys _ _ h
  cases a <;> cases b <;> simp_all [Register.render]

theorem delimited_decimal :
    Delimited (fun n : Int => (toString n).toList) (StartsOutside isDecimal) :=
  fun _ _ _ _ => append_decimal_inj

theorem delimited_closed : Delimited (fun n : Int => (toString n).toList ++ [']']) Anything := by
  intro m n xs ys _ _ h
  simp only [List.append_assoc] at h
  have hclosed : ∀ xs : List Char, StartsOutside isDecimal (']' :: ([] ++ xs)) :=
    fun xs => startsOutside_cons (by decide) _
  obtain ⟨hnumber, hrest⟩ := delimited_decimal (hclosed xs) (hclosed ys) h
  exact ⟨hnumber, (List.cons.inj hrest).2⟩

/-- The offset of a cell, with the bracket that closes it. -/
def offsetText (k : Int64) : List Char := ' ' :: '+' :: ' ' :: ((toString k.toInt).toList ++ [']'])

theorem delimited_offset : Delimited offsetText Anything := by
  intro a b xs ys hxs hys h
  simp only [offsetText, List.cons_append, List.cons.injEq, true_and] at h
  obtain ⟨hoffset, hrest⟩ := delimited_closed hxs hys h
  exact ⟨Int64.toInt_inj.mp hoffset, hrest⟩

theorem CellRef.toList_render (c : CellRef) :
    c.render.toList = '[' :: (c.register.render.toList ++ offsetText c.offset) := by
  simp [CellRef.render, String.toList_append, offsetText]

theorem delimited_cell : Delimited (fun c : CellRef => c.render.toList) Anything := by
  intro a b xs ys _ _ h
  simp only [CellRef.toList_render, List.cons_append, List.append_assoc, List.cons.injEq,
    true_and] at h
  obtain ⟨hregister, hoffset⟩ := delimited_register trivial trivial h
  obtain ⟨hoffset, hrest⟩ := delimited_offset trivial trivial hoffset
  obtain ⟨register, offset⟩ := a
  obtain ⟨register', offset'⟩ := b
  obtain rfl : register = register' := hregister
  obtain rfl : offset = offset' := hoffset
  exact ⟨rfl, hrest⟩

theorem decimal_ne_bracket (n : Int) (xs ys : List Char) :
    (toString n).toList ++ xs ≠ '[' :: ys := by
  intro h
  cases hn : (toString n).toList with
  | nil => exact toList_toString_ne_nil n hn
  | cons c cs =>
    have hdecimal : isDecimal c = true := isDecimal_of_mem c (by rw [hn]; exact List.mem_cons_self)
    rw [hn, List.cons_append, List.cons.injEq] at h
    rw [h.1] at hdecimal
    exact absurd hdecimal (by decide)

theorem CellRef.ne_decimal (c : CellRef) (n : Int) (xs ys : List Char) :
    c.render.toList ++ xs ≠ (toString n).toList ++ ys := by
  rw [c.toList_render, List.cons_append]
  exact (decimal_ne_bracket n ys _).symm

theorem CellRef.ne_nested (c d : CellRef) (xs ys : List Char) :
    c.render.toList ++ xs ≠ '[' :: (d.render.toList ++ ys) := by
  rw [c.toList_render, d.toList_render]
  cases c.register <;> simp [Register.render]

/-! ### Operands and right-hand sides -/

theorem delimited_operand :
    Delimited (fun o : Operand => o.render.toList) (StartsOutside isDecimal) := by
  intro a b xs ys hxs hys h
  cases a with
  | deref c =>
    cases b with
    | deref d =>
      obtain ⟨rfl, hrest⟩ := delimited_cell trivial trivial h
      exact ⟨rfl, hrest⟩
    | immediate w => exact absurd h (c.ne_decimal w xs ys)
  | immediate v =>
    cases b with
    | deref d => exact absurd h.symm (d.ne_decimal v ys xs)
    | immediate w =>
      obtain ⟨rfl, hrest⟩ := delimited_decimal hxs hys h
      exact ⟨rfl, hrest⟩

theorem delimited_arith : Delimited (fun op : Arith => op.render.toList) Anything := by
  intro a b xs ys _ _ h
  cases a <;> cases b <;> simp_all [Arith.render]

namespace Res

theorem toList_doubleDeref (c : CellRef) (k : Int64) :
    (doubleDeref c k).render.toList = '[' :: (c.render.toList ++ offsetText k) := by
  simp [Res.render, String.toList_append, offsetText]

theorem toList_binary (op : Arith) (a : CellRef) (b : Operand) :
    (binary op a b).render.toList =
      a.render.toList ++ (' ' :: (op.render.toList ++ (' ' :: b.render.toList))) := by
  simp [Res.render, String.toList_append]

end Res

theorem delimited_res : Delimited (fun r : Res => r.render.toList) AtEnd := by
  intro a b xs ys hxs hys h
  dsimp only at h
  cases a with
  | deref c =>
    cases b with
    | deref d =>
      obtain ⟨rfl, hrest⟩ := delimited_cell trivial trivial h
      exact ⟨rfl, hrest⟩
    | doubleDeref d k =>
      rw [Res.toList_doubleDeref, List.cons_append, List.append_assoc] at h
      exact absurd h (c.ne_nested d xs _)
    | immediate w => exact absurd h (c.ne_decimal w xs ys)
    | binary op d o =>
      rw [Res.toList_binary, List.append_assoc, List.cons_append] at h
      exact absurd (delimited_cell trivial trivial h).2 hxs.ne_blank
  | doubleDeref c k =>
    cases b with
    | deref d =>
      rw [Res.toList_doubleDeref, List.cons_append, List.append_assoc] at h
      exact absurd h.symm (d.ne_nested c ys _)
    | doubleDeref d l =>
      simp only [Res.toList_doubleDeref, List.cons_append, List.append_assoc, List.cons.injEq,
        true_and] at h
      obtain ⟨rfl, hoffset⟩ := delimited_cell trivial trivial h
      obtain ⟨rfl, hrest⟩ := delimited_offset trivial trivial hoffset
      exact ⟨rfl, hrest⟩
    | immediate w =>
      rw [Res.toList_doubleDeref, List.cons_append] at h
      exact absurd h.symm (decimal_ne_bracket w ys _)
    | binary op d o =>
      simp only [Res.toList_doubleDeref, Res.toList_binary, List.cons_append,
        List.append_assoc] at h
      exact absurd h.symm (d.ne_nested c _ _)
  | immediate v =>
    cases b with
    | deref d => exact absurd h.symm (d.ne_decimal v ys xs)
    | doubleDeref d l =>
      rw [Res.toList_doubleDeref, List.cons_append] at h
      exact absurd h (decimal_ne_bracket v xs _)
    | immediate w =>
      obtain ⟨rfl, hrest⟩ := delimited_decimal hxs.startsOutside hys.startsOutside h
      exact ⟨rfl, hrest⟩
    | binary op d o =>
      rw [Res.toList_binary, List.append_assoc] at h
      exact absurd h.symm (d.ne_decimal v _ xs)
  | binary op c o =>
    cases b with
    | deref d =>
      rw [Res.toList_binary, List.append_assoc, List.cons_append] at h
      exact absurd (delimited_cell trivial trivial h).2.symm hys.ne_blank
    | doubleDeref d l =>
      simp only [Res.toList_doubleDeref, Res.toList_binary, List.cons_append,
        List.append_assoc] at h
      exact absurd h (c.ne_nested d _ _)
    | immediate w =>
      rw [Res.toList_binary, List.append_assoc] at h
      exact absurd h (c.ne_decimal w _ ys)
    | binary op' d o' =>
      simp only [Res.toList_binary, List.append_assoc, List.cons_append] at h
      obtain ⟨rfl, hop⟩ := delimited_cell trivial trivial h
      obtain ⟨rfl, hright⟩ := delimited_arith trivial trivial (List.cons.inj hop).2
      obtain ⟨rfl, hrest⟩ :=
        delimited_operand hxs.startsOutside hys.startsOutside (List.cons.inj hright).2
      exact ⟨rfl, hrest⟩

/-! ### Instructions -/

namespace Body

/-- The first character of an instruction. -/
def initial : Body → Char
  | .assertEq _ _ => '['
  | .jump _ => 'j'
  | .jumpNonZero _ _ => 'j'
  | .call _ => 'c'
  | .ret => 'r'

theorem head?_render (b : Body) (xs : List Char) :
    (b.render.toList ++ xs).head? = some b.initial := by
  cases b <;> simp [Body.render, String.toList_append, CellRef.toList_render, initial]

theorem toList_assertEq (dst : CellRef) (res : Res) : (assertEq dst res).render.toList =
    dst.render.toList ++ (' ' :: '=' :: ' ' :: res.render.toList) := by
  simp [Body.render, String.toList_append]

theorem toList_jump (t : Operand) :
    (jump t).render.toList = "jmp rel ".toList ++ t.render.toList := by
  simp [Body.render, String.toList_append]

theorem toList_jumpNonZero (t : Operand) (c : CellRef) : (jumpNonZero t c).render.toList =
    "jmp rel ".toList ++ (t.render.toList ++ (' ' :: 'i' :: 'f' :: ' ' ::
      (c.render.toList ++ " != 0".toList))) := by
  simp [Body.render, String.toList_append]

theorem toList_call (t : Operand) :
    (call t).render.toList = "call rel ".toList ++ t.render.toList := by
  simp [Body.render, String.toList_append]

end Body

theorem delimited_body : Delimited (fun b : Body => b.render.toList) AtEnd := by
  intro a b xs ys hxs hys h
  have hinitial : a.initial = b.initial := by
    have hhead := congrArg List.head? h
    rw [a.head?_render, b.head?_render] at hhead
    exact Option.some.inj hhead
  have hblank : ∀ xs : List Char, StartsOutside isDecimal (' ' :: xs) :=
    startsOutside_cons (by decide)
  dsimp only at h
  cases a with
  | assertEq dst res =>
    cases b with
    | assertEq dst' res' =>
      simp only [Body.toList_assertEq, List.append_assoc, List.cons_append] at h
      obtain ⟨rfl, hres⟩ := delimited_cell trivial trivial h
      simp only [List.cons.injEq, true_and] at hres
      obtain ⟨rfl, hrest⟩ := delimited_res hxs hys hres
      exact ⟨rfl, hrest⟩
    | jump | jumpNonZero | call | ret => simp [Body.initial] at hinitial
  | jump t =>
    cases b with
    | jump t' =>
      rw [Body.toList_jump, Body.toList_jump, List.append_assoc, List.append_assoc] at h
      obtain ⟨rfl, hrest⟩ :=
        delimited_operand hxs.startsOutside hys.startsOutside (List.append_cancel_left h)
      exact ⟨rfl, hrest⟩
    | jumpNonZero t' c =>
      simp only [Body.toList_jump, Body.toList_jumpNonZero, List.append_assoc,
        List.cons_append] at h
      have hrest := delimited_operand hxs.startsOutside (hblank _) (List.append_cancel_left h)
      exact absurd hrest.2 hxs.ne_blank
    | assertEq | call | ret => simp [Body.initial] at hinitial
  | jumpNonZero t c =>
    cases b with
    | jump t' =>
      simp only [Body.toList_jump, Body.toList_jumpNonZero, List.append_assoc,
        List.cons_append] at h
      have hrest := delimited_operand (hblank _) hys.startsOutside (List.append_cancel_left h)
      exact absurd hrest.2.symm hys.ne_blank
    | jumpNonZero t' c' =>
      simp only [Body.toList_jumpNonZero, List.append_assoc, List.cons_append] at h
      obtain ⟨rfl, hcondition⟩ :=
        delimited_operand (hblank _) (hblank _) (List.append_cancel_left h)
      simp only [List.cons.injEq, true_and] at hcondition
      obtain ⟨rfl, hrest⟩ := delimited_cell trivial trivial hcondition
      exact ⟨rfl, List.append_cancel_left hrest⟩
    | assertEq | call | ret => simp [Body.initial] at hinitial
  | call t =>
    cases b with
    | call t' =>
      rw [Body.toList_call, Body.toList_call, List.append_assoc, List.append_assoc] at h
      obtain ⟨rfl, hrest⟩ :=
        delimited_operand hxs.startsOutside hys.startsOutside (List.append_cancel_left h)
      exact ⟨rfl, hrest⟩
    | assertEq | jump | jumpNonZero | ret => simp [Body.initial] at hinitial
  | ret =>
    cases b with
    | ret => exact ⟨rfl, List.append_cancel_left h⟩
    | assertEq | jump | jumpNonZero | call => simp [Body.initial] at hinitial

/-! ### Programs -/

def Instruction.line (i : Instruction) : List Char := (i.render ++ ";\n").toList

def constantLine (v : Int) : List Char := ("dw " ++ toString v ++ ";\n").toList

/-- What stands between the body of an instruction and the next line. -/
def lineEnd (incAp : Bool) : List Char := (if incAp then ", ap++".toList else []) ++ [';', '\n']

theorem Instruction.line_eq (i : Instruction) :
    i.line = i.body.render.toList ++ lineEnd i.incAp := by
  cases hinc : i.incAp <;>
    simp [Instruction.line, Instruction.render, String.toList_append, lineEnd, hinc]

theorem atEnd_lineEnd (incAp : Bool) (xs : List Char) : AtEnd (lineEnd incAp ++ xs) := by
  cases incAp with
  | true => exact .comma _
  | false => exact .semicolon _

theorem delimited_line : Delimited Instruction.line Anything := by
  intro a b xs ys _ _ h
  rw [a.line_eq, b.line_eq, List.append_assoc, List.append_assoc] at h
  obtain ⟨hbody, hend⟩ := delimited_body (atEnd_lineEnd _ _) (atEnd_lineEnd _ _) h
  obtain ⟨body, incAp⟩ := a
  obtain ⟨body', incAp'⟩ := b
  obtain rfl : body = body' := hbody
  cases incAp <;> cases incAp' <;> simp_all [lineEnd]

theorem delimited_constantLine : Delimited constantLine Anything := by
  intro v w xs ys _ _ h
  have hsemicolon : ∀ xs : List Char, StartsOutside isDecimal (';' :: '\n' :: xs) :=
    fun xs => startsOutside_cons (by decide) _
  simp only [constantLine, String.toList_append, List.append_assoc] at h
  obtain ⟨hvalue, hrest⟩ :=
    delimited_decimal (hsemicolon xs) (hsemicolon ys) (List.append_cancel_left h)
  simp only [List.cons.injEq, true_and] at hrest
  exact ⟨hvalue, hrest⟩

/-- What follows the code: nothing, or the line of a constant. -/
def AfterCode (xs : List Char) : Prop := ∀ c ∈ xs.head?, c = 'd'

theorem not_afterCode_line (i : Instruction) (xs : List Char) : ¬ AfterCode (i.line ++ xs) := by
  intro h
  rw [i.line_eq, List.append_assoc] at h
  have hinitial : i.body.initial = 'd' := h _ (i.body.head?_render _)
  cases hbody : i.body <;> simp [hbody, Body.initial] at hinitial

theorem afterCode_constants (vs : List Int) : AfterCode (vs.flatMap constantLine) := by
  cases vs with
  | nil => simp [AfterCode]
  | cons v vs => simp [AfterCode, constantLine, String.toList_append]

namespace Program

theorem toList_render (p : Program) : p.render.toList =
    p.instructions.flatMap Instruction.line ++ p.constants.flatMap constantLine := by
  rw [Program.render, String.toList_append, String.toList_join, String.toList_join,
    List.flatMap_map, List.flatMap_map]
  rfl

/-- Two programs have the same assembly text exactly if they have the same instructions and, over
all segments, the same constants. -/
theorem render_eq_iff {p q : Program} :
    p.render = q.render ↔ p.instructions = q.instructions ∧ p.constants = q.constants := by
  constructor
  · intro h
    have hlines := congrArg String.toList h
    rw [p.toList_render, q.toList_render] at hlines
    obtain ⟨hinstructions, hrest⟩ := Delimited.flatMap delimited_line not_afterCode_line
      (afterCode_constants p.constants) (afterCode_constants q.constants) hlines
    have hnonempty : ∀ (v : Int) (xs : List Char), ¬ constantLine v ++ xs = [] := by
      simp [constantLine, String.toList_append]
    have hconstants : Delimited (fun vs : List Int => vs.flatMap constantLine) (· = []) :=
      Delimited.flatMap delimited_constantLine hnonempty
    rw [← List.append_nil (p.constants.flatMap _), ← List.append_nil (q.constants.flatMap _)]
      at hrest
    exact ⟨hinstructions, (hconstants rfl rfl hrest).1⟩
  · rintro ⟨hinstructions, hconstants⟩
    rw [Program.render, Program.render, hinstructions, hconstants]

end Program

end SierraCasm.Casm
