import SierraCasm.Proofs.Lowering.Reopening
import SierraCasm.Proofs.Lowering.Safety

/-! # Where jumps and calls lead

In the blocks of statements the targets of jumps and calls are statements; assembly puts distances
in words in their place.  The code of a program is the code of its statements, one after the other
(`LoweredProgram.code`), and each statement passes control on in its code as it does in the source
(`Transfers`): the distances lead to the addresses where the code of the targets starts
(`relocated_of_compile`).

Many statements have no code of their own, so the address of a statement may be that of a later
one.  It is still inside the code, because the last statement of a program returns or jumps
(`Transfers.ne_nil_of_last`).  A function without a body is the exception: its entry is the end of
the program, and a call of it leaves the code (`callsInside_iff`). -/

namespace SierraCasm.Casm

theorem wordCount_append (a b : List Instruction) :
    wordCount (a ++ b) = wordCount a + wordCount b := by
  induction a with
  | nil => exact (Nat.zero_add _).symm
  | cons i rest ih => rw [List.cons_append, wordCount_cons, wordCount_cons, ih, Nat.add_assoc]

/-- An equation hands control to the instruction behind it. -/
def Instruction.isEquation (i : Instruction) : Bool :=
  match i.body with
  | .assertEq _ _ => true
  | _ => false

/-- The distance in words that a jump or call takes. -/
def Instruction.distance? (i : Instruction) : Option Int :=
  match i.body with
  | .jump (.immediate k) => some k
  | .jumpNonZero (.immediate k) _ => some k
  | .call (.immediate k) => some k
  | _ => none

theorem Instruction.distance?_of_isEquation {i : Instruction} (h : i.isEquation = true) :
    i.distance? = none := by
  unfold isEquation at h
  unfold distance?
  split at h
  · rename_i hbody
    rw [hbody]
  · cases h

namespace Program

/-- The word at an address is the first of an instruction. -/
def StartsInstruction (p : Program) (pc : Nat) : Prop :=
  ∃ before instruction after, p.instructions = before ++ instruction :: after ∧
    wordCount before = pc

theorem StartsInstruction.lt_codeSize {p : Program} {pc : Nat} (h : p.StartsInstruction pc) :
    pc < p.codeSize := by
  obtain ⟨before, instruction, after, hcode, rfl⟩ := h
  have hpos := instruction.size_pos
  rw [codeSize, hcode, wordCount_append, wordCount_cons]
  omega

/-- Every call leads to an instruction. -/
def CallsInside (p : Program) : Prop :=
  ∀ {before after : List Instruction} {instruction : Instruction} {k : Int},
    p.instructions = before ++ instruction :: after → instruction.body = .call (.immediate k) →
    ∃ pc : Nat, (wordCount before : Int) + k = pc ∧ p.StartsInstruction pc

end Program

end SierraCasm.Casm

namespace SierraCasm

open Sierra Concrete

/-- The operations that only fall through. -/
def Concrete.Operation.isStraight : Operation → Bool
  | .jump | .felt252IsZero | .functionCall _ | .withdrawGas => false
  | _ => true

theorem Concrete.Specialized.fallsThrough {ctx : LibfuncContext} {lib : ConcreteLibfunc}
    (h : Specialized ctx lib) (hjump : lib.operation ≠ .jump) :
    lib.signature.fallthrough = some 0 ∧ ∃ sig, lib.signature.branches[0]? = some sig := by
  cases h with
  | jump => exact absurd rfl hjump
  | _ => exact ⟨rfl, _, rfl⟩

theorem Concrete.Specialized.length_branches {ctx : LibfuncContext} {lib : ConcreteLibfunc}
    (h : Specialized ctx lib) (hstraight : lib.operation.isStraight = true) :
    lib.signature.branches.length = 1 := by
  cases h with
  | felt252IsZero | withdrawGas => cases hstraight
  | _ => rfl

namespace Registry

variable {r : Registry} {i b t : Nat} {lib : ConcreteLibfunc} {sig : BranchSignature}
  {callee : Function}

/-- Statement `i` calls a function. -/
def Calls (r : Registry) (i : Nat) (callee : Function) : Prop :=
  ∃ inv lib, r.program.statements[i]? = some (.invoke inv) ∧ r.libfunc? inv.libfunc = some lib ∧
    lib.operation = .functionCall callee

theorem Edge.calls (h : r.Edge i b lib sig t) (hop : lib.operation = .functionCall callee) :
    r.Calls i callee := by
  obtain ⟨inv, branch, hstatement, hlib, -⟩ := h
  exact ⟨inv, lib, hstatement, hlib, hop⟩

/-- A statement has branches of one libfunc only. -/
theorem Calls.operation_eq (h : r.Calls i callee) (hedge : r.Edge i b lib sig t) :
    lib.operation = .functionCall callee := by
  obtain ⟨inv, lib', hstatement, hlib, hop⟩ := h
  obtain ⟨inv', branch, hstatement', hlib', -⟩ := hedge
  cases Option.some.inj (hstatement.symm.trans hstatement')
  cases Option.some.inj (hlib.symm.trans hlib')
  exact hop

/-- A jump of statement `i` leads to a target of a branch, and a call to the entry of the callee. -/
inductive Leads (r : Registry) (i : Nat) : Casm.Body → Nat → Prop
  | jump {b t : Nat} {lib : ConcreteLibfunc} {sig : BranchSignature} {target : Casm.Operand} :
      r.Edge i b lib sig t → Leads r i (.jump target) t
  | jumpNonZero {b t : Nat} {lib : ConcreteLibfunc} {sig : BranchSignature}
      {target : Casm.Operand} {condition : Casm.CellRef} : r.Edge i b lib sig t →
      Leads r i (.jumpNonZero target condition) t
  | call {callee : Function} {target : Casm.Operand} : r.Calls i callee →
      Leads r i (.call target) callee.entry.toNat

end Registry

namespace Lowering

open Casm

/-! ### The code of statements -/

/-- The code of blocks that stand one after the other from an address on. -/
def Layout.resolveBlocks (l : Layout) : Nat → List (List Code) → List (List Instruction)
  | _, [] => []
  | pc, block :: rest => l.resolveAll pc block :: resolveBlocks l (pc + blockSize block) rest

section resolveBlocks

variable (l : Layout) (pc : Nat) (blocks : List (List Code))

theorem length_resolveBlocks : (l.resolveBlocks pc blocks).length = blocks.length := by
  induction blocks generalizing pc with
  | nil => rfl
  | cons block rest ih => rw [Layout.resolveBlocks, List.length_cons, List.length_cons, ih]

theorem flatten_resolveBlocks :
    (l.resolveBlocks pc blocks).flatten = l.resolveAll pc blocks.flatten := by
  induction blocks generalizing pc with
  | nil => rfl
  | cons block rest ih =>
    rw [Layout.resolveBlocks, List.flatten_cons, List.flatten_cons, resolveAll_append, ih]

theorem take_resolveBlocks (i : Nat) :
    (l.resolveBlocks pc blocks).take i = l.resolveBlocks pc (blocks.take i) := by
  induction blocks generalizing pc i with
  | nil => simp [Layout.resolveBlocks]
  | cons block rest ih =>
    cases i with
    | zero => rfl
    | succ i =>
      rw [Layout.resolveBlocks, List.take_succ_cons, List.take_succ_cons, ih]
      rfl

theorem getElem?_resolveBlocks (i : Nat) :
    (l.resolveBlocks pc blocks)[i]? =
      blocks[i]?.map (l.resolveAll (pc + blockSize (blocks.take i).flatten)) := by
  induction blocks generalizing pc i with
  | nil => rfl
  | cons block rest ih =>
    rw [Layout.resolveBlocks]
    cases i with
    | zero => rfl
    | succ i =>
      rw [List.getElem?_cons_succ, List.getElem?_cons_succ, ih, List.take_succ_cons,
        List.flatten_cons, blockSize_append, Nat.add_assoc]

end resolveBlocks

namespace LoweredProgram

/-- The code of each statement. -/
def code (l : LoweredProgram) : List (List Instruction) :=
  (Layout.ofBlocks l.blocks).resolveBlocks 0 l.blocks

/-- The address at which the code of statement `i` starts: the size of the code before it. -/
def start (l : LoweredProgram) (i : Nat) : Nat := wordCount (l.code.take i).flatten

variable (l : LoweredProgram)

theorem length_code : l.code.length = l.blocks.length := length_resolveBlocks _ _ _

theorem flatten_code : (assemble l.blocks).instructions = l.code.flatten :=
  (flatten_resolveBlocks _ _ _).symm

/-- The address that replaces a statement is where its code starts. -/
theorem statementAddress_eq_start (i : Nat) :
    (Layout.ofBlocks l.blocks).statementAddress i = l.start i := by
  rw [start, code, take_resolveBlocks, flatten_resolveBlocks, Layout.wordCount_resolveAll,
    statementAddress_eq]

variable {l} {i : Nat}

theorem exists_block {c : List Instruction} (h : l.code[i]? = some c) :
    ∃ block, l.blocks[i]? = some block ∧
      c = (Layout.ofBlocks l.blocks).resolveAll (l.start i) block := by
  rw [code, getElem?_resolveBlocks, Option.map_eq_some_iff] at h
  obtain ⟨block, hblock, rfl⟩ := h
  refine ⟨block, hblock, ?_⟩
  rw [Nat.zero_add, ← statementAddress_eq, statementAddress_eq_start]

theorem start_succ {c : List Instruction} (h : l.code[i]? = some c) :
    l.start (i + 1) = l.start i + wordCount c := by
  rw [start, start, List.take_add_one, h, Option.toList_some, List.flatten_append,
    wordCount_append, List.flatten_singleton]

theorem start_of_length_le (h : l.blocks.length ≤ i) :
    l.start i = (assemble l.blocks).codeSize := by
  rw [start, List.take_of_length_le (by rwa [length_code]), Program.codeSize, flatten_code]

theorem add_distance_eq (l : LoweredProgram) (pc t : Nat) :
    (pc : Int) + (((Layout.ofBlocks l.blocks).statementAddress t : Int) - pc) = l.start t := by
  rw [statementAddress_eq_start]
  omega

end LoweredProgram

/-! ### How statements pass control on -/

/-- The code of statement `i` passes control on as the statement does, given where the code of each
statement starts. -/
inductive Transfers (r : Registry) (start : Nat → Nat) (i : Nat) : List Instruction → Prop
  | ret : r.IsReturn i → Transfers r start i [{ body := .ret }]
  | straight {lib : ConcreteLibfunc} {sig : BranchSignature} {code : List Instruction} :
      lib.operation.isStraight = true → lib.signature.branches.length = 1 →
      r.Edge i 0 lib sig (i + 1) → (∀ instruction ∈ code, instruction.isEquation = true) →
      Transfers r start i code
  | jump {lib : ConcreteLibfunc} {sig : BranchSignature} {t : Nat} {k : Int} :
      lib.operation = .jump → r.Edge i 0 lib sig t → (start i : Int) + k = start t →
      Transfers r start i [{ body := .jump (.immediate k) }]
  | jumpNonZero {lib : ConcreteLibfunc} {sig sig' : BranchSignature} {t : Nat} {k : Int}
      {condition : CellRef} : lib.operation = .felt252IsZero → r.Edge i 0 lib sig (i + 1) →
      r.Edge i 1 lib sig' t → (start i : Int) + k = start t →
      Transfers r start i [{ body := .jumpNonZero (.immediate k) condition }]
  | call {lib : ConcreteLibfunc} {sig : BranchSignature} {callee : Function} {k : Int} :
      lib.operation = .functionCall callee → r.Edge i 0 lib sig (i + 1) →
      (start i : Int) + k = start callee.entry.toNat →
      Transfers r start i [{ body := .call (.immediate k) }]
  /-- the counter is copied; if it is not zero, the jump to the second branch is skipped -/
  | withdrawGas {lib : ConcreteLibfunc} {sig sig' : BranchSignature} {t : Nat} {k : Int}
      {copy : Instruction} : lib.operation = .withdrawGas → r.Edge i 0 lib sig (i + 1) →
      r.Edge i 1 lib sig' t → copy.isEquation = true → copy.size = 1 →
      (start i + 1 : Int) + 4 = start (i + 1) → (start i + 3 : Int) + k = start t →
      Transfers r start i
        [copy, { body := .jumpNonZero (.immediate 4) ⟨.ap, -1⟩ }, { body := .jump (.immediate k) }]

theorem store_isEquation {e : Expr} {s : ApState} {instruction : Instruction}
    (h : store e s = .ok instruction) : instruction.isEquation = true := by
  obtain ⟨dst, res, -, rfl⟩ := store_eq_ok_iff.mp h
  rfl

theorem storeAll_isEquation {es : List Expr} {s : ApState} {code : List Instruction}
    (h : storeAll s es = .ok code) : ∀ instruction ∈ code, instruction.isEquation = true := by
  induction es generalizing s code with
  | nil =>
    cases h
    simp
  | cons e es ih =>
    obtain ⟨instruction, hstore, h⟩ := bind_eq_ok.mp h
    obtain ⟨rest, hrest, h⟩ := bind_eq_ok.mp h
    cases h
    exact List.forall_mem_cons.mpr ⟨store_isEquation hstore, ih hrest⟩

theorem resolveAll_plain (l : Layout) (pc : Nat) (code : List Instruction) :
    l.resolveAll pc (code.map .plain) = code := by
  induction code generalizing pc with
  | nil => rfl
  | cons i rest ih => rw [List.map_cons, Layout.resolveAll, ih]; rfl

section transfers

variable {r : Registry} {m : Metadata} {l : LoweredProgram} {i : Nat}

theorem Invoked.edge_next (hvalid : r.Valid) {envs : EnvTable} {inv : Invocation} {site : Ap.Site}
    {env rest : Env} {lib : ConcreteLibfunc} {args : List Ref} {lowered : Lowered}
    (h : Invoked ⟨r, m⟩ envs i inv site env lib args rest lowered)
    (hjump : lib.operation ≠ .jump) : ∃ sig, r.Edge i 0 lib sig (i + 1) := by
  have hinv := h.valid hvalid
  obtain ⟨hfalls, sig, hsig⟩ := (hvalid.libfunc h.lib_eq).fallsThrough hjump
  obtain ⟨branch, hbranch⟩ := exists_branch hinv hsig
  have hedge := h.edge hbranch hsig
  rw [target_of_fallthrough hinv hfalls hbranch hsig] at hedge
  exact ⟨sig, hedge⟩

/-- The statement that lowering takes for the target of a branch is the target of an edge. -/
theorem Invoked.edge_of_branchTarget (hvalid : r.Valid) {envs : EnvTable} {inv : Invocation}
    {site : Ap.Site} {env rest : Env} {lib : ConcreteLibfunc} {args : List Ref} {lowered : Lowered}
    (h : Invoked ⟨r, m⟩ envs i inv site env lib args rest lowered) {b target : Nat}
    (htarget : branchTarget inv i b = .ok target) : ∃ sig, r.Edge i b lib sig target := by
  obtain ⟨branch, hbranch, rfl⟩ := branchTarget_eq_ok htarget
  obtain ⟨sig, hsig⟩ := (h.valid hvalid).exists_signature hbranch
  exact ⟨sig, h.edge hbranch hsig⟩

/-- The code of a statement passes control on as the statement does. -/
theorem LoweredProgram.Valid.transfers (hvalid : r.Valid) (hl : l.Valid ⟨r, m⟩)
    {c : List Instruction} (hc : l.code[i]? = some c) : Transfers r l.start i c := by
  have hnext := LoweredProgram.start_succ hc
  obtain ⟨block, hblock, rfl⟩ := LoweredProgram.exists_block hc
  obtain ⟨statement, hstatement⟩ : ∃ statement, r.program.statements[i]? = some statement := by
    have hlt := (List.getElem?_eq_some_iff.mp hblock).1
    rw [hl.length_blocks] at hlt
    exact ⟨_, List.getElem?_eq_getElem hlt⟩
  cases hl.statement hblock hstatement with
  | ret hreturned =>
    obtain ⟨_, _, -, -, rfl⟩ := lowerReturn_eq_ok hreturned.code_eq
    exact .ret ⟨_, hstatement⟩
  | @invoke inv site env rest lib args lowered hinvoked hcode =>
    subst hcode
    have hlib := hvalid.libfunc hinvoked.lib_eq
    have hlowers := lowerInvocation_eq_ok hinvoked.lowered_eq
    generalize hop : lib.operation = op at hlowers
    have hstraight : ∀ {code : List Instruction}, op.isStraight = true →
        (∀ instruction ∈ code, instruction.isEquation = true) → Transfers r l.start i code := by
      intro code hop' hcode
      have hjump : lib.operation ≠ .jump := by
        rintro heq
        rw [← hop, heq] at hop'
        cases hop'
      obtain ⟨sig, hedge⟩ := hinvoked.edge_next hvalid hjump
      rw [← hop] at hop'
      exact .straight hop' (hlib.length_branches hop') hedge hcode
    cases hlowers with
    | jump htarget =>
      obtain ⟨sig, hedge⟩ := hinvoked.edge_of_branchTarget hvalid htarget
      exact .jump hop hedge (l.add_distance_eq _ _)
    | felt252IsZero hcondition htarget =>
      obtain ⟨sig, hedge⟩ := hinvoked.edge_next hvalid (by rw [hop]; simp)
      obtain ⟨sig', hedge'⟩ := hinvoked.edge_of_branchTarget hvalid htarget
      exact .jumpNonZero hop hedge hedge' (l.add_distance_eq _ _)
    | functionCall =>
      obtain ⟨sig, hedge⟩ := hinvoked.edge_next hvalid (by rw [hop]; simp)
      exact .call hop hedge (l.add_distance_eq _ _)
    | withdrawGas hcell htarget =>
      obtain ⟨sig, hedge⟩ := hinvoked.edge_next hvalid (by rw [hop]; simp)
      obtain ⟨sig', hedge'⟩ := hinvoked.edge_of_branchTarget hvalid htarget
      refine .withdrawGas hop hedge hedge' rfl rfl ?_ ?_
      · rw [Layout.wordCount_resolveAll] at hnext
        rw [hnext]
        rfl
      · exact l.add_distance_eq (l.start i + 3) _
    | storeTemp hstore =>
      refine hstraight rfl ?_
      rw [Lowered.single, resolveAll_plain]
      exact storeAll_isEquation hstore
    | constAsBox => exact hstraight rfl (List.forall_mem_singleton.mpr rfl)
    | _ => exact hstraight rfl fun _ hmem => absurd hmem List.not_mem_nil

/-- The last statement of a program has code: it returns or jumps, since all others pass control on
to the statement behind them. -/
theorem Transfers.ne_nil_of_last {start : Nat → Nat} {c : List Instruction}
    (h : Transfers r start i c)
    (hedges : ∀ {b lib sig t}, r.Edge i b lib sig t → t < r.program.statements.length)
    (hlast : r.program.statements.length ≤ i + 1) : c ≠ [] := by
  cases h with
  | straight _ _ hedge =>
    have := hedges hedge
    omega
  | _ => exact List.cons_ne_nil _ _

/-- A jump or call in the code of a statement leads to a statement that control can go to. -/
theorem Transfers.leads {start : Nat → Nat} {first rest : List Instruction}
    {instruction : Instruction} {k : Int} (h : Transfers r start i (first ++ instruction :: rest))
    (hk : instruction.distance? = some k) :
    ∃ t, r.Leads i instruction.body t ∧
      ((start i + wordCount first : Nat) : Int) + k = start t := by
  generalize hc : first ++ instruction :: rest = c at h
  have hsingle : ∀ {j : Instruction}, c = [j] → first = [] ∧ instruction = j := by
    rintro j rfl
    cases first with
    | nil => exact ⟨rfl, (List.cons.inj hc).1⟩
    | cons a first => cases first <;> cases (List.cons.inj hc).2
  cases h with
  | ret =>
    obtain ⟨rfl, rfl⟩ := hsingle rfl
    cases hk
  | straight _ _ _ hequations =>
    have hmem : instruction ∈ c := hc ▸ List.mem_append_right _ List.mem_cons_self
    rw [Instruction.distance?_of_isEquation (hequations _ hmem)] at hk
    cases hk
  | jump _ hedge hdistance =>
    obtain ⟨rfl, rfl⟩ := hsingle rfl
    cases hk
    exact ⟨_, .jump hedge, hdistance⟩
  | jumpNonZero _ _ hedge hdistance =>
    obtain ⟨rfl, rfl⟩ := hsingle rfl
    cases hk
    exact ⟨_, .jumpNonZero hedge, hdistance⟩
  | call hop hedge hdistance =>
    obtain ⟨rfl, rfl⟩ := hsingle rfl
    cases hk
    exact ⟨_, .call (hedge.calls hop), hdistance⟩
  | @withdrawGas _ _ _ t k' copy _ hedge hedge' hcopy hsize hskip hdistance =>
    cases first with
    | nil =>
      rw [List.nil_append, List.cons.injEq] at hc
      rw [hc.1, Instruction.distance?_of_isEquation hcopy] at hk
      cases hk
    | cons first first' =>
      rw [List.cons_append, List.cons.injEq] at hc
      obtain ⟨rfl, hc⟩ := hc
      cases first' with
      | nil =>
        rw [List.nil_append, List.cons.injEq] at hc
        obtain ⟨rfl, -⟩ := hc
        cases hk
        refine ⟨i + 1, .jumpNonZero hedge, ?_⟩
        rw [wordCount_cons, hsize]
        exact hskip
      | cons second rest' =>
        rw [List.cons_append, List.cons.injEq, List.append_eq_singleton_iff] at hc
        obtain ⟨rfl, ⟨rfl, hc⟩ | ⟨-, hc⟩⟩ := hc
        · cases hc
          cases hk
          refine ⟨t, .jump hedge', ?_⟩
          rw [wordCount_cons, hsize]
          exact hdistance
        · cases hc

end transfers

/-! ### Programs -/

/-- The jumps and calls of a program lead where its statements say. -/
structure LoweredProgram.Relocated (r : Registry) (l : LoweredProgram) (out : Casm.Program) :
    Prop where
  /-- the code of the program is the code of its statements, one after the other -/
  length : l.code.length = r.program.statements.length
  flatten : out.instructions = l.code.flatten
  start_zero : l.start 0 = 0
  start_succ : ∀ {i : Nat} {c : List Instruction}, l.code[i]? = some c →
    l.start (i + 1) = l.start i + wordCount c
  /-- statements that control can go to are inside the code, also those without code of their own -/
  edge : ∀ {i b t : Nat} {lib : ConcreteLibfunc} {sig : BranchSignature}, r.Edge i b lib sig t →
    t < r.program.statements.length
  inside : ∀ {t : Nat}, t < r.program.statements.length →
    out.StartsInstruction (l.start t) ∧ l.start t < out.codeSize
  /-- the code of a statement passes control on as the statement does -/
  transfers : ∀ {i : Nat} {c : List Instruction}, l.code[i]? = some c → Transfers r l.start i c
  /-- a jump or call is in the code of a statement that can pass control on to where it leads -/
  instruction : ∀ {before after : List Instruction} {instruction : Instruction} {k : Int},
    out.instructions = before ++ instruction :: after → instruction.distance? = some k →
    ∃ i t, l.start i ≤ wordCount before ∧ wordCount before < l.start (i + 1) ∧
      r.Leads i instruction.body t ∧ (wordCount before : Int) + k = l.start t

section programs

variable {r : Registry} {m : Metadata} {l : LoweredProgram}

/-- Lowering reaches every statement, so no branch leaves the program. -/
theorem LoweredProgram.Valid.edge_lt (hm : m.Consistent r) (hl : l.Valid ⟨r, m⟩) {i b t : Nat}
    {lib : ConcreteLibfunc} {sig : BranchSignature} (hedge : r.Edge i b lib sig t) :
    t < r.program.statements.length := by
  have hi : i < r.program.statements.length := by
    obtain ⟨inv, branch, hstatement, -⟩ := hedge
    exact (List.getElem?_eq_some_iff.mp hstatement).1
  obtain ⟨-, site, -, hsite⟩ := hl.reached hi
  exact (recorded hm hsite hedge).2.2

/-- There is an instruction at the address of every statement, since the last one has code. -/
theorem LoweredProgram.Valid.startsInstruction (hvalid : r.Valid) (hm : m.Consistent r)
    (hl : l.Valid ⟨r, m⟩) {t : Nat} (ht : t < r.program.statements.length) :
    (assemble l.blocks).StartsInstruction (l.start t) := by
  have hlength : l.code.length = r.program.statements.length :=
    l.length_code.trans hl.length_blocks
  have hlast : r.program.statements.length - 1 < l.code.length := by omega
  have hget := List.getElem?_eq_getElem hlast
  have hne : l.code[r.program.statements.length - 1] ≠ [] :=
    (hl.transfers hvalid hget).ne_nil_of_last (hl.edge_lt hm) (by omega)
  have hmem : l.code[r.program.statements.length - 1] ∈ l.code.drop t := by
    rw [List.mem_drop_iff_getElem]
    exact ⟨r.program.statements.length - 1 - t, by omega, by congr 1; omega⟩
  have hrest : (l.code.drop t).flatten ≠ [] := by
    intro hnil
    exact hne (List.flatten_eq_nil_iff.mp hnil _ hmem)
  obtain ⟨instruction, after, hafter⟩ := List.exists_cons_of_ne_nil hrest
  refine ⟨(l.code.take t).flatten, instruction, after, ?_, rfl⟩
  rw [l.flatten_code, ← hafter, ← List.flatten_append, List.take_append_drop]

theorem LoweredProgram.Valid.relocated (hvalid : r.Valid) (hm : m.Consistent r)
    (hl : l.Valid ⟨r, m⟩) : l.Relocated r (assemble l.blocks) := by
  have htransfers : ∀ {i c}, l.code[i]? = some c → Transfers r l.start i c :=
    fun hc => hl.transfers hvalid hc
  refine
    { length := l.length_code.trans hl.length_blocks
      flatten := l.flatten_code
      start_zero := rfl
      start_succ := LoweredProgram.start_succ
      edge := hl.edge_lt hm
      inside := fun ht => ?_
      transfers := htransfers
      instruction := fun {before after instruction k} hout hk => ?_ }
  · have hstarts := hl.startsInstruction hvalid hm ht
    exact ⟨hstarts, hstarts.lt_codeSize⟩
  · rw [l.flatten_code] at hout
    obtain ⟨i, first, rest, hc, rfl⟩ := flatten_eq_append hout
    obtain ⟨t, hleads, hdistance⟩ := (htransfers hc).leads hk
    have hnext := LoweredProgram.start_succ hc
    have hpos := instruction.size_pos
    have hbefore : wordCount ((l.code.take i).flatten ++ first) = l.start i + wordCount first := by
      rw [wordCount_append, LoweredProgram.start]
    rw [wordCount_append, wordCount_cons] at hnext
    rw [hbefore]
    exact ⟨i, t, by omega, by omega, hleads, hdistance⟩

end programs

end Lowering

open Lowering in
/-- The control flow of a compiled program is that of its statements: the code of each starts where
that of the one before it ends, and jumps, calls and skips lead from their addresses to where the
code of the targets starts, which is inside the code. -/
theorem relocated_of_compile {p : Sierra.Program} {r : Registry} {m : Metadata}
    {config : CompileConfig} {out : Casm.Program} {l : LoweredProgram}
    (hbuild : Registry.build p = .ok r) (hanalyze : analyze r = .ok m)
    (hcompile : compile r m config = .ok out) (hlower : lowerProgram ⟨r, m⟩ = .ok l) :
    l.Relocated r out := by
  obtain ⟨l', hlower', rfl⟩ := compile_eq_ok hcompile
  obtain rfl := Except.ok.inj (hlower.symm.trans hlower')
  have hconsistent := analyze_consistent hanalyze
  have hl := lowerProgram_valid hconsistent hlower
  exact hl.relocated (Registry.build_valid hbuild).2 hconsistent

/-- Function `0` withdraws gas and hands its builtins to function `1`; both branches of the
withdrawal start with a statement that has no code. -/
def detour : Sierra.Program where
  types := [.numbered 0 "RangeCheck", .numbered 1 "GasBuiltin"]
  libfuncs :=
    [.numbered 0 "withdraw_gas", .numbered 1 "branch_align", .numbered 2 "jump",
     .numbered 3 "store_temp" [.type { id := 0 }], .numbered 4 "store_temp" [.type { id := 1 }],
     .numbered 5 "function_call" [.userFunc { id := 1 }]]
  statements :=
    [.numbered 0 [0, 1] [(.fallthrough, [0, 1]), (.statement 3, [0, 1])],
     .numbered 1 [] [(.fallthrough, [])],
     .numbered 2 [] [(.statement 4, [])],
     .numbered 1 [] [(.fallthrough, [])],
     .numbered 3 [0] [(.fallthrough, [0])],
     .numbered 4 [1] [(.fallthrough, [1])],
     .numbered 5 [0, 1] [(.fallthrough, [0, 1])],
     .ret [⟨0⟩, ⟨1⟩],
     .numbered 3 [0] [(.fallthrough, [0])],
     .numbered 4 [1] [(.fallthrough, [1])],
     .ret [⟨0⟩, ⟨1⟩]]
  functions := [.numbered 0 [0, 1] [0, 1] 0, .numbered 1 [0, 1] [0, 1] 8]

open Lowering Casm in
/-- The addresses of `detour`, where statements `1` and `3` share the address of the next. -/
theorem relocated_detour :
    ∃ r m out l, Registry.build detour = .ok r ∧ analyze r = .ok m ∧ compile r m {} = .ok out ∧
      lowerProgram ⟨r, m⟩ = .ok l ∧
      (List.range 12).map l.start = [0, 5, 5, 7, 7, 8, 9, 11, 12, 13, 14, 15] ∧
      out.instructions.filterMap (·.distance?) = [4, 4, 2, 3] ∧ l.Relocated r out := by
  obtain ⟨r, hbuild, hr⟩ : ∃ r, Registry.build detour = .ok r ∧
      ((analyze r).toOption.any fun m => (compile r m {}).toOption.any fun out =>
        (lowerProgram ⟨r, m⟩).toOption.any fun l =>
          decide ((List.range 12).map l.start = [0, 5, 5, 7, 7, 8, 9, 11, 12, 13, 14, 15]) &&
          decide (out.instructions.filterMap (·.distance?) = [4, 4, 2, 3])) = true :=
    exists_of_toOption_any (by decide +kernel)
  obtain ⟨m, hanalyze, hm⟩ := exists_of_toOption_any hr
  obtain ⟨out, hcompile, hout⟩ := exists_of_toOption_any hm
  obtain ⟨l, hlower, hl⟩ := exists_of_toOption_any hout
  rw [Bool.and_eq_true, decide_eq_true_eq, decide_eq_true_eq] at hl
  exact ⟨r, m, out, l, hbuild, hanalyze, hcompile, hlower, hl.1, hl.2,
    relocated_of_compile hbuild hanalyze hcompile hlower⟩

/-! ### Calls -/

section calls

open Lowering Casm

variable {r : Registry} {m : Metadata} {l : LoweredProgram}

/-- The code of a statement that calls a function is one call. -/
theorem Lowering.Transfers.of_calls {start : Nat → Nat} {i : Nat} {c : List Instruction}
    {callee : Function} (h : Transfers r start i c) (hcalls : r.Calls i callee) :
    ∃ k, c = [{ body := .call (.immediate k) }] ∧
      (start i : Int) + k = start callee.entry.toNat := by
  cases h with
  | ret hreturn =>
    obtain ⟨vars, hret⟩ := hreturn
    obtain ⟨inv, lib, hstatement, -⟩ := hcalls
    rw [hret] at hstatement
    cases hstatement
  | straight hop _ hedge =>
    rw [hcalls.operation_eq hedge] at hop
    cases hop
  | call hop hedge hdistance =>
    cases hop.symm.trans (hcalls.operation_eq hedge)
    exact ⟨_, rfl, hdistance⟩
  | jump hop hedge | jumpNonZero hop hedge | withdrawGas hop hedge =>
    cases hop.symm.trans (hcalls.operation_eq hedge)

theorem Registry.Calls.entry_le (hvalid : r.Valid) {i : Nat} {callee : Function}
    (h : r.Calls i callee) : callee.entry.toNat ≤ r.program.statements.length := by
  obtain ⟨inv, lib, -, hlib, hop⟩ := h
  have hentry := hvalid.entry (hvalid.callee_mem hlib hop)
  omega

/-- Where the calls of a program lead: to an instruction if the callee has a body, and behind the
code otherwise. -/
theorem Lowering.LoweredProgram.Valid.call_leads (hvalid : r.Valid) (hm : m.Consistent r)
    (hl : l.Valid ⟨r, m⟩) {before after : List Instruction} {instruction : Instruction} {k : Int}
    (hout : (assemble l.blocks).instructions = before ++ instruction :: after)
    (hcall : instruction.body = .call (.immediate k)) :
    ∃ i callee, r.Calls i callee ∧
      (callee.entry.toNat < r.program.statements.length ∧
          (∃ pc : Nat, (wordCount before : Int) + k = pc ∧
            (assemble l.blocks).StartsInstruction pc) ∨
        callee.entry.toNat = r.program.statements.length ∧
          (wordCount before : Int) + k = (assemble l.blocks).codeSize) := by
  have hrelocated := hl.relocated hvalid hm
  have hdistance : instruction.distance? = some k := by rw [Instruction.distance?, hcall]
  obtain ⟨i, t, -, -, hleads, hk⟩ := hrelocated.instruction hout hdistance
  rw [hcall] at hleads
  cases hleads with
  | @call callee _ hcalls =>
    refine ⟨i, callee, hcalls, ?_⟩
    by_cases hbody : callee.entry.toNat < r.program.statements.length
    · exact .inl ⟨hbody, _, hk, (hrelocated.inside hbody).1⟩
    · have hle := hcalls.entry_le hvalid
      refine .inr ⟨by omega, ?_⟩
      rw [hk, LoweredProgram.start_of_length_le (hl.length_blocks.le.trans (Nat.not_lt.mp hbody))]

/-- The callees of a program whose calls lead to instructions have bodies. -/
theorem Lowering.LoweredProgram.Valid.entry_lt (hvalid : r.Valid) (hl : l.Valid ⟨r, m⟩)
    (hinside : (assemble l.blocks).CallsInside) {i : Nat} {callee : Function}
    (hcalls : r.Calls i callee) : callee.entry.toNat < r.program.statements.length := by
  have hlength : l.code.length = r.program.statements.length :=
    l.length_code.trans hl.length_blocks
  have hi : i < l.code.length := by
    obtain ⟨inv, lib, hstatement, -⟩ := hcalls
    rw [hlength]
    exact (List.getElem?_eq_some_iff.mp hstatement).1
  obtain ⟨k, hcode, hk⟩ :=
    (hl.transfers hvalid (List.getElem?_eq_getElem hi)).of_calls hcalls
  have hout : (assemble l.blocks).instructions = (l.code.take i).flatten ++
      { body := .call (.immediate k) } :: (l.code.drop (i + 1)).flatten := by
    rw [l.flatten_code, ← List.singleton_append, ← hcode, ← List.flatten_cons,
      ← List.drop_eq_getElem_cons hi, ← List.flatten_append, List.take_append_drop]
  obtain ⟨pc, hpc, hstarts⟩ := hinside hout rfl
  have hlt := hstarts.lt_codeSize
  by_contra hbody
  have hend := LoweredProgram.start_of_length_le
    (hl.length_blocks.le.trans (Nat.not_lt.mp hbody))
  have hstart : (wordCount (l.code.take i).flatten : Int) = l.start i := rfl
  omega

end calls

open Lowering Casm in
/-- The calls of a compiled program all lead to instructions exactly if all functions that are
called have bodies; a call of one without a body leads behind the code. -/
theorem callsInside_iff {p : Sierra.Program} {r : Registry} {m : Metadata} {config : CompileConfig}
    {out : Casm.Program} (hbuild : Registry.build p = .ok r) (hanalyze : analyze r = .ok m)
    (hcompile : compile r m config = .ok out) :
    (out.CallsInside ↔ r.CalleesHaveBodies) ∧
      ∀ {before after : List Instruction} {instruction : Instruction} {k : Int},
        out.instructions = before ++ instruction :: after →
        instruction.body = .call (.immediate k) → ∃ i callee, r.Calls i callee ∧
          (callee.entry.toNat < r.program.statements.length ∧
              (∃ pc : Nat, (wordCount before : Int) + k = pc ∧ out.StartsInstruction pc) ∨
            callee.entry.toNat = r.program.statements.length ∧
              (wordCount before : Int) + k = out.codeSize) := by
  obtain ⟨l, hlower, rfl⟩ := compile_eq_ok hcompile
  have hm := analyze_consistent hanalyze
  have hl := lowerProgram_valid hm hlower
  have hvalid := (Registry.build_valid hbuild).2
  refine ⟨⟨fun hinside => ?_, fun hbodies => ?_⟩, hl.call_leads hvalid hm⟩
  · intro i inv lib callee hstatement hlib hop
    exact hl.entry_lt hvalid hinside ⟨inv, lib, hstatement, hlib, hop⟩
  · intro before after instruction k hout hcall
    obtain ⟨i, callee, ⟨inv, lib, hstatement, hlib, hop⟩, h⟩ := hl.call_leads hvalid hm hout hcall
    have hbody := hbodies hstatement hlib hop
    rcases h with ⟨-, hpc⟩ | ⟨hend, -⟩
    · exact hpc
    · omega

open Lowering Casm in
/-- The call of `detour` leads to the code of function `1`. -/
theorem callsInside_detour :
    ∃ r m out, Registry.build detour = .ok r ∧ analyze r = .ok m ∧ compile r m {} = .ok out ∧
      ⟨.call (.immediate 3), false⟩ ∈ out.instructions ∧ out.CallsInside := by
  obtain ⟨r, hbuild, hr⟩ : ∃ r, Registry.build detour = .ok r ∧
      ((analyze r).toOption.any fun m => (compile r m {}).toOption.any fun out =>
        decide (⟨.call (.immediate 3), false⟩ ∈ out.instructions)) = true :=
    exists_of_toOption_any (by decide +kernel)
  obtain ⟨m, hanalyze, hm⟩ := exists_of_toOption_any hr
  obtain ⟨out, hcompile, hout⟩ := exists_of_toOption_any hm
  obtain ⟨hprogram, hvalid⟩ := Registry.build_valid hbuild
  have hentries : ∀ f ∈ r.program.functions, f.entry.toNat < r.program.statements.length := by
    rw [hprogram]
    decide
  have hbodies : r.CalleesHaveBodies := fun _ hlib hop => hentries _ (hvalid.callee_mem hlib hop)
  exact ⟨r, m, out, hbuild, hanalyze, hcompile, of_decide_eq_true hout,
    (callsInside_iff hbuild hanalyze hcompile).1.mpr hbodies⟩

/-- Function `0` takes the address of a constant and calls function `1`, whose entry is the end of
the program. -/
def hollow : Sierra.Program where
  types :=
    [.numbered 0 "felt252", .numbered 1 "Const" [.type { id := 0 }, .value 7],
     .numbered 2 "Box" [.type { id := 0 }]]
  libfuncs :=
    [.numbered 0 "const_as_box" [.type { id := 1 }, .value 0],
     .numbered 1 "drop" [.type { id := 2 }], .numbered 2 "function_call" [.userFunc { id := 1 }]]
  statements :=
    [.numbered 0 [] [(.fallthrough, [0])],
     .numbered 1 [0] [(.fallthrough, [])],
     .numbered 2 [] [(.fallthrough, [])],
     .ret []]
  functions := [.numbered 0 [] [] 0, .numbered 1 [] [] 4]

open Lowering Casm in
/-- The call of `hollow` at address `2` leads to the constant `7` at address `5`. -/
theorem not_callsInside_hollow :
    ∃ r m out, Registry.build hollow = .ok r ∧ analyze r = .ok m ∧ compile r m {} = .ok out ∧
      out = { instructions := [push top (.immediate 5), { body := .call (.immediate 3) },
                { body := .ret }]
              segments := [⟨0, 5, [7]⟩] } ∧ ¬out.CallsInside := by
  obtain ⟨r, hbuild, hr⟩ : ∃ r, Registry.build hollow = .ok r ∧
      ((analyze r).toOption.any fun m => (compile r m {}).toOption.any fun out =>
        decide (out = { instructions := [push top (.immediate 5), { body := .call (.immediate 3) },
                          { body := .ret }]
                        segments := [⟨0, 5, [7]⟩] })) = true :=
    exists_of_toOption_any (by decide +kernel)
  obtain ⟨m, hanalyze, hm⟩ := exists_of_toOption_any hr
  obtain ⟨out, hcompile, hout⟩ := exists_of_toOption_any hm
  rw [decide_eq_true_eq] at hout
  refine ⟨r, m, out, hbuild, hanalyze, hcompile, hout, fun hinside => ?_⟩
  have hcall : out.instructions =
      [push top (.immediate 5)] ++ { body := .call (.immediate 3) } :: [{ body := .ret }] := by
    rw [hout]
    rfl
  have hcodeSize : out.codeSize = 5 := by
    rw [hout]
    rfl
  obtain ⟨pc, hpc, hstarts⟩ := hinside hcall rfl
  have hlt := hstarts.lt_codeSize
  have hsize : wordCount [push top (.immediate 5)] = 2 := rfl
  omega

end SierraCasm
