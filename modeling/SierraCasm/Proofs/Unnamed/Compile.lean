import SierraCasm.Compile
import SierraCasm.Proofs.Unnamed.Analysis

/-! # Compilation without debug names

Lowering carries the types of values in its environments, but it compares types by number and takes
nothing but sizes from them.  So it emits the same code with and without debug names, or stops with
the same fault up to debug names (`agree_lowerProgram`), and so does compilation (`agree_compile`).  Two programs
that are equal up to debug names are therefore alike in every stage (`agree_of_unnamed_eq`). -/

namespace SierraCasm

open Sierra Concrete

namespace Lowering

/-! ### Values without debug names -/

def Ref.unnamed (r : Ref) : Ref := { r with type := r.type.unnamed }

def Env.unnamed (e : Env) : Env := ⟨e.bindings.map fun b => (b.1, b.2.unnamed)⟩

def EnvTable.unnamed (t : EnvTable) : EnvTable := t.map (Option.map Env.unnamed)

def unnamedSizes (sized : List (Ident × Nat)) : List (Ident × Nat) :=
  sized.map fun x => (x.1.unnamed, x.2)

def Lowered.unnamed (l : Lowered) : Lowered :=
  { l with outputs := l.outputs.map (·.map Ref.unnamed) }

def Defect.unnamed : Defect → Defect
  | .wrongType v actual expected => .wrongType v actual.unnamed expected.unnamed
  | .returnCount f expected got => .returnCount f.unnamed expected got
  | d => d

def Fault.unnamed (f : Fault) : Fault := { f with defect := f.defect.unnamed }

theorem Fault.unnamed_unnamed (f : Fault) : f.unnamed.unnamed = f.unnamed := by
  obtain ⟨i, defect⟩ := f
  cases defect <;> rfl

/-- The second computation succeeds when the first one does, with the image of its result, and
stops with the same defect otherwise. -/
abbrev Reflected {α β : Type} (u : α → β) (x : Except Defect α) (y : Except Defect β) : Prop :=
  Agree (fun d d' => d' = d.unnamed) (fun a b => b = u a) x y

theorem agree_mapError {α δ : Type} (x : Except δ α) {f : δ → Defect}
    (h : ∀ d, (f d).unnamed = f d) :
    Agree (fun d d' => d' = d.unnamed) Eq (x.mapError f) (x.mapError f) := by
  cases x with
  | ok a => exact .ok rfl
  | error d => exact .error (h d).symm

theorem cellsOf_unnamed (refs : List Ref) : cellsOf (refs.map Ref.unnamed) = cellsOf refs := by
  simp [cellsOf, List.flatMap_map, Ref.unnamed]

theorem totalCells_unnamed (sized : List (Ident × Nat)) :
    totalCells (unnamedSizes sized) = totalCells sized := by
  simp [totalCells, unnamedSizes, List.foldr_map]

theorem place_unnamed (cell : Int64 → Cell) (position : Int64) (sized : List (Ident × Nat)) :
    place cell position (unnamedSizes sized) = (place cell position sized).map Ref.unnamed := by
  induction sized generalizing position with
  | nil => rfl
  | cons x rest ih => exact congrArg (_ :: ·) (ih _)

theorem zipWith_mk_unnamed (types : List Ident) (cells : List (List Expr)) :
    List.zipWith Ref.mk (types.map (·.unnamed)) cells =
      (List.zipWith Ref.mk types cells).map Ref.unnamed := by
  rw [List.zipWith_map_left, List.map_zipWith]
  rfl

theorem outputs_unnamed (sig : Signature) (b : Nat) :
    sig.unnamed.outputs b = (sig.outputs b).map (·.unnamed) := by
  simp only [Signature.outputs, Signature.unnamed, List.getElem?_map]
  cases sig.branches[b]? with
  | none => rfl
  | some branch => rfl

theorem single_unnamed (sig : Signature) (cells : List (List Expr)) (code : List Code) :
    Lowered.single sig.unnamed cells code = (Lowered.single sig cells code).unnamed := by
  simp [Lowered.single, Lowered.unnamed, outputs_unnamed, zipWith_mk_unnamed]

/-! ### Environments -/

namespace Env

theorem find?_unnamed (e : Env) (v : VarId) : e.unnamed.find? v = (e.find? v).map Ref.unnamed := by
  simp only [find?, unnamed, List.find?_map, Option.map_map]
  rfl

theorem erase_unnamed (e : Env) (v : VarId) : e.unnamed.erase v = (e.erase v).unnamed := by
  simp only [erase, unnamed, List.filter_map]
  rfl

theorem insert_unnamed (e : Env) (v : VarId) (r : Ref) :
    e.unnamed.insert v r.unnamed = (e.insert v r).unnamed := by
  obtain ⟨bindings⟩ := e
  simp only [insert, unnamed, mk.injEq]
  induction bindings with
  | nil => rfl
  | cons b bs ih =>
    simp only [List.map_cons, insertBinding]
    split
    · rfl
    · split
      · rfl
      · rw [List.map_cons, ih]

theorem vars_unnamed (e : Env) : e.unnamed.vars = e.vars := by
  simp [vars, unnamed, Function.comp_def]

theorem same_unnamed (a b : Env) : a.unnamed.same b.unnamed = a.same b := by
  rw [same, same, vars_unnamed, vars_unnamed]
  simp only [unnamed, List.zip_map, List.all_map]
  rfl

theorem invalidateAp_unnamed (e : Env) : e.unnamed.invalidateAp = e.invalidateAp.unnamed := by
  simp only [invalidateAp, unnamed, List.map_map]
  rfl

end Env

theorem EnvTable.at?_unnamed (t : EnvTable) (i : Nat) :
    t.unnamed.at? i = (t.at? i).map Env.unnamed := by
  simp only [EnvTable.at?, EnvTable.unnamed, List.getElem?_map]
  cases t[i]? with
  | none => rfl
  | some e => rfl

theorem EnvTable.set_unnamed (t : EnvTable) (i : Nat) (e : Env) :
    t.unnamed.set i (some e.unnamed) = EnvTable.unnamed (t.set i (some e)) := by
  rw [EnvTable.unnamed, EnvTable.unnamed, List.map_set]
  rfl

/-! ### Invocations -/

section invocation

variable (r : Registry)

theorem reflected_cellCount (type : Ident) :
    Reflected id (cellCount r type) (cellCount r.unnamed type.unnamed) := by
  simp only [cellCount, Registry.size?, r.type?_unnamed]
  cases r.type? type with
  | none => exact .error rfl
  | some ty => exact .ite Iff.rfl (.ok rfl) (.error rfl)

theorem reflected_withSizes (types : List Ident) :
    Reflected unnamedSizes (withSizes r types) (withSizes r.unnamed (types.map (·.unnamed))) := by
  refine Agree.mapM fun type _ => ?_
  refine (reflected_cellCount r type).bind ?_
  rintro n _ rfl
  exact .ok rfl

theorem agree_reserve (n : Nat) :
    Agree (fun d d' => d' = d.unnamed) Eq (reserve n) (reserve n) := .require rfl rfl

theorem agree_reserveAll (sized : List (Ident × Nat)) :
    Agree (fun d d' => d' = d.unnamed) Eq (reserveAll sized) (reserveAll (unnamedSizes sized)) :=
  .checkAll fun x _ => agree_reserve x.2

theorem agree_branchTarget (inv : Invocation) (i b : Nat) :
    Agree (fun d d' => d' = d.unnamed) Eq (branchTarget inv i b) (branchTarget inv i b) := by
  unfold branchTarget
  cases inv.branches[b]? with
  | none => exact .error rfl
  | some branch => exact .ok rfl

theorem reflected_checkOnTop (s : ApState) (values : Stacked) (refs : List Ref) :
    Reflected id (checkOnTop s values refs) (checkOnTop s values (refs.map Ref.unnamed)) := by
  rw [checkOnTop, checkOnTop, cellsOf_unnamed]
  refine (agree_reserve _).bind fun _ _ _ => ?_
  cases firstMisplaced s (s.offset - .ofNat (cellsOf refs).length) 0 (cellsOf refs) with
  | none => exact .ok rfl
  | some k => exact .error rfl

theorem reflected_lowerStoreTemp (s : ApState) (sig : Signature) (cells : List Expr) :
    Reflected Lowered.unnamed (lowerStoreTemp s sig cells) (lowerStoreTemp s sig.unnamed cells) := by
  refine (agree_mapError _ fun _ => rfl).bind ?_
  rintro code _ rfl
  exact .ok (single_unnamed sig _ _)

theorem reflected_lowerIsZero (i : Nat) (s : ApState) (sig : Signature) (inv : Invocation)
    (e : Expr) :
    Reflected Lowered.unnamed (lowerIsZero i s sig inv e)
      (lowerIsZero i s sig.unnamed { inv with libfunc := inv.libfunc.unnamed } e) := by
  refine (agree_mapError _ fun _ => rfl).bind ?_
  rintro condition _ rfl
  refine (agree_branchTarget inv i 1).bind ?_
  rintro target _ rfl
  refine .ok ?_
  rw [outputs_unnamed, zipWith_mk_unnamed]
  rfl

theorem reflected_lowerCall (m : Metadata) (i : Nat) (s : ApState) (sig : Signature)
    (callee : Function) (args : List Ref) :
    Reflected Lowered.unnamed (lowerCall ⟨r, m⟩ i s sig callee args)
      (lowerCall ⟨r.unnamed, m⟩ i s sig.unnamed callee.unnamed (args.map Ref.unnamed)) := by
  refine (reflected_checkOnTop s .callArguments args).bind fun _ _ _ => ?_
  rw [outputs_unnamed]
  refine (reflected_withSizes r (sig.outputs 0)).bind ?_
  rintro sized _ rfl
  refine (agree_reserveAll sized).bind fun _ _ _ => ?_
  dsimp only
  cases m.branchState? i 0 with
  | none => exact .error rfl
  | some after =>
    refine .ok ?_
    rw [totalCells_unnamed, place_unnamed]
    rfl

theorem reflected_lowerWithdrawGas (i : Nat) (s : ApState) (inv : Invocation)
    (rangeCheck gas : Ref) (counter : Expr) :
    Reflected Lowered.unnamed (lowerWithdrawGas i s inv rangeCheck gas counter)
      (lowerWithdrawGas i s { inv with libfunc := inv.libfunc.unnamed } rangeCheck.unnamed
        gas.unnamed counter) := by
  refine (agree_mapError _ fun _ => rfl).bind ?_
  rintro cell _ rfl
  refine (agree_branchTarget inv i 1).bind ?_
  rintro target _ rfl
  exact .ok rfl

theorem reflected_split (cells : List Expr) (sized : List (Ident × Nat)) :
    Reflected (List.map Ref.unnamed) (split cells sized) (split cells (unnamedSizes sized)) := by
  induction sized generalizing cells with
  | nil => exact .ok rfl
  | cons x rest ih =>
    refine .ite Iff.rfl ?_ (.error rfl)
    refine (ih _).bind ?_
    rintro refs _ rfl
    exact .ok rfl

theorem reflected_lowerConstruct (sig : Signature) (args : List Ref) :
    Reflected Lowered.unnamed (lowerConstruct sig args)
      (lowerConstruct sig.unnamed (args.map Ref.unnamed)) := by
  unfold lowerConstruct
  rw [cellsOf_unnamed]
  exact (agree_reserve _).bind fun _ _ _ => .ok (single_unnamed sig _ _)

theorem reflected_lowerDeconstruct (sig : Signature) (cells : List Expr) :
    Reflected Lowered.unnamed (lowerDeconstruct r sig cells)
      (lowerDeconstruct r.unnamed sig.unnamed cells) := by
  unfold lowerDeconstruct
  rw [outputs_unnamed]
  refine (reflected_withSizes r (sig.outputs 0)).bind ?_
  rintro sized _ rfl
  refine (reflected_split cells sized).bind ?_
  rintro refs _ rfl
  exact .ok rfl

theorem reflected_lowerUnbox (s : ApState) (sig : Signature) (contents : Ident) (e : Expr) :
    Reflected Lowered.unnamed (lowerUnbox r s sig contents e)
      (lowerUnbox r.unnamed s sig.unnamed contents.unnamed e) := by
  refine (agree_mapError _ fun _ => rfl).bind fun _ _ _ => ?_
  refine (reflected_cellCount r contents).bind ?_
  rintro size _ rfl
  refine (agree_reserve _).bind fun _ _ _ => ?_
  cases e with
  | deref c => exact .ok (single_unnamed sig _ _)
  | doubleDeref | immediate | binary | lost => exact .error rfl

/-- The code of an invocation does not depend on debug names. -/
theorem reflected_lowerInvocation (m : Metadata) (i : Nat) (s : ApState) (lib : ConcreteLibfunc)
    (inv : Invocation) (args : List Ref) :
    Reflected Lowered.unnamed (lowerInvocation ⟨r, m⟩ i s lib inv args)
      (lowerInvocation ⟨r.unnamed, m⟩ i s lib.unnamed { inv with libfunc := inv.libfunc.unnamed }
        (args.map Ref.unnamed)) := by
  obtain ⟨operation, sig, type⟩ := lib
  cases operation with
  | felt252Const | uintConst | constAsImmediate | constAsBox =>
    rcases args with _ | ⟨_, _⟩
    · exact .ok (single_unnamed sig _ _)
    · exact .error rfl
  | branchAlign | disableApTracking | enableApTracking =>
    rcases args with _ | ⟨_, _⟩
    · exact .ok rfl
    · exact .error rfl
  | jump =>
    rcases args with _ | ⟨_, _⟩
    · refine (agree_branchTarget inv i 0).bind ?_
      rintro target _ rfl
      exact .ok rfl
    · exact .error rfl
  | rename | uintToFelt252 | unwrapNonZero | dup =>
    rcases args with _ | ⟨a, _ | ⟨_, _⟩⟩
    · exact .error rfl
    · exact .ok (single_unnamed sig _ _)
    · exact .error rfl
  | drop =>
    rcases args with _ | ⟨a, _ | ⟨_, _⟩⟩
    · exact .error rfl
    · exact .ok rfl
    · exact .error rfl
  | storeTemp =>
    rcases args with _ | ⟨a, _ | ⟨_, _⟩⟩
    · exact .error rfl
    · exact reflected_lowerStoreTemp s sig a.cells
    · exact .error rfl
  | structDeconstruct =>
    rcases args with _ | ⟨a, _ | ⟨_, _⟩⟩
    · exact .error rfl
    · exact reflected_lowerDeconstruct r sig a.cells
    · exact .error rfl
  | structConstruct => exact reflected_lowerConstruct sig args
  | functionCall callee => exact reflected_lowerCall r m i s sig callee args
  | felt252IsZero =>
    rcases args with _ | ⟨⟨ty, _ | ⟨e, _ | ⟨_, _⟩⟩⟩, _ | ⟨_, _⟩⟩
    case felt252IsZero.cons.cons.nil.nil => exact reflected_lowerIsZero i s sig inv e
    all_goals exact .error rfl
  | unbox contents =>
    rcases args with _ | ⟨⟨ty, _ | ⟨e, _ | ⟨_, _⟩⟩⟩, _ | ⟨_, _⟩⟩
    case unbox.cons.cons.nil.nil => exact reflected_lowerUnbox r s sig contents e
    all_goals exact .error rfl
  | withdrawGas =>
    rcases args with _ | ⟨a, _ | ⟨⟨gas, _ | ⟨e, _ | ⟨_, _⟩⟩⟩, _ | ⟨_, _⟩⟩⟩
    case withdrawGas.cons.cons.cons.nil.nil =>
      exact reflected_lowerWithdrawGas i s inv a ⟨gas, [e]⟩ e
    all_goals exact .error rfl
  | felt252Binary op =>
    rcases args with _ | ⟨⟨_, _ | ⟨a, _ | ⟨_, _⟩⟩⟩, _ | ⟨⟨_, _ | ⟨b, _ | ⟨_, _⟩⟩⟩, _ | ⟨_, _⟩⟩⟩
    case felt252Binary.cons.cons.nil.cons.cons.nil.nil =>
      refine (agree_mapError _ fun _ => rfl).bind ?_
      rintro e _ rfl
      exact .ok (single_unnamed sig _ _)
    all_goals exact .error rfl

end invocation

/-! ### Function entries -/

theorem agree_mapError_mk {α β : Type} {u : α → β} {x : Except Defect α} {y : Except Defect β}
    (i : Nat) (h : Reflected u x y) :
    Agree (fun f f' => f' = f.unnamed) (fun a b => b = u a) (x.mapError (Fault.mk i)) (y.mapError (Fault.mk i)) :=
  h.mapError fun _ _ hd => congrArg (Fault.mk i) hd

theorem foldl_insert_unnamed (params : List Param) (refs : List Ref) (e : Env) :
    ((params.map Param.unnamed).zip (refs.map Ref.unnamed)).foldl
        (fun e p => e.insert p.1.var p.2) e.unnamed =
      ((params.zip refs).foldl (fun e p => e.insert p.1.var p.2) e).unnamed := by
  induction params generalizing refs e with
  | nil => rfl
  | cons p params ih =>
    cases refs with
    | nil => rfl
    | cons r refs =>
      simp only [List.map_cons, List.zip_cons_cons, List.foldl_cons]
      rw [← ih refs, ← Env.insert_unnamed]
      rfl

theorem reflected_entryEnv (r : Registry) (f : Function) :
    Reflected Env.unnamed (entryEnv r f) (entryEnv r.unnamed f.unnamed) := by
  refine (reflected_withSizes r f.paramTypes).bind ?_
  rintro sized _ rfl
  have htypes : f.unnamed.params.map (·.type) = (f.params.map (·.type)).map (·.unnamed) := by
    simp [Function.unnamed, Param.unnamed, Function.comp_def]
  rw [htypes]
  refine (reflected_withSizes r (f.params.map (·.type))).bind ?_
  rintro paramSizes _ rfl
  refine (agree_reserveAll paramSizes).bind fun _ _ _ => .ok ?_
  rw [totalCells_unnamed, place_unnamed]
  exact foldl_insert_unnamed f.params _ {}

theorem agree_enterFunctions (r : Registry) (fs : List Function) (table : EnvTable) :
    Agree (fun f f' => f' = f.unnamed) (fun t t' => t' = t.unnamed) (enterFunctions r fs table)
      (enterFunctions r.unnamed (fs.map (·.unnamed)) table.unnamed) := by
  induction fs generalizing table with
  | nil => exact .ok rfl
  | cons f fs ih =>
    have hlength : table.unnamed.length = table.length := List.length_map _
    refine .ite (by rw [hlength]; rfl) ?_ (ih table)
    obtain ⟨e, _, he, he', rfl⟩ | ⟨d, _, hd, hd', rfl⟩ := (reflected_entryEnv r f).cases
    · rw [he, he']
      dsimp only
      rw [EnvTable.set_unnamed]
      exact ih _
    · rw [hd, hd']
      exact .error rfl

/-! ### Statements -/

theorem reflected_takeArgs (e : Env) (vars : List VarId) (types : List Ident) :
    Reflected (fun x => (x.1.map Ref.unnamed, x.2.unnamed)) (takeArgs e vars types)
      (takeArgs e.unnamed vars (types.map (·.unnamed))) := by
  induction vars generalizing e types with
  | nil =>
    cases types with
    | nil => exact .ok rfl
    | cons type types => exact .error rfl
  | cons v vars ih =>
    cases types with
    | nil => exact .error rfl
    | cons type types =>
      simp only [takeArgs, List.map_cons, e.find?_unnamed, e.erase_unnamed]
      cases e.find? v with
      | none => exact .error rfl
      | some r =>
        refine .ite Iff.rfl ?_ (.error rfl)
        refine (ih (e.erase v) types).bind ?_
        rintro ⟨refs, rest⟩ _ rfl
        exact .ok rfl

theorem reflected_bindResults (e : Env) (vars : List VarId) (refs : List Ref) :
    Reflected Env.unnamed (bindResults e vars refs)
      (bindResults e.unnamed vars (refs.map Ref.unnamed)) := by
  induction vars generalizing e refs with
  | nil =>
    cases refs with
    | nil => exact .ok rfl
    | cons r refs => exact .error rfl
  | cons v vars ih =>
    cases refs with
    | nil => exact .error rfl
    | cons r refs =>
      simp only [bindResults, List.map_cons, e.find?_unnamed, e.insert_unnamed]
      refine .ite (by rw [Option.isSome_map]) (.error rfl) (ih _ refs)

theorem agree_flow (m : Metadata) (i b : Nat) (rest : Env) (branch : Branch) (outputs : List Ref)
    (table : EnvTable) :
    Agree (fun f f' => f' = f.unnamed) (fun t t' => t' = t.unnamed) (flow m i b rest branch outputs table)
      (flow m i b rest.unnamed branch (outputs.map Ref.unnamed) table.unnamed) := by
  refine (agree_mapError_mk i (reflected_bindResults rest branch.results outputs)).bind ?_
  rintro next _ rfl
  dsimp only
  cases m.branchState? i b with
  | none => exact .error rfl
  | some after =>
    cases m.state? (branch.target.resolve i).toNat with
    | none => exact .error rfl
    | some arrival =>
      dsimp only
      rw [next.invalidateAp_unnamed, ← apply_ite Env.unnamed, table.at?_unnamed]
      cases table.at? (branch.target.resolve i).toNat with
      | none =>
        refine .ite Iff.rfl (.error rfl) (.ok ?_)
        exact table.set_unnamed _ _
      | some existing =>
        refine .ite (by rw [Env.same_unnamed]) (.ok rfl) (.error ?_)
        rw [Env.vars_unnamed]
        rfl

theorem agree_flowAll (m : Metadata) (i : Nat) (rest : Env) (b : Nat) (branches : List Branch)
    (outputs : List (List Ref)) (table : EnvTable) :
    Agree (fun f f' => f' = f.unnamed) (fun t t' => t' = t.unnamed) (flowAll m i rest b branches outputs table)
      (flowAll m i rest.unnamed b branches (outputs.map (·.map Ref.unnamed)) table.unnamed) := by
  induction branches generalizing b outputs table with
  | nil =>
    cases outputs with
    | nil => exact .ok rfl
    | cons refs outputs => exact .error rfl
  | cons branch branches ih =>
    cases outputs with
    | nil => exact .error rfl
    | cons refs outputs =>
      refine (agree_flow m i b rest branch refs table).bind ?_
      rintro table _ rfl
      exact ih (b + 1) outputs table

theorem reflected_lowerReturn (f : Function) (s : ApState) (e : Env) (vars : List VarId) :
    Reflected id (lowerReturn f s e vars) (lowerReturn f.unnamed s e.unnamed vars) := by
  have hcount : f.unnamed.retTypes.length = f.retTypes.length := List.length_map _
  refine Agree.bind (Agree.require (by rw [hcount]) (by rw [hcount]; rfl)) fun _ _ _ => ?_
  refine (reflected_takeArgs e vars f.retTypes).bind ?_
  rintro ⟨values, rest⟩ _ rfl
  refine Agree.bind (Agree.require List.isEmpty_map.symm (by rw [rest.vars_unnamed]; rfl))
    fun _ _ _ => ?_
  refine (reflected_checkOnTop s .returnValues values).bind fun _ _ _ => ?_
  exact .ok rfl

theorem agree_lowerStatement (r : Registry) (m : Metadata) (i : Nat) (statement : Statement)
    (table : EnvTable) :
    Agree (fun f f' => f' = f.unnamed) (fun x y => y = (x.1, x.2.unnamed)) (lowerStatement ⟨r, m⟩ i statement table)
      (lowerStatement ⟨r.unnamed, m⟩ i statement.unnamed table.unnamed) := by
  simp only [lowerStatement, table.at?_unnamed]
  cases m.site? i with
  | none => exact .error rfl
  | some site =>
    cases table.at? i with
    | none => exact .error rfl
    | some e =>
      cases statement with
      | ret vars =>
        simp only [Option.map_some, Statement.unnamed, r.program_unnamed,
          r.program.getElem?_functions_unnamed]
        cases r.program.functions[site.owner]? with
        | none => exact .error rfl
        | some f =>
          refine (agree_mapError_mk i (reflected_lowerReturn f site.state e vars)).bind ?_
          rintro code _ rfl
          exact .ok rfl
      | invoke inv =>
        simp only [Option.map_some, Statement.unnamed, r.libfunc?_unnamed]
        cases r.libfunc? inv.libfunc with
        | none => exact .error rfl
        | some lib =>
          refine (agree_mapError_mk i (reflected_takeArgs e inv.args lib.signature.params)).bind ?_
          rintro ⟨args, rest⟩ _ rfl
          refine (agree_mapError_mk i
            (reflected_lowerInvocation r m i site.state lib inv args)).bind ?_
          rintro lowered _ rfl
          refine (agree_flowAll m i rest 0 inv.branches lowered.outputs table).bind ?_
          rintro table _ rfl
          exact .ok rfl

/-! ### Programs -/

theorem agree_lowerFrom (r : Registry) (m : Metadata) (i : Nat) (statements : List Statement)
    (table : EnvTable) :
    Agree (fun f f' => f' = f.unnamed) (fun l l' => l' = ⟨l.blocks, l.envs.unnamed⟩)
      (lowerFrom ⟨r, m⟩ i statements table)
      (lowerFrom ⟨r.unnamed, m⟩ i (statements.map (·.unnamed)) table.unnamed) := by
  induction statements generalizing i table with
  | nil => exact .ok rfl
  | cons statement statements ih =>
    refine (agree_lowerStatement r m i statement table).bind ?_
    rintro ⟨block, table⟩ _ rfl
    refine (ih (i + 1) table).bind ?_
    rintro lowered _ rfl
    exact .ok rfl

theorem agree_lowerProgram (r : Registry) (m : Metadata) :
    Agree (fun f f' => f' = f.unnamed) (fun l l' => l' = ⟨l.blocks, l.envs.unnamed⟩) (lowerProgram ⟨r, m⟩)
      (lowerProgram ⟨r.unnamed, m⟩) := by
  have hstart : r.unnamed.program.statements.map (fun _ => (none : Option Env)) =
      EnvTable.unnamed (r.program.statements.map fun _ => none) := by
    simp [Registry.unnamed, Program.unnamed, EnvTable.unnamed, Function.comp_def]
  unfold lowerProgram
  dsimp only
  rw [hstart]
  refine (agree_enterFunctions r r.program.functions _).bind ?_
  rintro table _ rfl
  exact agree_lowerFrom r m 0 r.program.statements table

end Lowering

/-! ### Compilation -/

/-- Two faults of the same kind: with the same cycle and function number, at the same statement and
with the same defect up to debug names, or with the same size and limit. -/
inductive CompileFault.Alike : CompileFault → CompileFault → Prop
  | gas {a b : GasFault} : a.Alike b → Alike (.gas a) (.gas b)
  | lowering {a b : Lowering.Fault} : a.unnamed = b.unnamed → Alike (.lowering a) (.lowering b)
  | tooLarge (size : Nat) (limit : Int) : Alike (.tooLarge size limit) (.tooLarge size limit)

theorem CompileFault.Alike.of_common {a b c : CompileFault} (hac : a.Alike c) (hbc : b.Alike c) :
    a.Alike b := by
  cases hac with
  | gas h =>
    obtain ⟨h'⟩ := hbc
    exact .gas ⟨h.1.trans h'.1.symm, h.2.trans h'.2.symm⟩
  | lowering h =>
    obtain - | h' := hbc
    exact .lowering (h.trans h'.symm)
  | tooLarge size limit =>
    cases hbc
    exact .tooLarge size limit

theorem agree_compile (r : Registry) (m : Metadata) (config : CompileConfig) :
    Agree CompileFault.Alike Eq (compile r m config) (compile r.unnamed m config) := by
  have hlower := (Lowering.agree_lowerProgram r m).mapError (f := CompileFault.lowering)
    (g := CompileFault.lowering) (D := CompileFault.Alike) fun f _ hf =>
      .lowering (by rw [hf, f.unnamed_unnamed])
  have hgas := (agree_checkGasUsage r m).mapError (f := CompileFault.gas) (g := CompileFault.gas)
    fun _ _ => CompileFault.Alike.gas
  unfold compile
  refine .ite Iff.rfl (hgas.bind fun _ _ _ => ?_) ?_
  all_goals
    refine hlower.bind ?_
    rintro lowered _ rfl
    exact .ite Iff.rfl (.error (.tooLarge _ _)) (.ok rfl)

/-! ### Programs that are equal up to debug names -/

/-- Debug names do not matter.  Of two programs that are equal without them, validation accepts
both or stops with the same code.  The analysis finds the same positions in both or stops at the
same statement.  Compilation gives the same result for both, or alike faults. -/
theorem agree_of_unnamed_eq {p q : Program} (h : p.unnamed = q.unnamed) :
    Agree (fun v w => v.code = w.code)
      (fun r s => Agree (fun a b => a.statement = b.statement)
        (fun m n => m = n ∧ ∀ config,
          Agree CompileFault.Alike Eq (compile r m config) (compile s n config))
        (analyze r) (analyze s))
      (Registry.build p) (Registry.build q) := by
  have hq := Registry.agree_build q
  rw [← h] at hq
  refine ((Registry.agree_build p).of_common hq).mono ?_ ?_
  · rintro v w ⟨x, hv, hw⟩
    exact hv.trans hw.symm
  · rintro r s ⟨_, rfl, hrs⟩
    have hs := agree_analyze s
    rw [← hrs] at hs
    refine ((agree_analyze r).of_common hs).mono ?_ ?_
    · rintro a b ⟨c, ha, hb⟩
      exact ha.trans hb.symm
    · rintro m n ⟨c, hm, hn⟩
      obtain rfl : m = n := hm.trans hn.symm
      refine ⟨rfl, fun config => ?_⟩
      have hcompile := agree_compile s m config
      rw [← hrs] at hcompile
      refine ((agree_compile r m config).of_common hcompile).mono ?_ ?_
      · rintro a b ⟨c, ha, hb⟩
        exact ha.of_common hb
      · rintro out out' ⟨_, rfl, rfl⟩
        rfl

/-- A loop that renames its parameter; the types, libfuncs and the function have debug names, but
the type that `rename` is declared for has none. -/
def namedLoop (types libfuncs function : String) : Program where
  types := [{ id := ⟨0, types⟩, longId := { generic := "felt252" } }]
  libfuncs :=
    [{ id := ⟨0, libfuncs⟩, longId := { generic := "rename", args := [.type { id := 0 }] } },
     { id := ⟨1, libfuncs⟩, longId := { generic := "jump" } }]
  statements :=
    [.invoke { libfunc := ⟨0, libfuncs⟩, args := [⟨0⟩],
               branches := [{ target := .fallthrough, results := [⟨0⟩] }] },
     .invoke { libfunc := ⟨1, libfuncs⟩, branches := [{ target := .statement 0 }] }]
  functions :=
    [{ id := ⟨0, function⟩, paramTypes := [⟨0, types⟩], params := [{ type := ⟨0, types⟩ }] }]

/-- With other debug names `namedLoop` compiles to the same program, and the gas check finds the same
cycle in the function of the same number. -/
theorem agree_of_unnamed_eq_namedLoop :
    (namedLoop "felt" "rename" "main").unnamed = (namedLoop "" "f" "g").unnamed ∧
    ∃ r s m out a b, Registry.build (namedLoop "felt" "rename" "main") = .ok r ∧
      Registry.build (namedLoop "" "f" "g") = .ok s ∧ analyze r = .ok m ∧ analyze s = .ok m ∧
      compile r m {} = .ok out ∧ compile s m {} = .ok out ∧
      compile r m { gasCheck := true } = .error (.gas a) ∧
      compile s m { gasCheck := true } = .error (.gas b) ∧ a.cycle = [0, 1] ∧ a.Alike b := by
  have hnames : (namedLoop "felt" "rename" "main").unnamed = (namedLoop "" "f" "g").unnamed := rfl
  obtain ⟨r, hbuild, hr⟩ : ∃ r, Registry.build (namedLoop "felt" "rename" "main") = .ok r ∧
      ((analyze r).toOption.any fun m => ((compile r m {}).toOption.any fun _ => true) &&
        decide ((Gas.flowGraph r m).lowestCycle = some [0, 1])) = true :=
    exists_of_toOption_any (by decide +kernel)
  obtain ⟨m, hanalyze, hm⟩ := exists_of_toOption_any hr
  rw [Bool.and_eq_true, decide_eq_true_eq] at hm
  obtain ⟨out, hout, -⟩ := exists_of_toOption_any hm.1
  obtain ⟨f, hgas⟩ : ∃ f, compile r m { gasCheck := true } = .error (.gas ⟨f, [0, 1]⟩) := by
    simp only [compile, checkGasUsage, hm.2]
    exact ⟨_, rfl⟩
  obtain ⟨s, hbuild', hs⟩ := (agree_of_unnamed_eq hnames).exists_ok hbuild
  obtain ⟨_, hanalyze', rfl, hcompile⟩ := hs.exists_ok hanalyze
  obtain ⟨_, hout', rfl⟩ := (hcompile {}).exists_ok hout
  obtain ⟨_, hgas', ⟨halike⟩⟩ := (hcompile { gasCheck := true }).exists_error hgas
  exact ⟨hnames, r, s, m, out, _, _, hbuild, hbuild', hanalyze, hanalyze', hout, hout', hgas,
    hgas', rfl, halike⟩

end SierraCasm
