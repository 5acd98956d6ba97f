import SierraCasm.Proofs.Appended.Registry
import SierraCasm.Proofs.Lowering.Safety
import SierraCasm.Proofs.Registry.Acceptance

/-! # Analysis and compilation with more declarations

The steps after validation look declarations up that a validated program has: the libfuncs that it
invokes, the types of its functions, and the types that its libfuncs take apart.  A registry that
covers another one gives the same answers there (`Registry.Covers`), so the steps do the same with
either.  With `covers_of_build` this says that declarations that are added at the end of a program
change nothing (`unchanged_of_appended`). -/

namespace SierraCasm

open Sierra Concrete

/-! ### The analysis -/

namespace Ap

section programs

variable {p p' : Program} (hfunctions : p'.functions = p.functions)
include hfunctions

theorem merge_congr : merge p' = merge p := by
  funext f i s progress
  simp only [merge, functionId, hfunctions]

theorem calleeChange_congr : calleeChange p' = calleeChange p := by
  funext resolve callee progress
  simp only [calleeChange, Program.functionIndex?, hfunctions]

theorem followBranches_congr (hstatements : p'.statements = p.statements) (resolve : Resolver)
    (f i : Nat) (s : ApState) (bs : List (Branch × BranchSignature)) (w : Walk) :
    followBranches p' resolve f i s bs w = followBranches p resolve f i s bs w := by
  induction bs generalizing w with
  | nil => rfl
  | cons b bs ih =>
    simp only [followBranches, advance, Walk.arrive, merge_congr hfunctions,
      calleeChange_congr hfunctions, hstatements, ih]

end programs

section covered

variable {r r' : Registry} (h : r'.Covers r) (hvalid : r.Valid)
include h hvalid

theorem libfunc?_of_covers {i : Nat} {inv : Invocation}
    (hi : r.program.statements[i]? = some (.invoke inv)) :
    r'.libfunc? inv.libfunc = r.libfunc? inv.libfunc := by
  obtain ⟨lib, hlib, -⟩ := hvalid.invocation hi
  rw [hlib, h.libfunc hlib]

theorem visit_of_covers (resolve : Resolver) (f i : Nat) (w : Walk) :
    visit r' resolve f i w = visit r resolve f i w := by
  unfold visit
  rw [h.statements]
  split
  · rfl
  · rename_i inv site hi hsite
    simp only [libfunc?_of_covers h hvalid hi, followBranches_congr h.functions h.statements]
  · rfl

theorem walkAll_of_covers (resolve : Resolver) (f fuel : Nat) (w : Walk) :
    walkAll r' resolve f fuel w = walkAll r resolve f fuel w := by
  induction fuel generalizing w with
  | zero => rfl
  | succ fuel ih => simp only [walkAll, visit_of_covers h hvalid, ih]

theorem resolveWithin_of_covers (visits depth : Nat) :
    (resolveWithin r' visits depth : Resolver) = resolveWithin r visits depth := by
  induction depth with
  | zero => rfl
  | succ depth ih =>
    funext f progress
    simp only [resolveWithin, walkWithin, ih, h.statements, h.functions, merge_congr h.functions,
      walkAll_of_covers h hvalid]

theorem resolveAllWithin_of_covers (visits depth : Nat) (fs : List Nat) (progress : Progress) :
    (resolveAllWithin r' visits depth fs progress : Except Fault Progress) =
      resolveAllWithin r visits depth fs progress := by
  induction fs generalizing progress with
  | nil => rfl
  | cons f fs ih => simp only [resolveAllWithin, resolveWithin_of_covers h hvalid, ih]

end covered

end Ap

section covered

variable {r r' : Registry} (h : r'.Covers r) (hvalid : r.Valid)
include h hvalid

theorem analyze_of_covers : analyze r' = analyze r := by
  simp only [analyze, analyzeWithin, Ap.visitBound, Ap.Progress.start, h.statements, h.functions,
    Ap.resolveAllWithin_of_covers h hvalid]

/-! ### Gas -/

theorem Gas.targets_of_covers (i : Nat) : Gas.targets r' i = Gas.targets r i := by
  unfold Gas.targets
  rw [h.statements]
  cases hi : r.program.statements[i]? with
  | none => rfl
  | some statement =>
    cases statement with
    | ret vars => rfl
    | invoke inv => simp only [Ap.libfunc?_of_covers h hvalid hi]

theorem Gas.free_of_covers : Gas.free r' = Gas.free r := by
  funext i
  have hlibfunc : Gas.libfuncAt? r' i = Gas.libfuncAt? r i := by
    unfold Gas.libfuncAt?
    rw [h.statements]
    cases hi : r.program.statements[i]? with
    | none => rfl
    | some statement =>
      cases statement with
      | ret vars => rfl
      | invoke inv => exact Ap.libfunc?_of_covers h hvalid hi
  simp only [Gas.free, Gas.withdraws, hlibfunc, h.statements]

theorem checkGasUsage_of_covers (m : Metadata) : checkGasUsage r' m = checkGasUsage r m := by
  have hgraph : Gas.flowGraph r' m = Gas.flowGraph r m := by
    simp only [Gas.flowGraph, Gas.free_of_covers h hvalid, Gas.targets_of_covers h hvalid,
      h.statements]
  simp only [checkGasUsage, hgraph, Ap.functionId, h.functions]

end covered

/-! ### Lowering -/

namespace Lowering

section sizes

variable {r r' : Registry} (h : r'.Covers r)
include h

theorem cellCount_of_covers {id : Ident} {ty : ConcreteType} (hty : r.type? id = some ty) :
    cellCount r' id = cellCount r id := by
  simp only [cellCount, Registry.size?, hty, h.type hty]

theorem withSizes_of_covers {types : List Ident}
    (htypes : ∀ id ∈ types, ∃ ty, r.type? id = some ty) : withSizes r' types = withSizes r types := by
  unfold withSizes
  induction types with
  | nil => rfl
  | cons id types ih =>
    obtain ⟨⟨ty, hty⟩, hrest⟩ := List.forall_mem_cons.mp htypes
    rw [List.mapM_cons, List.mapM_cons, cellCount_of_covers h hty, ih hrest]

end sizes

section covered

variable {p : Program} {r r' : Registry} (hbuild : Registry.build p = .ok r) (h : r'.Covers r)
include hbuild h

omit h in
theorem declared_outputs {lib : ConcreteLibfunc} (hlib : Specialized r.libfuncContext lib) :
    ∀ id ∈ lib.signature.outputs 0, ∃ ty, r.type? id = some ty := by
  have htypes := Registry.build_typesValid hbuild
  have hlookup : ∀ {long : LongId} {id : Ident}, r.lookupType? long = some id →
      ∃ ty, r.type? id = some ty := fun hid => (htypes.lookup hid).imp fun _ => And.left
  cases hlib with
  | felt252Const _ hid | felt252Binary _ hid | uintConst _ _ hid | uintToFelt252 _ _ hid
  | constAsBox _ _ _ hid => exact List.forall_mem_singleton.mpr (hlookup hid)
  | storeTemp hty | rename hty | structConstruct hty | unbox hty | unwrapNonZero hty =>
    exact List.forall_mem_singleton.mpr ⟨_, hty⟩
  | dup hty =>
    exact List.forall_mem_cons.mpr ⟨⟨_, hty⟩, List.forall_mem_singleton.mpr ⟨_, hty⟩⟩
  | felt252IsZero | drop | jump | branchAlign | disableApTracking | enableApTracking =>
    exact List.forall_mem_nil _
  | functionCall hf =>
    exact fun id hid => Registry.declared_of_build hbuild (List.mem_of_find?_eq_some hf) id
      (List.mem_append_right _ hid)
  | withdrawGas hrange hgas =>
    exact List.forall_mem_cons.mpr ⟨hlookup hrange, List.forall_mem_singleton.mpr (hlookup hgas)⟩
  | structDeconstruct hty hshape | constAsImmediate hty hshape =>
    have hparts := (htypes.type hty).parts
    rw [hshape] at hparts
    exact fun id hid => Option.isSome_iff_exists.mp (hparts id hid)

/-- A libfunc asks for the sizes of declared types only. -/
theorem lowerInvocation_of_covers {lib : ConcreteLibfunc} (hlib : Specialized r.libfuncContext lib)
    (m : Metadata) (i : Nat) (s : ApState) (inv : Invocation) (args : List Ref) :
    lowerInvocation ⟨r', m⟩ i s lib inv args = lowerInvocation ⟨r, m⟩ i s lib inv args := by
  have hdeclared := declared_outputs hbuild hlib
  unfold lowerInvocation
  split
  case h_16 => simp only [lowerCall, withSizes_of_covers h hdeclared]
  case h_19 => simp only [lowerDeconstruct, withSizes_of_covers h hdeclared]
  case h_20 contents _ e hunbox =>
    obtain ⟨ty, hty⟩ : ∃ ty, r.type? contents = some ty := by
      cases hlib <;> cases hunbox
      exact ⟨_, ‹_›⟩
    simp only [lowerUnbox, cellCount_of_covers h hty]
  all_goals rfl

theorem entryEnv_of_covers {f : Function} (hf : f ∈ r.program.functions) :
    entryEnv r' f = entryEnv r f := by
  have hdeclared : ∀ id ∈ f.paramTypes, ∃ ty, r.type? id = some ty := fun id hid =>
    Registry.declared_of_build hbuild hf id (List.mem_append_left _ hid)
  have hparams := (Registry.build_valid hbuild).2.declared_params hf hdeclared
  simp only [entryEnv, withSizes_of_covers h hdeclared, withSizes_of_covers h hparams]

theorem enterFunctions_of_covers {fs : List Function} (hfs : ∀ f ∈ fs, f ∈ r.program.functions)
    (table : EnvTable) : enterFunctions r' fs table = enterFunctions r fs table := by
  induction fs generalizing table with
  | nil => rfl
  | cons f fs ih =>
    obtain ⟨hf, hrest⟩ := List.forall_mem_cons.mp hfs
    simp only [enterFunctions, entryEnv_of_covers hbuild h hf, ih hrest]

theorem lowerStatement_of_covers (m : Metadata) {i : Nat} {statement : Statement}
    (hi : r.program.statements[i]? = some statement) (table : EnvTable) :
    lowerStatement ⟨r', m⟩ i statement table = lowerStatement ⟨r, m⟩ i statement table := by
  have hvalid := (Registry.build_valid hbuild).2
  cases statement with
  | ret vars => simp only [lowerStatement, h.functions]
  | invoke inv =>
    obtain ⟨lib, hlib, -⟩ := hvalid.invocation hi
    simp only [lowerStatement, hlib, h.libfunc hlib,
      lowerInvocation_of_covers hbuild h (hvalid.libfunc hlib)]

theorem lowerFrom_of_covers (m : Metadata) {i : Nat} {statements : List Statement}
    (hstatements : ∀ k, statements[k]? = r.program.statements[i + k]?) (table : EnvTable) :
    lowerFrom ⟨r', m⟩ i statements table = lowerFrom ⟨r, m⟩ i statements table := by
  induction statements generalizing i table with
  | nil => rfl
  | cons statement statements ih =>
    have hi : r.program.statements[i]? = some statement := (hstatements 0).symm
    have hrest : ∀ k, statements[k]? = r.program.statements[i + 1 + k]? := fun k => by
      rw [Nat.add_assoc, Nat.add_comm 1 k]
      exact hstatements (k + 1)
    simp only [lowerFrom, lowerStatement_of_covers hbuild h m hi, ih hrest]

theorem lowerProgram_of_covers (m : Metadata) : lowerProgram ⟨r', m⟩ = lowerProgram ⟨r, m⟩ := by
  simp only [lowerProgram, h.statements, h.functions,
    enterFunctions_of_covers hbuild h fun f hf => hf,
    lowerFrom_of_covers hbuild h m fun k => by rw [Nat.zero_add]]

end covered

end Lowering

theorem compile_of_covers {p : Program} {r r' : Registry} (hbuild : Registry.build p = .ok r)
    (h : r'.Covers r) (m : Metadata) (config : CompileConfig) :
    compile r' m config = compile r m config := by
  simp only [compile, checkGasUsage_of_covers h (Registry.build_valid hbuild).2,
    Lowering.lowerProgram_of_covers hbuild h]

/-! ### Declarations at the end -/

theorem Registry.libfunc?_of_mem {p : Program} {r : Registry} (h : build p = .ok r)
    {d : Declaration} (hd : d ∈ p.libfuncs) : ∃ lib, r.libfunc? d.id = some lib := by
  obtain ⟨-, -, hlibfuncs⟩ := tables_of_build h
  have hids := (libfuncs_of_mapM hlibfuncs).1
  have hmem : d.id ∈ r.libfuncs.map (·.1) := by
    rw [hids]
    exact List.mem_map_of_mem hd
  obtain ⟨entry, hentry, hid⟩ := List.mem_map.mp hmem
  have hfound : (r.libfuncs.find? fun e => e.1.same d.id).isSome := by
    rw [List.find?_isSome]
    exact ⟨entry, hentry, by rw [hid]; exact (Ident.same_iff _ _).mpr rfl⟩
  obtain ⟨e, he⟩ := Option.isSome_iff_exists.mp hfound
  exact ⟨e.2, by rw [libfunc?, findIdent, he]; rfl⟩

/-- What a program means does not depend on what is declared behind its declarations. -/
structure Registry.MeansSame (p : Program) (r r' : Registry) : Prop where
  type : ∀ d ∈ p.types, ∃ ty, r.type? d.id = some ty ∧ r'.type? d.id = some ty
  size : ∀ d ∈ p.types, ∃ n, r.size d.id = .ok n ∧ r'.size d.id = .ok n
  libfunc : ∀ d ∈ p.libfuncs, ∃ lib, r.libfunc? d.id = some lib ∧ r'.libfunc? d.id = some lib
  lookup : ∀ {long : LongId} {id : Ident},
    r.lookupType? long = some id → r'.lookupType? long = some id
  analysis : analyze r' = analyze r
  compilation : ∀ (m : Metadata) (config : CompileConfig),
    compile r' m config = compile r m config

/-- Declarations that are added at the ends of their lists change nothing, whether or not they
repeat a long id that is declared before. -/
theorem unchanged_of_appended {p : Program} {types libfuncs : List Declaration} {r r' : Registry}
    (h : Registry.build p = .ok r) (h' : Registry.build (p.appended types libfuncs) = .ok r') :
    Registry.MeansSame p r r' := by
  have hcovers := Registry.covers_of_build h h'
  have htype : ∀ d ∈ p.types, ∃ ty, r.type? d.id = some ty := fun d hd =>
    Registry.type?_of_declared h (List.any_eq_true.mpr ⟨d, hd, (Ident.same_iff _ _).mpr rfl⟩)
  refine ⟨fun d hd => ?_, fun d hd => ?_, fun d hd => ?_, hcovers.lookup,
    analyze_of_covers hcovers (Registry.build_valid h).2, compile_of_covers h hcovers⟩
  · obtain ⟨ty, hty⟩ := htype d hd
    exact ⟨ty, hty, hcovers.type hty⟩
  · obtain ⟨ty, hty⟩ := htype d hd
    refine ⟨ty.info.size, ?_, ?_⟩
    · simp [Registry.size, Registry.size?, hty]
    · simp [Registry.size, Registry.size?, hcovers.type hty]
  · obtain ⟨lib, hlib⟩ := Registry.libfunc?_of_mem h hd
    exact ⟨lib, hlib, hcovers.libfunc hlib⟩

/-- A function that doubles its parameter. -/
def doubling : Program where
  types := [.numbered 0 "felt252"]
  libfuncs :=
    [.numbered 0 "dup" [.type { id := 0 }], .numbered 1 "felt252_add",
     .numbered 2 "store_temp" [.type { id := 0 }]]
  statements :=
    [.numbered 0 [0] [(.fallthrough, [0, 1])], .numbered 1 [0, 1] [(.fallthrough, [2])],
     .numbered 2 [2] [(.fallthrough, [2])], .ret [⟨2⟩]]
  functions := [.numbered 0 [0] [0] 0]

/-- The field type is declared once more behind the first one, and sums are still those of the first
one. -/
theorem unchanged_doubling :
    ∃ r r' m out,
      Registry.build doubling = .ok r ∧
      Registry.build (doubling.appended
        [.numbered 7 "felt252", .numbered 8 "Box" [.type { id := 7 }]]
        [.numbered 3 "felt252_add", .numbered 4 "unbox" [.type { id := 7 }]]) = .ok r' ∧
      r'.lookupType? { generic := "felt252" } = some { id := 0 } ∧
      analyze r' = .ok m ∧ compile r' m {} = .ok out ∧ Registry.MeansSame doubling r r' := by
  obtain ⟨r, hbuild, hr⟩ : ∃ r, Registry.build doubling = .ok r ∧
      (decide (r.lookupType? { generic := "felt252" } = some { id := 0 }) &&
        (analyze r).toOption.any fun m => (compile r m {}).toOption.any fun _ => true) = true :=
    exists_of_toOption_any (by decide +kernel)
  obtain ⟨r', hbuild', -⟩ : ∃ r', Registry.build (doubling.appended
      [.numbered 7 "felt252", .numbered 8 "Box" [.type { id := 7 }]]
      [.numbered 3 "felt252_add", .numbered 4 "unbox" [.type { id := 7 }]]) = .ok r' ∧
      (r'.types.length == 3) = true :=
    exists_of_toOption_any (by decide +kernel)
  rw [Bool.and_eq_true, decide_eq_true_eq] at hr
  obtain ⟨m, hanalyze, hm⟩ := exists_of_toOption_any hr.2
  obtain ⟨out, hout, -⟩ := exists_of_toOption_any hm
  have hsame := unchanged_of_appended hbuild hbuild'
  exact ⟨r, r', m, out, hbuild, hbuild', hsame.lookup hr.1, hsame.analysis.trans hanalyze,
    (hsame.compilation m {}).trans hout, hsame⟩

end SierraCasm
