import SierraCasm.Gas.Check
import SierraCasm.Proofs.Unnamed.Registry

/-! # The analysis and the gas check without debug names

The analysis of `ap` reads numbers, targets and sizes only, so it finds the same positions with and
without debug names, or stops at the same statement (`agree_analyze`).  The gas check walks through
the same graph and reports the same cycle (`agree_checkGasUsage`). -/

namespace SierraCasm

open Sierra Concrete

/-! ### Programs and registries -/

theorem Sierra.Program.functionIndex?_unnamed (p : Program) (id : Ident) :
    p.unnamed.functionIndex? id.unnamed = p.functionIndex? id := by
  simp only [Program.functionIndex?, Program.unnamed, List.findIdx?_map]
  rfl

theorem Sierra.Program.length_functions_unnamed (p : Program) :
    p.unnamed.functions.length = p.functions.length :=
  List.length_map _

theorem Sierra.Program.getElem?_functions_unnamed (p : Program) (f : Nat) :
    p.unnamed.functions[f]? = p.functions[f]?.map (·.unnamed) :=
  List.getElem?_map

theorem Sierra.Program.getElem?_statements_unnamed (p : Program) (i : Nat) :
    p.unnamed.statements[i]? = p.statements[i]?.map (·.unnamed) :=
  List.getElem?_map

theorem Registry.program_unnamed (r : Registry) : r.unnamed.program = r.program.unnamed := rfl

theorem Registry.libfunc?_unnamed (r : Registry) (id : Ident) :
    r.unnamed.libfunc? id.unnamed = (r.libfunc? id).map (·.unnamed) :=
  findIdent_unnamed ConcreteLibfunc.unnamed r.libfuncs id

theorem Registry.type?_unnamed (r : Registry) (id : Ident) :
    r.unnamed.type? id.unnamed = (r.type? id).map (·.unnamed) :=
  findIdent_unnamed ConcreteType.unnamed r.types id

namespace Ap

/-- Two faults at the same statement. -/
def SamePlace (a b : Fault) : Prop := a.statement = b.statement

/-- Two resolvers that agree on every function. -/
def AgreeOn (resolve resolve' : Resolver) : Prop :=
  ∀ f progress, Agree SamePlace Eq (resolve f progress) (resolve' f progress)

theorem functionId_unnamed (p : Program) (f : Nat) :
    functionId p.unnamed f = (functionId p f).unnamed := by
  rw [functionId, functionId, p.getElem?_functions_unnamed]
  cases p.functions[f]? with
  | none => rfl
  | some g => rfl

theorem visitBound_unnamed (p : Program) : visitBound p.unnamed = visitBound p := by
  rw [visitBound, visitBound, p.length_statements_unnamed]

/-! ### The walk through one function -/

theorem agree_merge (p : Program) (f i : Nat) (s : ApState) (progress : Progress) :
    Agree SamePlace Eq (merge p f i s progress) (merge p.unnamed f i s progress) := by
  unfold merge
  cases progress.site? i with
  | none => exact .ok rfl
  | some site =>
    refine .ite Iff.rfl (.error rfl) ?_
    refine .ite Iff.rfl (.ok rfl) ?_
    refine .ite Iff.rfl (.error rfl) ?_
    exact .ite Iff.rfl (.ok rfl) (.ok rfl)

theorem agree_arrive (p : Program) (f i : Nat) (s : ApState) (w : Walk) :
    Agree SamePlace Eq (Walk.arrive p f i s w) (Walk.arrive p.unnamed f i s w) := by
  refine (agree_merge p f i s w.progress).bind ?_
  rintro ⟨changed, progress⟩ _ rfl
  exact .ok rfl

section branches

variable (p : Program) {resolve resolve' : Resolver} (h : AgreeOn resolve resolve')
include h

theorem agree_calleeChange (callee : Ident) (progress : Progress) :
    Agree SamePlace Eq (calleeChange p resolve callee progress)
      (calleeChange p.unnamed resolve' callee.unnamed progress) := by
  unfold calleeChange
  rw [p.functionIndex?_unnamed]
  cases p.functionIndex? callee with
  | none => exact .ok rfl
  | some g =>
    refine (h g progress).bind ?_
    rintro progress _ rfl
    cases progress.status g with
    | done change => exact .ok rfl
    | unvisited | visiting => exact .ok rfl

theorem agree_advance (i : Nat) (s : ApState) (effect : ApEffect) (progress : Progress) :
    Agree SamePlace Eq (advance p resolve i s effect progress)
      (advance p.unnamed resolve' i s effect.unnamed progress) := by
  cases effect with
  | known | enableTracking | disableTracking => exact .ok rfl
  | call callee =>
    refine (agree_calleeChange p h callee progress).bind ?_
    rintro ⟨change, progress⟩ _ rfl
    exact .ok rfl

theorem agree_followBranches (f i : Nat) (s : ApState) (bs : List (Branch × BranchSignature))
    (w : Walk) :
    Agree SamePlace Eq (followBranches p resolve f i s bs w)
      (followBranches p.unnamed resolve' f i s (bs.map fun x => (x.1, x.2.unnamed)) w) := by
  induction bs generalizing w with
  | nil => exact .ok rfl
  | cons x bs ih =>
    obtain ⟨branch, sig⟩ := x
    refine (agree_advance p h i s sig.ap w.progress).bind ?_
    rintro ⟨next, progress⟩ _ rfl
    refine .ite (by rw [p.length_statements_unnamed]) ?_ (.error rfl)
    refine (agree_arrive p f _ next _).bind ?_
    rintro w _ rfl
    refine (ih w).bind ?_
    rintro ⟨after, w⟩ _ rfl
    exact .ok rfl

end branches

section walk

variable (r : Registry) {resolve resolve' : Resolver} (h : AgreeOn resolve resolve')
include h

theorem agree_visit (f i : Nat) (w : Walk) :
    Agree SamePlace Eq (visit r resolve f i w) (visit r.unnamed resolve' f i w) := by
  unfold visit
  rw [r.program_unnamed, r.program.getElem?_statements_unnamed]
  cases r.program.statements[i]? with
  | none => exact .error rfl
  | some statement =>
    cases w.progress.site? i with
    | none => cases statement <;> exact .error rfl
    | some site =>
      cases statement with
      | ret vars => exact .ok rfl
      | invoke inv =>
        simp only [Option.map_some, Statement.unnamed, r.libfunc?_unnamed]
        cases r.libfunc? inv.libfunc with
        | none => exact .error rfl
        | some lib =>
          dsimp only [Option.map_some]
          rw [lib.zip_branches_unnamed]
          refine (agree_followBranches r.program h f i site.state _ w).bind ?_
          rintro ⟨after, w⟩ _ rfl
          exact .ok rfl

theorem agree_walkAll (f fuel : Nat) (w : Walk) :
    Agree SamePlace Eq (walkAll r resolve f fuel w) (walkAll r.unnamed resolve' f fuel w) := by
  induction fuel generalizing w with
  | zero =>
    unfold walkAll
    cases w.pending with
    | nil => exact .ok rfl
    | cons i rest => exact .error rfl
  | succ fuel ih =>
    unfold walkAll
    cases w.pending with
    | nil => exact .ok rfl
    | cons i rest =>
      refine (agree_visit r h f i _).bind ?_
      rintro w _ rfl
      exact ih w

theorem agree_walkWithin (visits f entry : Nat) (progress : Progress) :
    Agree SamePlace Eq (walkWithin r resolve visits f entry progress)
      (walkWithin r.unnamed resolve' visits f entry progress) := by
  unfold walkWithin
  rw [note_bind, note_bind]
  refine .ite (by rw [r.program_unnamed, r.program.length_statements_unnamed]) ?_ (.ok rfl)
  refine (agree_merge r.program f entry .entry progress).bind ?_
  rintro ⟨changed, progress⟩ _ rfl
  refine (agree_walkAll r h f visits _).bind ?_
  rintro w _ rfl
  exact .ok rfl

end walk

/-! ### The whole program -/

theorem agree_resolveWithin (r : Registry) (visits depth : Nat) :
    AgreeOn (resolveWithin r visits depth) (resolveWithin r.unnamed visits depth) := by
  induction depth with
  | zero => exact fun _ _ => .error rfl
  | succ depth ih =>
    intro f progress
    unfold resolveWithin
    rw [r.program_unnamed, r.program.getElem?_functions_unnamed]
    cases progress.status f with
    | visiting | done => exact .ok rfl
    | unvisited =>
      cases r.program.functions[f]? with
      | none => exact .ok rfl
      | some function =>
        refine (agree_walkWithin r ih visits f function.entry.toNat _).bind ?_
        rintro ⟨change, progress⟩ _ rfl
        exact .ok rfl

theorem agree_resolveAllWithin (r : Registry) (visits depth : Nat) (fs : List Nat)
    (progress : Progress) :
    Agree SamePlace Eq (resolveAllWithin r visits depth fs progress)
      (resolveAllWithin r.unnamed visits depth fs progress) := by
  induction fs generalizing progress with
  | nil => exact .ok rfl
  | cons f fs ih =>
    refine (agree_resolveWithin r visits depth f progress).bind ?_
    rintro progress _ rfl
    exact ih progress

end Ap

theorem agree_analyze (r : Registry) :
    Agree Ap.SamePlace Eq (analyze r) (analyze r.unnamed) := by
  have hstart : Ap.Progress.start r.unnamed.program = Ap.Progress.start r.program := by
    simp [Ap.Progress.start, Registry.unnamed, Program.unnamed, Function.comp_def]
  unfold analyze analyzeWithin
  rw [hstart, r.program_unnamed, r.program.length_functions_unnamed, Ap.visitBound_unnamed]
  refine (Ap.agree_resolveAllWithin r _ _ _ _).bind ?_
  rintro progress _ rfl
  exact .ok rfl

/-! ### Gas -/

namespace Gas

theorem withdraws_unnamed (r : Registry) (i : Nat) : withdraws r.unnamed i = withdraws r i := by
  unfold withdraws libfuncAt?
  rw [r.program_unnamed, r.program.getElem?_statements_unnamed]
  cases r.program.statements[i]? with
  | none => rfl
  | some statement =>
    cases statement with
    | ret vars => rfl
    | invoke inv =>
      simp only [Option.map_some, Statement.unnamed, r.libfunc?_unnamed, Option.any_map]
      congr 1
      funext lib
      obtain ⟨operation, _, _⟩ := lib
      cases operation <;> rfl

theorem targets_unnamed (r : Registry) (i : Nat) : targets r.unnamed i = targets r i := by
  unfold targets
  rw [r.program_unnamed, r.program.getElem?_statements_unnamed]
  cases r.program.statements[i]? with
  | none => rfl
  | some statement =>
    cases statement with
    | ret vars => rfl
    | invoke inv =>
      simp only [Option.map_some, Statement.unnamed, r.libfunc?_unnamed]
      cases r.libfunc? inv.libfunc with
      | none => rfl
      | some lib =>
        obtain ⟨operation, _, _⟩ := lib
        cases operation <;> rfl

theorem free_unnamed (r : Registry) : free r.unnamed = free r := by
  funext i
  rw [free, free, withdraws_unnamed, r.program_unnamed,
    r.program.length_statements_unnamed]

theorem flowGraph_unnamed (r : Registry) (m : Metadata) :
    flowGraph r.unnamed m = flowGraph r m := by
  unfold flowGraph
  rw [r.program_unnamed, r.program.length_statements_unnamed,
    free_unnamed]
  simp only [targets_unnamed]

end Gas

/-- Two gas faults with the same cycle in the function of the same number. -/
def GasFault.Alike (a b : GasFault) : Prop := a.cycle = b.cycle ∧ a.function.id = b.function.id

theorem agree_checkGasUsage (r : Registry) (m : Metadata) :
    Agree GasFault.Alike Eq (checkGasUsage r m) (checkGasUsage r.unnamed m) := by
  unfold checkGasUsage
  rw [Gas.flowGraph_unnamed]
  cases (Gas.flowGraph r m).lowestCycle with
  | none => exact .ok rfl
  | some cycle =>
    refine .error ⟨rfl, ?_⟩
    rw [r.program_unnamed, Ap.functionId_unnamed,
      Ident.id_unnamed]

end SierraCasm
