import SierraCasm.Proofs.Registry.Specialized

/-! # What validation establishes

A registry exists for a valid program only.  `Registry.Valid` says what its rules give the rest of
the development: declared libfuncs are specialized, invocations match the signatures of their
libfuncs, and entry points lie in the program. -/

namespace SierraCasm

open Sierra Concrete

namespace Registry

/-- A branch of an invocation binds what its libfunc gives and goes on where it may. -/
structure BranchValid (n : Nat) (sig : Signature) (b : Nat) (branch : Branch)
    (expected : BranchSignature) : Prop where
  results : branch.results.length = expected.outputs.length
  target : branch.target = .fallthrough ∧ sig.fallthrough = some b ∨
    ∃ t, branch.target = .statement t ∧ sig.fallthrough ≠ some b ∧ 0 ≤ t ∧ t < n

theorem BranchValid.resolve_nonneg {n b : Nat} {sig : Signature} {branch : Branch}
    {expected : BranchSignature} (h : BranchValid n sig b branch expected) (i : Nat) :
    0 ≤ branch.target.resolve i := by
  rcases h.target with ⟨htarget, -⟩ | ⟨t, htarget, -, hnonneg, -⟩
  · rw [htarget]
    exact Int.natCast_nonneg (i + 1)
  · rw [htarget]
    exact hnonneg

/-- An invocation matches the signature of its libfunc. -/
structure InvocationValid (n : Nat) (lib : ConcreteLibfunc) (inv : Invocation) : Prop where
  args : inv.args.length = lib.signature.params.length
  branches : inv.branches.length = lib.signature.branches.length
  branch : ∀ {b : Nat} {branch : Branch} {expected : BranchSignature},
    inv.branches[b]? = some branch → lib.signature.branches[b]? = some expected →
    BranchValid n lib.signature b branch expected

theorem InvocationValid.exists_signature {n : Nat} {lib : ConcreteLibfunc} {inv : Invocation}
    (h : InvocationValid n lib inv) {b : Nat} {branch : Branch}
    (hb : inv.branches[b]? = some branch) : ∃ sig, lib.signature.branches[b]? = some sig := by
  have hlt : b < lib.signature.branches.length := by
    rw [← h.branches]
    exact (List.getElem?_eq_some_iff.mp hb).1
  exact ⟨_, List.getElem?_eq_getElem hlt⟩

/-- What validation establishes. -/
structure Valid (r : Registry) : Prop where
  libfunc : ∀ {id : Ident} {lib : ConcreteLibfunc}, r.libfunc? id = some lib →
    Specialized r.libfuncContext lib
  invocation : ∀ {i : Nat} {inv : Invocation},
    r.program.statements[i]? = some (.invoke inv) →
    ∃ lib, r.libfunc? inv.libfunc = some lib ∧
      InvocationValid r.program.statements.length lib inv
  function : ∀ {f : Function}, f ∈ r.program.functions → checkFunction r.program f = .ok ()

theorem Valid.entry {r : Registry} (h : r.Valid) {f : Function}
    (hf : f ∈ r.program.functions) : 0 ≤ f.entry ∧ f.entry ≤ r.program.statements.length := by
  obtain ⟨⟨⟩, -, h⟩ := bind_eq_ok.mp (h.function hf)
  obtain ⟨⟨⟩, -, h⟩ := bind_eq_ok.mp h
  obtain ⟨⟨⟩, -, h⟩ := bind_eq_ok.mp h
  obtain ⟨⟨⟩, -, h⟩ := bind_eq_ok.mp h
  simpa using h

/-- Statement `i` invokes `lib`, and its branch `b`, with signature `sig`, leads to `target`. -/
def Edge (r : Registry) (i b : Nat) (lib : ConcreteLibfunc) (sig : BranchSignature)
    (target : Nat) : Prop :=
  ∃ inv branch, r.program.statements[i]? = some (.invoke inv) ∧
    r.libfunc? inv.libfunc = some lib ∧ inv.branches[b]? = some branch ∧
    lib.signature.branches[b]? = some sig ∧ (branch.target.resolve i).toNat = target

/-- The signature of the libfunc that statement `i` invokes. -/
def signature? (r : Registry) (i : Nat) : Option Signature :=
  match r.program.statements[i]? with
  | some (.invoke inv) => (r.libfunc? inv.libfunc).map (·.signature)
  | _ => none

def IsReturn (r : Registry) (i : Nat) : Prop := ∃ vars, r.program.statements[i]? = some (.ret vars)

/-! ### Functions -/

theorem map_var_zip {f : Function} (h : f.params.length = f.paramTypes.length) :
    (f.params.zip f.paramTypes).map (·.1.var) = f.params.map (·.var) :=
  calc (f.params.zip f.paramTypes).map (·.1.var)
      = ((f.params.zip f.paramTypes).map Prod.fst).map (·.var) := by rw [List.map_map]; rfl
    _ = f.params.map (·.var) := by rw [List.map_fst_zip (Nat.le_of_eq h)]

theorem checkParams_eq_ok_iff {f : Function} {bound : List UInt64}
    {params : List (Param × Ident)} :
    checkParams f bound params = .ok () ↔
      (∀ x ∈ params, x.1.type.id = x.2.id ∧ x.1.var.id ∉ bound) ∧
        (params.map (·.1.var)).Nodup := by
  induction params generalizing bound with
  | nil => simp [checkParams]
  | cons x params ih =>
    obtain ⟨p, expected⟩ := x
    have hvar : ∀ v : VarId, v = p.var ↔ v.id = p.var.id := by
      intro v
      cases v
      cases p.var
      simp
    simp only [checkParams, check_bind_eq_ok, require_eq_ok, Ident.same_iff, decide_eq_true_eq, ih,
      List.mem_cons, forall_eq_or_imp, List.map_cons, List.nodup_cons, List.mem_map,
      not_exists, not_and, not_or]
    constructor
    · rintro ⟨htype, hfresh, hrest, hnodup⟩
      refine ⟨⟨⟨htype, hfresh⟩, fun y hy => ⟨(hrest y hy).1, (hrest y hy).2.2⟩⟩, ?_, hnodup⟩
      intro y hy heq
      exact (hrest y hy).2.1 ((hvar _).mp heq)
    · rintro ⟨⟨⟨htype, hfresh⟩, hrest⟩, hout, hnodup⟩
      refine ⟨htype, hfresh, fun y hy => ⟨(hrest y hy).1, ?_, (hrest y hy).2⟩, hnodup⟩
      intro heq
      exact hout y hy ((hvar _).mpr heq)

/-! ### Statements -/

theorem checkBranch_eq_ok {n i b : Nat} {lib : Ident} {sig : Signature} {branch : Branch}
    {expected : BranchSignature} (h : checkBranch n i lib sig b branch expected = .ok ()) :
    BranchValid n sig b branch expected := by
  obtain ⟨⟨⟩, hresults, h⟩ := bind_eq_ok.mp h
  refine ⟨by simpa using hresults, ?_⟩
  cases htarget : branch.target with
  | fallthrough =>
    simp only [htarget, require_eq_ok, beq_iff_eq] at h
    exact .inl ⟨rfl, h⟩
  | statement t =>
    simp only [htarget] at h
    obtain ⟨⟨⟩, hmust, h⟩ := bind_eq_ok.mp h
    refine .inr ⟨t, rfl, by simpa using hmust, ?_⟩
    simpa using h

theorem checkBranches_eq_ok {n i b : Nat} {lib : Ident} {sig : Signature}
    {bs : List (Branch × BranchSignature)} (h : checkBranches n i lib sig b bs = .ok ()) :
    ∀ {k branch expected}, bs[k]? = some (branch, expected) →
      BranchValid n sig (b + k) branch expected := by
  induction bs generalizing b with
  | nil => simp
  | cons first rest ih =>
    obtain ⟨⟨⟩, hfirst, hrest⟩ := bind_eq_ok.mp h
    intro k branch expected hk
    cases k with
    | zero =>
      cases Option.some.inj hk
      exact checkBranch_eq_ok hfirst
    | succ k =>
      have := ih hrest hk
      rwa [Nat.add_right_comm] at this

theorem checkInvocation_eq_ok {n i : Nat} {libfunc? : Ident → Option ConcreteLibfunc}
    {inv : Invocation} (h : checkInvocation n libfunc? i inv = .ok ()) :
    ∃ lib, libfunc? inv.libfunc = some lib ∧ InvocationValid n lib inv := by
  unfold checkInvocation at h
  split at h
  · cases h
  · rename_i lib hlib
    obtain ⟨⟨⟩, hargs, h⟩ := bind_eq_ok.mp h
    obtain ⟨⟨⟩, hbranches, h⟩ := bind_eq_ok.mp h
    refine ⟨lib, hlib, by simpa using hargs, by simpa using hbranches, ?_⟩
    intro b branch expected hbranch hexpected
    have hzip : (inv.branches.zip lib.signature.branches)[b]? = some (branch, expected) := by
      rw [List.getElem?_zip_eq_some]
      exact ⟨hbranch, hexpected⟩
    simpa using checkBranches_eq_ok h hzip

/-! ### The whole program -/

theorem findIdent_eq_some {α : Type} {table : List (Ident × α)} {id : Ident} {x : α}
    (h : findIdent table id = some x) : ∃ id', (id', x) ∈ table ∧ id'.same id = true := by
  simp only [findIdent, Option.map_eq_some_iff] at h
  obtain ⟨⟨id', y⟩, hfind, rfl⟩ := h
  have hsame := List.find?_some hfind
  exact ⟨id', List.mem_of_find?_eq_some hfind, hsame⟩

theorem mem_of_mapM_eq_ok {ε α β : Type} {f : α → Except ε β} {xs : List α} {ys : List β}
    (h : xs.mapM f = .ok ys) : ∀ y ∈ ys, ∃ x ∈ xs, f x = .ok y := by
  induction xs generalizing ys with
  | nil =>
    rw [List.mapM_nil] at h
    cases h
    simp
  | cons x xs ih =>
    rw [List.mapM_cons] at h
    obtain ⟨y, hy, h⟩ := bind_eq_ok.mp h
    obtain ⟨ys', hys, h⟩ := bind_eq_ok.mp h
    cases h
    intro z hz
    rcases List.mem_cons.mp hz with rfl | hz
    · exact ⟨x, List.mem_cons_self, hy⟩
    · obtain ⟨x', hx', hz⟩ := ih hys z hz
      exact ⟨x', List.mem_cons_of_mem x hx', hz⟩

/-- A registry that was built keeps the program and is valid. -/
theorem build_valid {p : Program} {r : Registry} (h : build p = .ok r) :
    r.program = p ∧ r.Valid := by
  obtain ⟨-, -, h⟩ := bind_eq_ok.mp h
  obtain ⟨⟨⟩, hfunctions, h⟩ := bind_eq_ok.mp h
  obtain ⟨types, htypes, h⟩ := bind_eq_ok.mp h
  obtain ⟨libfuncs, hlibfuncs, h⟩ := bind_eq_ok.mp h
  obtain ⟨⟨⟩, hstatements, h⟩ := bind_eq_ok.mp h
  cases h
  refine ⟨rfl, ?_, ?_, ?_⟩
  · intro id lib hlib
    obtain ⟨id', hmem, -⟩ := findIdent_eq_some hlib
    obtain ⟨d, -, hd⟩ := mem_of_mapM_eq_ok hlibfuncs _ hmem
    unfold specializeDeclaration at hd
    split at hd
    · rename_i lib' hspecialize
      cases hd
      exact specializeLibfunc_eq_ok hspecialize
    · cases hd
  · intro i inv hi
    have hmem : (Statement.invoke inv, i) ∈ p.statements.zipIdx := by
      rw [List.mem_zipIdx_iff_getElem?]
      exact hi
    exact checkInvocation_eq_ok ((checkAll_eq_ok _ _).mp hstatements _ hmem)
  · intro f hf
    exact (checkAll_eq_ok _ _).mp hfunctions f hf

theorem Valid.callee_mem {r : Registry} (h : r.Valid) {id : Ident} {lib : ConcreteLibfunc}
    {f : Function} (hlib : r.libfunc? id = some lib) (hcall : lib.operation = .functionCall f) :
    f ∈ r.program.functions := by
  obtain ⟨-, id', hf⟩ := (h.libfunc hlib).of_functionCall hcall
  exact List.mem_of_find?_eq_some hf

end Registry

end SierraCasm
