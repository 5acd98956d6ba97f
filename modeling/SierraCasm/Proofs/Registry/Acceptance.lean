import SierraCasm.Proofs.Registry.LibfuncRules

/-! # Which programs have a registry

A registry is built for the well-formed programs and for no others, and the code of a violation
belongs to the first group of rules that the program breaks.

Each pass of the validation decides one group of rules, given that the earlier passes succeeded
(`Decides`): it succeeds exactly when the rules of the group hold, and otherwise stops with a code
of the group. -/

namespace SierraCasm

open Sierra Concrete

/-! ### Errors of checks -/

namespace StopsOnly

variable {ε α β : Type} {P : ε → Prop}

theorem checkAll {check : α → Except ε Unit} {xs : List α} (h : ∀ x, StopsOnly P (check x)) :
    StopsOnly P (SierraCasm.checkAll check xs) := by
  induction xs with
  | nil => exact .ok
  | cons x xs ih => exact (h x).bind fun _ _ => ih

theorem mapM {f : α → Except ε β} {xs : List α} (h : ∀ x, StopsOnly P (f x)) :
    StopsOnly P (xs.mapM f) := by
  induction xs with
  | nil => exact .ok
  | cons x xs ih =>
    rw [List.mapM_cons]
    exact (h x).bind fun _ _ => ih.bind fun _ _ => .ok

end StopsOnly

theorem exists_mapM_eq_ok_iff {ε α β : Type} {f : α → Except ε β} {xs : List α} :
    (∃ ys, xs.mapM f = .ok ys) ↔ ∀ x ∈ xs, ∃ y, f x = .ok y := by
  induction xs with
  | nil => simp [pure, Except.pure]
  | cons x xs ih =>
    simp only [List.mapM_cons, bind_eq_ok, pure, Except.pure, Except.ok.injEq, List.mem_cons,
      forall_eq_or_imp, ← ih]
    constructor
    · rintro ⟨-, y, hy, ys, hys, -⟩
      exact ⟨⟨y, hy⟩, ys, hys⟩
    · rintro ⟨⟨y, hy⟩, ys, hys⟩
      exact ⟨y :: ys, y, hy, ys, hys, rfl⟩

namespace Registry

/-- A computation decides a group of rules for a program: it succeeds exactly when they hold, and
stops with a code of the group only. -/
structure Decides {α : Type} (p : Program) (g : RuleGroup) (x : Except Violation α) : Prop where
  ok_iff : (∃ a, x = .ok a) ↔ g.Holds p
  code : StopsOnly (fun v => v.code ∈ g.codes) x

theorem Decides.of_check {p : Program} {g : RuleGroup} {x : Except Violation Unit}
    (hok : x = .ok () ↔ g.Holds p) (hcode : StopsOnly (fun v => v.code ∈ g.codes) x) :
    Decides p g x := by
  refine ⟨?_, hcode⟩
  rw [← hok]
  constructor
  · rintro ⟨⟨⟩, h⟩
    exact h
  · intro h
    exact ⟨(), h⟩

/-- What comes of the validation of a program: it is well-formed and the validation succeeds, or
the validation stops with a code of the first group of rules that the program breaks. -/
def Settles {α : Type} (p : Program) (x : Except Violation α) : Prop :=
  (∃ a, x = .ok a) ∧ p.WellFormed ∨
    ∃ v g, x = .error v ∧ p.FirstBroken g ∧ v.code ∈ g.codes

/-- One pass: its group of rules is broken, or the validation goes on with one more group. -/
theorem Decides.bind {α β : Type} {p : Program} {g : RuleGroup} {x : Except Violation α}
    {f : α → Except Violation β} (h : Decides p g x)
    (hbefore : ∀ earlier : RuleGroup, earlier.place < g.place → earlier.Holds p)
    (hf : ∀ a, x = .ok a → (∀ earlier : RuleGroup, earlier.place < g.place + 1 → earlier.Holds p) →
      Settles p (f a)) : Settles p (x >>= f) := by
  cases hx : x with
  | error v =>
    have hbroken : ¬ g.Holds p := by
      intro hholds
      obtain ⟨a, ha⟩ := h.ok_iff.mpr hholds
      rw [hx] at ha
      cases ha
    exact .inr ⟨v, g, rfl, ⟨hbroken, hbefore⟩, h.code v hx⟩
  | ok a =>
    refine hf a hx fun earlier hlt => ?_
    rcases Nat.lt_succ_iff_lt_or_eq.mp hlt with hlt | heq
    · exact hbefore earlier hlt
    · obtain rfl : earlier = g := by cases earlier <;> cases g <;> first | rfl | cases heq
      exact h.ok_iff.mp ⟨a, hx⟩

/-! ### Numbers -/

theorem firstRepeated_eq_none_iff {seen : List UInt64} {ids : List Ident} :
    firstRepeated seen ids = none ↔ (ids.map (·.id)).Nodup ∧ ∀ id ∈ ids, id.id ∉ seen := by
  constructor
  · exact nodup_of_firstRepeated
  · intro h
    induction ids generalizing seen with
    | nil => rfl
    | cons id ids ih =>
      obtain ⟨hnodup, hfresh⟩ := h
      rw [List.map_cons, List.nodup_cons] at hnodup
      rw [firstRepeated, if_neg (hfresh id List.mem_cons_self)]
      refine ih ⟨hnodup.2, fun id' hid' => ?_⟩
      rw [List.mem_cons, not_or]
      refine ⟨fun heq => hnodup.1 ?_, hfresh id' (List.mem_cons_of_mem _ hid')⟩
      exact heq ▸ List.mem_map_of_mem hid'

theorem checkDistinct_eq_ok_iff {violation : Ident → Violation} {ids : List Ident} :
    checkDistinct violation ids = .ok () ↔ (ids.map (·.id)).Nodup := by
  have hnone : firstRepeated [] ids = none ↔ (ids.map (·.id)).Nodup := by
    simp [firstRepeated_eq_none_iff]
  rw [← hnone]
  unfold checkDistinct
  split
  · rename_i id hid
    simp [hid]
  · rename_i hid
    simp [hid]

theorem checkDistinct_stops {violation : Ident → Violation} {P : Violation → Prop}
    {ids : List Ident} (h : ∀ id, P (violation id)) :
    StopsOnly P (checkDistinct violation ids) := by
  unfold checkDistinct
  split
  · exact .error (h _)
  · exact .ok

theorem decides_ids (p : Program) : Decides p .ids (checkDuplicates p) := by
  apply Decides.of_check
  · simp only [checkDuplicates, check_bind_eq_ok, checkDistinct_eq_ok_iff, List.map_map]
    rfl
  · have hcode : ∀ {violation : Ident → Violation}, (∀ id, (violation id).code = "E110") →
        ∀ {ids}, StopsOnly (fun v => v.code ∈ RuleGroup.ids.codes) (checkDistinct violation ids) :=
      fun h => checkDistinct_stops fun id => by simp [RuleGroup.codes, h id]
    exact (hcode fun _ => rfl).bind fun _ _ =>
      (hcode fun _ => rfl).bind fun _ _ => hcode fun _ => rfl

/-! ### Functions -/

theorem declared_eq_true_iff {p : Program} {id : Ident} :
    declared p id = true ↔ Declared p.types id := by
  simp [declared, Declared, DeclaredAs]

theorem map_eq_map_iff {α β γ : Type} {f : α → γ} {g : β → γ} {xs : List α} {ys : List β} :
    xs.map f = ys.map g ↔ xs.length = ys.length ∧ ∀ x ∈ xs.zip ys, f x.1 = g x.2 := by
  induction xs generalizing ys with
  | nil => cases ys <;> simp
  | cons x xs ih =>
    cases ys with
    | nil => simp
    | cons y ys => simp [ih, and_left_comm]

theorem checkFunction_eq_ok_iff {p : Program} {f : Function} :
    checkFunction p f = .ok () ↔ FunctionFormed p f := by
  simp only [checkFunction, check_bind_eq_ok, checkAll_eq_ok, require_eq_ok, declared_eq_true_iff,
    beq_iff_eq, checkParams_eq_ok_iff, Bool.and_eq_true, decide_eq_true_eq, List.not_mem_nil,
    not_false_eq_true, and_true]
  constructor
  · rintro ⟨hparams, hrets, hlength, ⟨htypes, hnodup⟩, hentry⟩
    rw [map_var_zip hlength] at hnodup
    exact ⟨hparams, hrets, map_eq_map_iff.mpr ⟨hlength, htypes⟩, hnodup, hentry.1, hentry.2⟩
  · rintro ⟨hparams, hrets, htypes, hnodup, hlow, hhigh⟩
    obtain ⟨hlength, htypes⟩ := map_eq_map_iff.mp htypes
    rw [← map_var_zip hlength] at hnodup
    exact ⟨hparams, hrets, hlength, ⟨htypes, hnodup⟩, hlow, hhigh⟩

theorem checkParams_stops {f : Function} {bound : List UInt64} {params : List (Param × Ident)} :
    StopsOnly (fun v => v.code ∈ RuleGroup.functions.codes) (checkParams f bound params) := by
  induction params generalizing bound with
  | nil => exact .ok
  | cons x params ih =>
    refine .bind (.require ?_) fun _ _ => .bind (.require ?_) fun _ _ => ih
    · simp [Violation.code, RuleGroup.codes]
    · simp [Violation.code, RuleGroup.codes]

theorem decides_functions (p : Program) :
    Decides p .functions (checkAll (checkFunction p) p.functions) := by
  apply Decides.of_check
  · simp only [checkAll_eq_ok, checkFunction_eq_ok_iff]
    rfl
  · have hcode : ∀ {v : Violation}, v.code ∈ RuleGroup.functions.codes → ∀ {c : Bool},
        StopsOnly (fun v => v.code ∈ RuleGroup.functions.codes) (require c v) :=
      fun h => .require h
    refine .checkAll fun f => ?_
    refine .bind (.checkAll fun ty => hcode (by simp [Violation.code, RuleGroup.codes])) ?_
    intro _ _
    refine .bind (.checkAll fun ty => hcode (by simp [Violation.code, RuleGroup.codes])) ?_
    intro _ _
    refine .bind (hcode (by simp [Violation.code, RuleGroup.codes])) fun _ _ => ?_
    exact checkParams_stops.bind fun _ _ => hcode (by simp [Violation.code, RuleGroup.codes])

/-! ### Types and libfuncs -/

theorem specializeTypes_stops {known : List (Ident × ConcreteType)} {ds : List Declaration} :
    StopsOnly (fun v => v.code ∈ RuleGroup.types.codes) (specializeTypes known ds) := by
  induction ds generalizing known with
  | nil => exact .ok
  | cons d ds ih =>
    unfold specializeTypes
    split
    · exact ih
    · exact .error (by simp [Violation.code, RuleGroup.codes])

theorem decides_types {p : Program} (hids : RuleGroup.ids.Holds p) :
    Decides p .types (specializeTypes [] p.types) where
  ok_iff := Tabulates.nil.exists_specializeTypes_iff hids.1
  code := specializeTypes_stops

theorem specializeDeclaration_eq_ok_iff {ctx : LibfuncContext} {d : Declaration}
    {entry : Ident × ConcreteLibfunc} :
    specializeDeclaration ctx d = .ok entry ↔
      entry.1 = d.id ∧ specializeLibfunc ctx d.longId = .ok entry.2 := by
  unfold specializeDeclaration
  split
  · rename_i lib hlib
    rw [hlib, Except.ok.injEq, Except.ok.injEq, Prod.ext_iff, eq_comm]
  · rename_i e hlib
    simp [hlib]

theorem decides_libfuncs {p : Program} {types : List (Ident × ConcreteType)}
    (h : Settled p types) :
    Decides p .libfuncs (p.libfuncs.mapM (specializeDeclaration (context p types))) where
  ok_iff := by
    rw [exists_mapM_eq_ok_iff]
    refine forall₂_congr fun d _ => ?_
    simp only [specializeDeclaration_eq_ok_iff, h.formed_iff]
    constructor
    · rintro ⟨entry, -, hlib⟩
      exact ⟨_, entry.2, hlib, rfl⟩
    · rintro ⟨a, lib, hlib, -⟩
      exact ⟨(d.id, lib), rfl, hlib⟩
  code := by
    refine .mapM fun d => ?_
    unfold specializeDeclaration
    split
    · exact .ok
    · exact .error (by simp [Violation.code, RuleGroup.codes])

/-! ### Statements -/

theorem checkBranches_of_valid {n i b : Nat} {lib : Ident} {sig : Signature}
    {bs : List (Branch × BranchSignature)}
    (h : ∀ k branch expected, bs[k]? = some (branch, expected) →
      BranchValid n sig (b + k) branch expected) : checkBranches n i lib sig b bs = .ok () := by
  induction bs generalizing b with
  | nil => rfl
  | cons first rest ih =>
    obtain ⟨branch, expected⟩ := first
    rw [checkBranches, check_bind_eq_ok]
    refine ⟨?_, ih fun k branch expected hk => ?_⟩
    · obtain ⟨hresults, htarget⟩ := h 0 branch expected rfl
      rw [checkBranch, check_bind_eq_ok, require_eq_ok, beq_iff_eq]
      refine ⟨hresults, ?_⟩
      rcases htarget with ⟨htarget, hfall⟩ | ⟨t, htarget, hfall, hlow, hhigh⟩
      · rw [htarget]
        simpa using hfall
      · rw [htarget]
        dsimp only
        rw [check_bind_eq_ok, require_eq_ok, require_eq_ok]
        exact ⟨by simpa using hfall, by simpa using ⟨hlow, hhigh⟩⟩
    · have hbranch := h (k + 1) branch expected hk
      rwa [← Nat.add_assoc, Nat.add_right_comm] at hbranch

/-- An invocation passes exactly when it names a libfunc whose signature it matches. -/
theorem checkInvocation_eq_ok_iff {n i : Nat} {libfunc? : Ident → Option ConcreteLibfunc}
    {inv : Invocation} :
    checkInvocation n libfunc? i inv = .ok () ↔
      ∃ lib, libfunc? inv.libfunc = some lib ∧ InvocationValid n lib inv := by
  constructor
  · exact checkInvocation_eq_ok
  · rintro ⟨lib, hlib, hargs, hbranches, hbranch⟩
    simp only [checkInvocation, hlib, check_bind_eq_ok, require_eq_ok, beq_iff_eq]
    refine ⟨hargs, hbranches, checkBranches_of_valid fun k branch expected hk => ?_⟩
    rw [List.getElem?_zip_eq_some] at hk
    rw [Nat.zero_add]
    exact hbranch hk.1 hk.2

/-- To match a signature is to be admitted by its arity. -/
theorem invocationValid_iff {n : Nat} {lib : ConcreteLibfunc} {inv : Invocation} :
    InvocationValid n lib inv ↔ lib.signature.arity.Admits n inv := by
  constructor
  · intro h
    have hbranch : ∀ b branch, inv.branches[b]? = some branch → ∃ expected,
        lib.signature.branches[b]? = some expected ∧
          BranchValid n lib.signature b branch expected := by
      intro b branch hb
      obtain ⟨expected, hexpected⟩ := h.exists_signature hb
      exact ⟨expected, hexpected, h.branch hb hexpected⟩
    refine ⟨h.args, map_eq_map_iff.mpr ⟨h.branches, fun x hx => ?_⟩, ?_, ?_⟩
    · obtain ⟨b, hb⟩ := List.mem_iff_getElem?.mp hx
      rw [List.getElem?_zip_eq_some] at hb
      exact (h.branch hb.1 hb.2).results
    · intro b branch hb
      obtain ⟨expected, -, hvalid⟩ := hbranch b branch hb
      rcases hvalid.target with ⟨htarget, hfall⟩ | ⟨t, htarget, hfall, -⟩
      · exact iff_of_true htarget hfall
      · exact iff_of_false (by simp [htarget]) hfall
    · intro branch hmem t ht
      obtain ⟨b, hb⟩ := List.mem_iff_getElem?.mp hmem
      obtain ⟨expected, -, hvalid⟩ := hbranch b branch hb
      rcases hvalid.target with ⟨htarget, -⟩ | ⟨t', htarget, -, hrange⟩
      · rw [htarget] at ht
        cases ht
      · rw [htarget] at ht
        cases ht
        exact hrange
  · rintro ⟨hargs, hresults, hfall, htarget⟩
    obtain ⟨hlength, hresults⟩ := map_eq_map_iff.mp hresults
    refine ⟨hargs, hlength, fun {b branch expected} hb hexpected => ⟨?_, ?_⟩⟩
    · have hzip : (inv.branches.zip lib.signature.branches)[b]? = some (branch, expected) := by
        rw [List.getElem?_zip_eq_some]
        exact ⟨hb, hexpected⟩
      exact hresults _ (List.mem_of_getElem? hzip)
    · cases ht : branch.target with
      | fallthrough => exact .inl ⟨rfl, (hfall b branch hb).mp ht⟩
      | statement t =>
        refine .inr ⟨t, rfl, fun h => ?_, htarget branch (List.mem_of_getElem? hb) t ht⟩
        have hfall' := (hfall b branch hb).mpr h
        rw [ht] at hfall'
        cases hfall'

theorem libfuncs_of_mapM {ctx : LibfuncContext} {ds : List Declaration}
    {libfuncs : List (Ident × ConcreteLibfunc)}
    (h : ds.mapM (specializeDeclaration ctx) = .ok libfuncs) :
    libfuncs.map (·.1) = ds.map (·.id) ∧
      ∀ d ∈ ds, ∀ lib, specializeLibfunc ctx d.longId = .ok lib → (d.id, lib) ∈ libfuncs := by
  induction ds generalizing libfuncs with
  | nil =>
    rw [List.mapM_nil] at h
    cases h
    simp
  | cons d ds ih =>
    rw [List.mapM_cons] at h
    obtain ⟨entry, hentry, h⟩ := bind_eq_ok.mp h
    obtain ⟨rest, hrest, h⟩ := bind_eq_ok.mp h
    cases h
    obtain ⟨hid, hspecialize⟩ := specializeDeclaration_eq_ok_iff.mp hentry
    obtain ⟨hids, hall⟩ := ih hrest
    refine ⟨by rw [List.map_cons, List.map_cons, hid, hids], fun e he lib hlib => ?_⟩
    rcases List.mem_cons.mp he with rfl | he
    · rw [hspecialize] at hlib
      cases hlib
      rw [← hid]
      exact List.mem_cons_self
    · exact List.mem_cons_of_mem _ (hall e he lib hlib)

theorem findLibfunc_eq_some_iff {ctx : LibfuncContext} {ds : List Declaration}
    {libfuncs : List (Ident × ConcreteLibfunc)}
    (h : ds.mapM (specializeDeclaration ctx) = .ok libfuncs)
    (hdistinct : (ds.map (·.id.id)).Nodup) {id : Ident} {lib : ConcreteLibfunc} :
    findIdent libfuncs id = some lib ↔
      ∃ d ∈ ds, d.id.id = id.id ∧ specializeLibfunc ctx d.longId = .ok lib := by
  obtain ⟨hids, hall⟩ := libfuncs_of_mapM h
  constructor
  · intro hfind
    obtain ⟨id', hmem, hsame⟩ := findIdent_eq_some hfind
    obtain ⟨d, hd, hentry⟩ := mem_of_mapM_eq_ok h _ hmem
    obtain ⟨hid, hlib⟩ := specializeDeclaration_eq_ok_iff.mp hentry
    refine ⟨d, hd, ?_, hlib⟩
    rw [← hid]
    exact (Ident.same_iff _ _).mp hsame
  · rintro ⟨d, hd, hid, hlib⟩
    have hdistinct' : (libfuncs.map (·.1.id)).Nodup := by
      have hmap : libfuncs.map (·.1.id) = ds.map (·.id.id) :=
        calc libfuncs.map (·.1.id) = (libfuncs.map (·.1)).map (·.id) := by rw [List.map_map]; rfl
          _ = ds.map (·.id.id) := by rw [hids, List.map_map]; rfl
      rw [hmap]
      exact hdistinct
    rw [← findIdent_of_mem hdistinct' (hall d hd lib hlib)]
    simp only [findIdent, Ident.same, hid]

theorem checkBranches_stops {n i b : Nat} {lib : Ident} {sig : Signature}
    {bs : List (Branch × BranchSignature)} :
    StopsOnly (fun v => v.code ∈ RuleGroup.statements.codes) (checkBranches n i lib sig b bs) := by
  induction bs generalizing b with
  | nil => exact .ok
  | cons first rest ih =>
    obtain ⟨branch, expected⟩ := first
    refine .bind (.bind (.require ?_) fun _ _ => ?_) fun _ _ => ih
    · simp [Violation.code, RuleGroup.codes]
    · cases branch.target with
      | fallthrough => exact .require (by simp [Violation.code, RuleGroup.codes])
      | statement t =>
        refine .bind (.require ?_) fun _ _ => .require ?_
        · simp [Violation.code, RuleGroup.codes]
        · simp [Violation.code, RuleGroup.codes]

theorem checkStatement_stops {n : Nat} {libfunc? : Ident → Option ConcreteLibfunc}
    {s : Statement × Nat} :
    StopsOnly (fun v => v.code ∈ RuleGroup.statements.codes) (checkStatement n libfunc? s) := by
  unfold checkStatement
  split
  · exact .ok
  · unfold checkInvocation
    split
    · exact .error (by simp [Violation.code, RuleGroup.codes])
    · refine .bind (.require ?_) fun _ _ => .bind (.require ?_) fun _ _ => checkBranches_stops
      · simp [Violation.code, RuleGroup.codes]
      · simp [Violation.code, RuleGroup.codes]

theorem decides_statements {p : Program} {types : List (Ident × ConcreteType)}
    {libfuncs : List (Ident × ConcreteLibfunc)} (h : Settled p types)
    (hdistinct : (p.libfuncs.map (·.id.id)).Nodup)
    (hlibfuncs : p.libfuncs.mapM (specializeDeclaration (context p types)) = .ok libfuncs) :
    Decides p .statements
      (checkAll (checkStatement p.statements.length (findIdent libfuncs)) p.statements.zipIdx) := by
  apply Decides.of_check
  · have hformed : ∀ inv i,
        checkInvocation p.statements.length (findIdent libfuncs) i inv = .ok () ↔
          InvocationFormed p inv := by
      intro inv i
      simp only [checkInvocation_eq_ok_iff, findLibfunc_eq_some_iff hlibfuncs hdistinct,
        invocationValid_iff, InvocationFormed, h.formed_iff]
      constructor
      · rintro ⟨lib, ⟨d, hd, hid, hlib⟩, hadmits⟩
        exact ⟨d, hd, hid, _, ⟨lib, hlib, rfl⟩, hadmits⟩
      · rintro ⟨d, hd, hid, _, ⟨lib, hlib, rfl⟩, hadmits⟩
        exact ⟨lib, ⟨d, hd, hid, hlib⟩, hadmits⟩
    rw [checkAll_eq_ok]
    constructor
    · intro hall inv hinv
      obtain ⟨i, hi⟩ := List.mem_iff_getElem?.mp hinv
      have hmem : (Statement.invoke inv, i) ∈ p.statements.zipIdx := by
        rw [List.mem_zipIdx_iff_getElem?]
        exact hi
      exact (hformed inv i).mp (hall _ hmem)
    · rintro hall ⟨statement, i⟩ hmem
      rw [List.mem_zipIdx_iff_getElem?] at hmem
      cases statement with
      | ret vars => rfl
      | invoke inv => exact (hformed inv i).mpr (hall inv (List.mem_of_getElem? hmem))
  · exact .checkAll fun _ => checkStatement_stops

/-! ### The whole program -/

theorem build_settles (p : Program) : Settles p (build p) := by
  refine (decides_ids p).bind (fun earlier hlt => ?_) fun _ _ h => ?_
  · cases earlier <;> simp [RuleGroup.place] at hlt
  have hids : RuleGroup.ids.Holds p := h .ids (by decide)
  refine (decides_functions p).bind h fun _ _ h => ?_
  refine (decides_types hids).bind h fun types htypes h => ?_
  have hsettled : Settled p types := ⟨Tabulates.nil.specializeTypes htypes, hids.1, hids.2.2⟩
  refine (decides_libfuncs hsettled).bind h fun libfuncs hlibfuncs h => ?_
  refine (decides_statements hsettled hids.2.1 hlibfuncs).bind h fun _ _ h => ?_
  exact .inl ⟨⟨_, rfl⟩, fun g => h g (by cases g <;> decide)⟩

/-- The tables of a registry that was built: the types are settled, all declared libfuncs
specialize, and the libfuncs that are found are the declared ones. -/
theorem settled_of_build {p : Program} {r : Registry} (h : build p = .ok r) :
    Settled p r.types ∧
      (∀ d ∈ p.libfuncs, ∃ lib, specializeLibfunc (context p r.types) d.longId = .ok lib) ∧
      ∀ {id : Ident} {lib : ConcreteLibfunc}, r.libfunc? id = some lib ↔
        ∃ d ∈ p.libfuncs, d.id.id = id.id ∧
          specializeLibfunc (context p r.types) d.longId = .ok lib := by
  obtain ⟨-, htypes, hlibfuncs⟩ := tables_of_build h
  rcases build_settles p with ⟨-, hformed⟩ | ⟨v, g, hv, -⟩
  · have hids : RuleGroup.ids.Holds p := hformed .ids
    refine ⟨⟨Tabulates.nil.specializeTypes htypes, hids.1, hids.2.2⟩, fun d hd => ?_,
      findLibfunc_eq_some_iff hlibfuncs hids.2.1⟩
    obtain ⟨entry, hentry⟩ := exists_mapM_eq_ok_iff.mp ⟨_, hlibfuncs⟩ d hd
    exact ⟨entry.2, (specializeDeclaration_eq_ok_iff.mp hentry).2⟩
  · rw [h] at hv
    cases hv

/-- A registry is built for the well-formed programs and for no others; the code of a violation
belongs to the first group of rules that the program breaks. -/
theorem build_accepts_iff (p : Program) :
    ((∃ r, build p = .ok r) ↔ p.WellFormed) ∧
      ∀ v, build p = .error v → ∃ g, p.FirstBroken g ∧ v.code ∈ g.codes := by
  rcases build_settles p with ⟨⟨r, hr⟩, hformed⟩ | ⟨v, g, hv, hbroken, hcode⟩
  · refine ⟨iff_of_true ⟨r, hr⟩ hformed, fun v hv => ?_⟩
    rw [hr] at hv
    cases hv
  · refine ⟨iff_of_false ?_ fun hformed => hbroken.1 (hformed g), fun v' hv' => ?_⟩
    · rintro ⟨r, hr⟩
      rw [hr] at hv
      cases hv
    · rw [hv] at hv'
      cases hv'
      exact ⟨g, hbroken, hcode⟩

/-- A program that drops a value of the first type and then jumps to a statement. -/
def dropThenJump (generic : String) (target : Int) : Program where
  types := [{ longId := { generic := generic } }]
  libfuncs :=
    [{ longId := { generic := "drop", args := [.type {}] } },
     { id := { id := 1 }, longId := { generic := "jump" } }]
  statements :=
    [.invoke { args := [{}], branches := [{ target := .fallthrough }] },
     .invoke { libfunc := { id := 1 }, branches := [{ target := .statement target }] }]
  functions := [{ paramTypes := [{}], params := [{}] }]

/-- Numbers can be dropped; where a builtin is dropped and a jump leads out of the program, the
rules on libfuncs are the first that are broken. -/
theorem build_accepts_dropThenJump :
    (∃ r, build (dropThenJump "u8" 0) = .ok r) ∧ (dropThenJump "u8" 0).WellFormed ∧
      ∃ v, build (dropThenJump "RangeCheck" 2) = .error v ∧ v.code = "E115" ∧
        ∃ g, (dropThenJump "RangeCheck" 2).FirstBroken g ∧ v.code ∈ g.codes := by
  obtain ⟨r, hr, -⟩ : ∃ r, build (dropThenJump "u8" 0) = .ok r ∧ true = true :=
    exists_of_toOption_any (by decide +kernel)
  have hv : build (dropThenJump "RangeCheck" 2) =
      .error (.libfuncSpecialization {} ⟨"drop", .notDroppable {}⟩) := by rfl
  exact ⟨⟨r, hr⟩, (build_accepts_iff _).1.mp ⟨r, hr⟩, _, hv, rfl, (build_accepts_iff _).2 _ hv⟩

end Registry

end SierraCasm
