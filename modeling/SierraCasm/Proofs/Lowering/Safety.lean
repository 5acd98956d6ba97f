import SierraCasm.Proofs.Ap.Termination
import SierraCasm.Proofs.Gas.Execution
import SierraCasm.Proofs.Lowering.Allocation

/-! # Compilation does not fail on its own account

The steps after validation take apart what validation has put together: they look up declarations,
positions and owners, and take lists apart that must have a certain length.  Where a look-up or a
length would be wrong they stop with a fault of their own (`malformed`, `exhausted`).  They never do
for a validated program whose sizes fit: every fault they stop with is one of the program, and names
a statement of it, but for lists of cells that are too long to be allocated, where compilation ends
abruptly (`backEndSafe_of_build`).

The arguments of a libfunc match the patterns of its lowering because they are typed and shaped
(`lowerInvocation_stops`); from there the result is carried through the branches of a statement, a
statement, and the pass. -/

namespace SierraCasm

open Sierra Concrete

namespace Lowering

theorem split_isOk {cells : List Expr} {sized : List (Ident × Nat)}
    (h : sized.foldr (·.2 + ·) 0 ≤ cells.length) : ∃ refs, split cells sized = .ok refs := by
  induction sized generalizing cells with
  | nil => exact ⟨[], rfl⟩
  | cons x sized ih =>
    rw [List.foldr_cons] at h
    have hrest : sized.foldr (·.2 + ·) 0 ≤ (cells.drop x.2).length := by
      rw [List.length_drop]
      omega
    obtain ⟨refs, hrefs⟩ := ih hrest
    refine ⟨⟨x.1, cells.take x.2⟩ :: refs, ?_⟩
    rw [split, if_pos (by omega), hrefs]
    rfl

/-! ### Invocations -/

/-- What lowering stops with is wrong with the program, or a list of cells is too long. -/
structure Defect.Justified (tooLong : Prop) (defect : Defect) : Prop where
  wellFormed : defect ≠ .malformed
  allocated : defect = .unallocatable → tooLong

section

variable {tooLong : Prop}

theorem needing_stops {α : Type} (libfunc : String) (value : Except ValueDefect α) :
    StopsOnly (Defect.Justified tooLong) (needing libfunc value) :=
  StopsOnly.mapError (P := fun _ => True) (fun _ _ => trivial) fun _ _ => ⟨by simp, by simp⟩

theorem reserve_stops {n : Nat} (h : maxCells < n → tooLong) :
    StopsOnly (Defect.Justified tooLong) (reserve n) := by
  intro defect herror
  obtain ⟨rfl, hlarge⟩ := reserve_eq_error_iff.mp herror
  exact ⟨by simp, fun _ => h hlarge⟩

theorem branchTarget_isOk {inv : Invocation} {i b : Nat} (h : b < inv.branches.length) :
    ∃ target, branchTarget inv i b = .ok target := by
  rw [branchTarget, List.getElem?_eq_getElem h]
  exact ⟨_, rfl⟩

theorem checkOnTop_stops {r : Registry} (s : ApState) (values : Stacked) {refs : List Ref}
    {types : List Ident}
    (htypes : List.Forall₂ (fun (ref : Ref) (type : Ident) => ref.type.id = type.id) refs types)
    (hrefs : ∀ ref ∈ refs, ref.Shaped r) (h : maxCells < (types.map r.cells).sum → tooLong) :
    StopsOnly (Defect.Justified tooLong) (checkOnTop s values refs) := by
  rw [← length_cellsOf htypes hrefs] at h
  refine (reserve_stops fun hlarge => h (by omega)).bind fun _ _ => ?_
  split
  · exact .error ⟨by simp, by simp⟩
  · exact .ok

end

theorem Ref.Shaped.eq_word {r : Registry} (htypes : r.TypesValid) {ref : Ref} (h : ref.Shaped r)
    {id : Ident} (htype : ref.type.id = id.id)
    (hid : ∃ ty, r.type? id = some ty ∧ ty.shape.isWord = true) : ∃ t e, ref = ⟨t, [e]⟩ := by
  obtain ⟨e, he⟩ := h.word htypes htype hid
  exact ⟨ref.type, e, by rw [← he]⟩

theorem Ref.Shaped.eq_box {r : Registry} (htypes : r.TypesValid) {ref : Ref} (h : ref.Shaped r)
    {id box : Ident} (htype : ref.type.id = box.id)
    (hbox : r.lookupType? ⟨"Box", [.type id]⟩ = some box) : ∃ t e, ref = ⟨t, [e]⟩ := by
  obtain ⟨ty, inner, hty, hshape, -⟩ := htypes.box hbox
  have hlength := (Ref.shaped_iff hty).mp (h.congr htype rfl)
  rw [Registry.TypesValid.size_of_box htypes hty hshape] at hlength
  obtain ⟨e, he⟩ := List.length_eq_one_iff.mp (Int.ofNat_inj.mp hlength.symm)
  exact ⟨ref.type, e, by rw [← he]⟩

/-- More cells are asked for by an operation than can be allocated. -/
def AllocatesTooMany (r : Registry) (s : ApState) (lib : ConcreteLibfunc) (args : List Ref) : Prop :=
  ∃ n, Allocates r s lib.signature args lib.operation n ∧ maxCells < n

section invocations

variable {r : Registry} {m : Metadata} {i : Nat} {s : ApState} {sig : Signature} {inv : Invocation}
  {tooLong : Prop} (h : r.Checked)

include h in
theorem lowerCall_stops {callee : Function} (hcallee : callee ∈ r.program.functions)
    (hsig : sig.outputs 0 = callee.retTypes) {after : ApState}
    (hafter : m.branchState? i 0 = some after) {args : List Ref}
    (hparams : List.Forall₂ (fun (ref : Ref) (type : Ident) => ref.type.id = type.id) args
      sig.params)
    (hargs : ∀ ref ∈ args, ref.Shaped r) :
    StopsOnly (Defect.Justified
      (∃ n, Allocates r s sig args (.functionCall callee) n ∧ maxCells < n))
      (lowerCall ⟨r, m⟩ i s sig callee args) := by
  refine (checkOnTop_stops s _ hparams hargs fun hlarge => ⟨_, .arguments, hlarge⟩).bind
    fun _ htop => ?_
  obtain ⟨sized, hsized⟩ := withSizes_isOk h fun id hid =>
    h.declared callee hcallee id (List.mem_append_right _ hid)
  rw [← hsig] at hsized
  rw [hsized]
  refine StopsOnly.bind (.ok (a := sized)) fun sized' heq => ?_
  cases heq
  refine StopsOnly.bind (fun defect herror => ?_) fun _ _ => ?_
  · obtain ⟨rfl, type, htype, hlarge⟩ := (reserveAll_of_sized hsized).mp herror
    exact ⟨by simp, fun _ => ⟨_, .result htop htype, hlarge⟩⟩
  · simp only [hafter]
    exact .ok

theorem lowerIsZero_stops (h1 : 1 < inv.branches.length) (e : Expr) :
    StopsOnly (Defect.Justified tooLong) (lowerIsZero i s sig inv e) := by
  unfold lowerIsZero
  refine (needing_stops _ _).bind fun _ _ => ?_
  obtain ⟨target, htarget⟩ := branchTarget_isOk (i := i) h1
  rw [htarget]
  exact .ok

theorem lowerWithdrawGas_stops (h1 : 1 < inv.branches.length) (rangeCheck gas : Ref) (e : Expr) :
    StopsOnly (Defect.Justified tooLong) (lowerWithdrawGas i s inv rangeCheck gas e) := by
  unfold lowerWithdrawGas
  refine (needing_stops _ _).bind fun _ _ => ?_
  obtain ⟨target, htarget⟩ := branchTarget_isOk (i := i) h1
  rw [htarget]
  exact .ok

include h in
theorem lowerUnbox_stops {id t : Ident} {ty : ConcreteType} (hty : r.type? id = some ty)
    (e : Expr) :
    StopsOnly (Defect.Justified
      (∃ n, Allocates r s sig [⟨t, [e]⟩] (.unbox id) n ∧ maxCells < n))
      (lowerUnbox r s sig id e) := by
  unfold lowerUnbox
  refine (needing_stops _ _).bind fun cell hcell => ?_
  have hstored := mapError_eq_ok.mp hcell
  obtain ⟨size, hsize⟩ := cellCount_isOk h hty
  have hcells := cellCount_eq_ok hsize
  rw [hsize]
  refine StopsOnly.bind (.ok (a := size)) fun size' heq => ?_
  cases heq
  refine (reserve_stops fun hlarge => ?_).bind fun _ _ => ?_
  · exact ⟨_, .contents rfl hstored, by omega⟩
  · cases e with
    | deref c => exact .ok
    | doubleDeref | immediate | binary | lost => cases hstored

include h in
theorem lowerDeconstruct_stops {id user : Ident} {ty : ConcreteType} {members : List Ident}
    (hty : r.type? id = some ty) (hshape : ty.shape = .struct user members)
    (hsig : sig.outputs 0 = members) {a : Ref} (ha : a.Shaped r) (htype : a.type.id = id.id) :
    StopsOnly (Defect.Justified tooLong) (lowerDeconstruct r sig a.cells) := by
  have hmembers : ∀ member ∈ members, ∃ ty, r.type? member = some ty := fun member hmem =>
    Option.isSome_iff_exists.mp ((h.types.type hty).parts member (by rw [hshape]; exact hmem))
  obtain ⟨sized, hsized⟩ := withSizes_isOk h hmembers
  have hlength : (sized.foldr (·.2 + ·) 0 : Nat) = (a.cells.length : Int) := by
    rw [← sum_withSizes (withSizes_eq_ok hsized), ← h.sizes.struct hty hshape]
    exact (ha.congr htype rfl).cells_eq
  obtain ⟨refs, hrefs⟩ := split_isOk (Int.ofNat_inj.mp hlength).le
  unfold lowerDeconstruct
  rw [hsig, hsized]
  refine StopsOnly.bind .ok fun sized' hsized' => ?_
  cases hsized'
  rw [hrefs]
  exact .ok

include h in
/-- An invocation of typed and shaped arguments stops with defects of the program only. -/
theorem lowerInvocation_stops {lib : ConcreteLibfunc} {args : List Ref}
    (hlib : Specialized r.libfuncContext lib)
    (hbranches : inv.branches.length = lib.signature.branches.length)
    (hparams : List.Forall₂ (fun (ref : Ref) (type : Ident) => ref.type.id = type.id) args
      lib.signature.params)
    (hargs : ∀ ref ∈ args, ref.Shaped r)
    (hafter : ∀ b < inv.branches.length, ∃ after, m.branchState? i b = some after) :
    StopsOnly (Defect.Justified (AllocatesTooMany r s lib args))
      (lowerInvocation ⟨r, m⟩ i s lib inv args) := by
  cases hlib with
  | felt252Const | uintConst | constAsImmediate | constAsBox | branchAlign | disableApTracking
  | enableApTracking =>
    cases hparams
    exact .ok
  | jump =>
    cases hparams
    obtain ⟨target, htarget⟩ := branchTarget_isOk (i := i) (b := 0) (by rw [hbranches]; decide)
    simp only [lowerInvocation, htarget]
    exact .ok
  | felt252Binary op hfelt =>
    obtain ⟨a, more, hta, hmore, rfl⟩ := List.forall₂_cons_right_iff.mp hparams
    obtain ⟨b, rest, htb, hrest, rfl⟩ := List.forall₂_cons_right_iff.mp hmore
    cases hrest
    obtain ⟨_, x, rfl⟩ := (hargs a (by simp)).eq_word h.types hta (h.types.felt252 hfelt)
    obtain ⟨_, y, rfl⟩ := (hargs b (by simp)).eq_word h.types htb (h.types.felt252 hfelt)
    refine StopsOnly.bind ?_ fun _ _ => .ok
    exact StopsOnly.mapError (P := fun _ => True) (fun _ _ => trivial) fun _ _ =>
      ⟨by simp, by simp⟩
  | rename | uintToFelt252 | unwrapNonZero | dup | drop =>
    obtain ⟨a, rest, -, hrest, rfl⟩ := List.forall₂_cons_right_iff.mp hparams
    cases hrest
    exact .ok
  | storeTemp =>
    obtain ⟨a, rest, -, hrest, rfl⟩ := List.forall₂_cons_right_iff.mp hparams
    cases hrest
    exact (needing_stops _ _).bind fun _ _ => .ok
  | felt252IsZero hfelt =>
    obtain ⟨a, rest, hta, hrest, rfl⟩ := List.forall₂_cons_right_iff.mp hparams
    cases hrest
    obtain ⟨_, e, rfl⟩ := (hargs a (by simp)).eq_word h.types hta (h.types.felt252 hfelt)
    exact lowerIsZero_stops (by rw [hbranches]; exact Nat.one_lt_two) e
  | functionCall hf =>
    obtain ⟨after, hafter⟩ := hafter 0 (by rw [hbranches]; exact Nat.zero_lt_one)
    exact lowerCall_stops h (List.mem_of_find?_eq_some hf) rfl hafter hparams hargs
  | withdrawGas _ hgas =>
    obtain ⟨rangeCheck, more, -, hmore, rfl⟩ := List.forall₂_cons_right_iff.mp hparams
    obtain ⟨b, rest, htb, hrest, rfl⟩ := List.forall₂_cons_right_iff.mp hmore
    cases hrest
    obtain ⟨_, e, rfl⟩ := (hargs b (by simp)).eq_word h.types htb (h.types.gasBuiltin hgas)
    exact lowerWithdrawGas_stops (by rw [hbranches]; exact Nat.one_lt_two) _ _ e
  | structConstruct =>
    have hlength := length_cellsOf hparams hargs
    refine (reserve_stops fun hlarge => ?_).bind fun _ _ => .ok
    exact ⟨_, .struct, by rw [← hlength]; omega⟩
  | structDeconstruct hty hshape =>
    obtain ⟨a, rest, hta, hrest, rfl⟩ := List.forall₂_cons_right_iff.mp hparams
    cases hrest
    exact lowerDeconstruct_stops h hty hshape rfl (hargs a (by simp)) hta
  | unbox hty hbox =>
    obtain ⟨a, rest, hta, hrest, rfl⟩ := List.forall₂_cons_right_iff.mp hparams
    cases hrest
    obtain ⟨_, e, rfl⟩ := (hargs a (by simp)).eq_box h.types hta hbox
    exact lowerUnbox_stops h hty e

end invocations

/-! ### Environments that are passed on -/

section

variable {tooLong : Prop}

theorem takeArgs_stops {e : Env} {vars : List VarId} {types : List Ident}
    (h : vars.length = types.length) :
    StopsOnly (Defect.Justified tooLong) (takeArgs e vars types) := by
  intro defect herror
  rcases takeArgs_eq_error herror with ⟨v, rfl⟩ | ⟨v, actual, type, rfl⟩ | ⟨hne, -⟩
  · exact ⟨by simp, by simp⟩
  · exact ⟨by simp, by simp⟩
  · exact absurd h hne

theorem bindResults_stops {e : Env} {vars : List VarId} {refs : List Ref}
    (h : vars.length = refs.length) :
    StopsOnly (Defect.Justified tooLong) (bindResults e vars refs) := by
  intro defect herror
  rcases bindResults_eq_error herror with ⟨v, rfl⟩ | ⟨hne, -⟩
  · exact ⟨by simp, by simp⟩
  · exact absurd h hne

end

/-- A fault of lowering that names a statement of the program and what is wrong with it, or where
too many cells are asked for. -/
structure Fault.Justified (ctx : Context) (fault : Fault) : Prop where
  statement : fault.statement < ctx.registry.program.statements.length
  defect : fault.defect.Justified (Oversized ctx fault.statement)

/-- Branch `b` of statement `i` can be passed on with the values it binds. -/
structure Passable (r : Registry) (m : Metadata) (i b : Nat) (branch : Branch) (refs : List Ref) :
    Prop where
  results : branch.results.length = refs.length
  after : ∃ after, m.branchState? i b = some after
  arrival : ∃ arrival, m.state? (branch.target.resolve i).toNat = some arrival
  target : (branch.target.resolve i).toNat < r.program.statements.length

theorem FlowFails.justified {r : Registry} {m : Metadata} {i b : Nat} {rest : Env}
    {table : EnvTable} {branch : Branch} {refs : List Ref} {fault : Fault}
    (hi : i < r.program.statements.length) (hpassable : Passable r m i b branch refs)
    (h : FlowFails m i b rest branch refs table fault) : fault.Justified ⟨r, m⟩ := by
  cases h with
  | results hdefect => exact ⟨hi, bindResults_stops hpassable.results _ hdefect⟩
  | unrecorded hnone =>
    obtain ⟨after, hafter⟩ := hpassable.after
    obtain ⟨arrival, harrival⟩ := hpassable.arrival
    rw [hafter, harrival] at hnone
    simp at hnone
  | inconsistent | noReferences => exact ⟨hpassable.target, by simp, by simp⟩

/-! ### Statements -/

theorem lowerReturn_stops {r : Registry} {tooLong : Prop} {f : Function} {s : ApState} {e : Env}
    {vars : List VarId} (hshaped : e.Shaped r)
    (h : ∀ {values}, takeArgs e vars f.retTypes = .ok (values, {}) →
      maxCells < (f.retTypes.map r.cells).sum → tooLong) :
    StopsOnly (Defect.Justified tooLong) (lowerReturn f s e vars) := by
  unfold lowerReturn
  refine (StopsOnly.require ⟨by simp, by simp⟩).bind fun _ hlength => ?_
  rw [require_eq_ok, beq_iff_eq] at hlength
  refine (takeArgs_stops hlength).bind fun ⟨values, rest⟩ hvalues => ?_
  refine (StopsOnly.require ⟨by simp, by simp⟩).bind fun _ hempty => ?_
  obtain ⟨bindings⟩ := rest
  rw [require_eq_ok, List.isEmpty_iff] at hempty
  subst hempty
  have htop := checkOnTop_stops s .returnValues (takeArgs_eq_ok hvalues).1
    (hshaped.takeArgs hvalues).1 (h hvalues)
  exact htop.bind fun _ _ => .ok

section statements

variable {r : Registry} {m : Metadata} {i : Nat} {table : EnvTable} (h : r.Checked)
  (hm : m.Consistent r)
  (howner : ∀ {i site}, m.site? i = some site → site.owner < r.program.functions.length)

/-- The positions after the branches of a reached invocation, and at their targets, are recorded. -/
theorem recorded {b target : Nat} {site : Ap.Site} {lib : ConcreteLibfunc} {sig : BranchSignature}
    (hm : m.Consistent r) (hsite : m.site? i = some site) (hedge : r.Edge i b lib sig target) :
    (∃ after, m.branchState? i b = some after) ∧ (∃ arrival, m.state? target = some arrival) ∧
      target < r.program.statements.length := by
  obtain ⟨next, site', hnext, -, hsite', -⟩ := hm.edge hsite hedge
  refine ⟨⟨next, ?_⟩, ⟨site'.state, ?_⟩, lt_length_of_site hm hsite'⟩
  · rw [Metadata.branchState?, hsite, Option.bind_some, hnext]
  · rw [Metadata.state?, hsite', Option.map_some]

include h hm in
/-- The branches of an invocation can be passed on with the values that lowering gives them. -/
theorem Invoked.passable {inv : Invocation} {site : Ap.Site} {env rest : Env}
    {lib : ConcreteLibfunc} {args : List Ref} {lowered : Lowered}
    (hinvoked : Invoked ⟨r, m⟩ table i inv site env lib args rest lowered) {b : Nat}
    {branch : Branch} {refs : List Ref} (hb : inv.branches[b]? = some branch)
    (hrefs : lowered.outputs[b]? = some refs) : Passable r m i b branch refs := by
  have hinv := hinvoked.valid h.valid
  obtain ⟨sig, hsig⟩ := hinv.exists_signature hb
  obtain ⟨hafter, harrival, htarget⟩ := recorded hm hinvoked.site_eq (hinvoked.edge hb hsig)
  have hresults := (hinv.branch hb hsig).results
  obtain ⟨hlt, rfl⟩ := List.getElem?_eq_some_iff.mp hrefs
  obtain ⟨hlt', rfl⟩ := List.getElem?_eq_some_iff.mp hsig
  have htyped := (hinvoked.typed h.valid).get hlt hlt'
  exact ⟨hresults.trans htyped.length_eq.symm, hafter, harrival, htarget⟩

include h hm howner in
theorem lowerStatement_stops {statement : Statement} (hpass : Pass ⟨r, m⟩ i table)
    (hstatement : r.program.statements[i]? = some statement) :
    StopsOnly (Fault.Justified ⟨r, m⟩) (lowerStatement ⟨r, m⟩ i statement table) := by
  have hshaped : ∀ {env : Env}, table.at? i = some env → env.Shaped r :=
    (hpass.grounded hm).1.shaped h.valid h.types h.sizes
  have hi := (List.getElem?_eq_some_iff.mp hstatement).1
  intro fault herror
  cases lowerStatement_eq_error hstatement herror with
  | unreached => exact ⟨hi, by simp, by simp⟩
  | ownerless hsite hnone =>
    have hge := List.getElem?_eq_none_iff.mp hnone
    exact absurd (howner hsite) (Nat.not_lt.mpr hge)
  | ret hsite henv hf hret =>
    refine ⟨hi, lowerReturn_stops (hshaped henv) (fun hvalues hlarge => ?_) _ hret⟩
    exact ⟨_, .ret hpass hstatement hsite henv hf hvalues, hlarge⟩
  | undeclared hnone =>
    obtain ⟨lib, hlib, -⟩ := h.valid.invocation hstatement
    cases hlib.symm.trans hnone
  | args hlib hargs =>
    obtain ⟨lib', hlib', hinv⟩ := h.valid.invocation hstatement
    cases hlib.symm.trans hlib'
    exact ⟨hi, takeArgs_stops hinv.args _ hargs⟩
  | @lowering inv site env rest lib args defect hsite henv hlib hargs hlower =>
    obtain ⟨lib', hlib', hinv⟩ := h.valid.invocation hstatement
    cases hlib.symm.trans hlib'
    have hafter : ∀ b < inv.branches.length, ∃ after, m.branchState? i b = some after := by
      intro b hb
      have hbranch := List.getElem?_eq_getElem hb
      obtain ⟨sig, hsig⟩ := hinv.exists_signature hbranch
      exact (recorded hm hsite ⟨inv, _, hstatement, hlib, hbranch, hsig, rfl⟩).1
    have hjustified := lowerInvocation_stops h (h.valid.libfunc hlib) hinv.branches
      (takeArgs_eq_ok hargs).1 ((hshaped henv).takeArgs hargs).1 hafter _ hlower
    refine ⟨hi, hjustified.wellFormed, fun hdefect => ?_⟩
    obtain ⟨n, hallocates, hlarge⟩ := hjustified.allocated hdefect
    exact ⟨n, .invoke hpass hstatement hsite henv hlib hargs hallocates, hlarge⟩
  | branches hinvoked hne =>
    have hinv := hinvoked.valid h.valid
    exact absurd (hinv.branches.trans (hinvoked.typed h.valid).length_eq.symm) hne
  | branch hinvoked hb hrefs _ hfails => exact hfails.justified hi (hinvoked.passable h hm hb hrefs)

end statements

/-! ### Programs -/

section programs

variable {r : Registry} {m : Metadata} (h : r.Checked)
include h

theorem enterFunctions_stops {fs : List Function} (hfs : ∀ f ∈ fs, f ∈ r.program.functions)
    {table : EnvTable} (hlength : table.length = r.program.statements.length) :
    StopsOnly (Fault.Justified ⟨r, m⟩) (enterFunctions r fs table) := by
  induction fs generalizing table with
  | nil => exact .ok
  | cons f fs ih =>
    obtain ⟨hf, hrest⟩ := List.forall_mem_cons.mp hfs
    unfold enterFunctions
    dsimp only
    split
    · rename_i hlt
      rw [hlength] at hlt
      split
      · exact ih hrest (by rwa [List.length_set])
      · rename_i defect hdefect
        obtain ⟨rfl, p, hp, hlarge⟩ := (entryEnv_eq_error_iff h hf).mp hdefect
        exact .error ⟨hlt, by simp, fun _ => ⟨_, .param hf hlt hp, hlarge⟩⟩
    · exact ih hrest hlength

theorem lowerProgram_stops (hm : m.Consistent r)
    (howner : ∀ {i site}, m.site? i = some site → site.owner < r.program.functions.length) :
    StopsOnly (Fault.Justified ⟨r, m⟩) (lowerProgram ⟨r, m⟩) := by
  refine (enterFunctions_stops h (fun _ hf => hf) (List.length_map _)).bind fun table htable => ?_
  exact stopsOnly_lowerFrom
    (fun hpass hstatement => lowerStatement_stops h hm howner hpass hstatement)
    (.start htable) fun k => by rw [Nat.zero_add]

/-- Lowering ends abruptly exactly if more cells are asked for than can be allocated. -/
theorem exists_unallocatable_iff (hm : m.Consistent r)
    (howner : ∀ {i site}, m.site? i = some site → site.owner < r.program.functions.length) :
    (∃ i, lowerProgram ⟨r, m⟩ = .error ⟨i, .unallocatable⟩) ↔ ∃ i, Oversized ⟨r, m⟩ i := by
  constructor
  · rintro ⟨i, hi⟩
    exact ⟨i, (lowerProgram_stops h hm howner _ hi).defect.allocated rfl⟩
  · rintro ⟨i, hlarge⟩
    exact exists_unallocatable h hm hlarge

end programs

end Lowering

/-! ### Gas usage and compilation -/

/-- A gas fault that names statements of the program and the function of the first one. -/
structure GasFault.Justified (r : Registry) (m : Metadata) (fault : GasFault) : Prop where
  function : ∃ (i f : Nat) (function : Function), fault.cycle.head? = some (i : Int) ∧
    m.owner? i = some f ∧ r.program.functions[f]? = some function ∧ fault.function = function.id
  cycle : ∀ i ∈ fault.cycle, 0 ≤ i ∧ i < r.program.statements.length

/-- A fault of compilation that is one of the program or of the size of the result. -/
inductive CompileFault.Justified (r : Registry) (m : Metadata) (config : CompileConfig) :
    CompileFault → Prop
  | gas {fault : GasFault} : config.gasCheck = true → fault.Justified r m →
      Justified r m config (.gas fault)
  | lowering {fault : Lowering.Fault} : fault.Justified ⟨r, m⟩ →
      Justified r m config (.lowering fault)
  | tooLarge {size : Nat} : 0 < config.maxSize → config.maxSize < size →
      Justified r m config (.tooLarge size config.maxSize)

section compilation

variable {r : Registry} {m : Metadata} (h : r.Checked) (hm : m.Consistent r)
  (howner : ∀ {i site}, m.site? i = some site → site.owner < r.program.functions.length)
include h hm howner

theorem checkGasUsage_stops : StopsOnly (GasFault.Justified r m) (checkGasUsage r m) := by
  unfold checkGasUsage
  split
  · exact .ok
  · rename_i cycle hcycle
    obtain ⟨hne, hnodes⟩ := Graph.lowestCycle_within (Gas.flowGraph_closed h.valid hm) hcycle
    obtain ⟨i, rest, rfl⟩ := List.exists_cons_of_ne_nil hne
    have hreached : ∀ j ∈ i :: rest, (m.site? j).isSome ∧ j < r.program.statements.length :=
      fun j hj =>
        let ⟨hsite, hfree⟩ := Gas.mem_nodes_iff.mp (hnodes j hj)
        ⟨hsite, (Gas.free_iff.mp hfree).1⟩
    obtain ⟨site, hsite⟩ := Option.isSome_iff_exists.mp (hreached i List.mem_cons_self).1
    have hi : m.owner? i = some site.owner := by rw [Metadata.owner?, hsite, Option.map_some]
    have hfunction := List.getElem?_eq_getElem (howner hsite)
    refine .error ⟨⟨i, site.owner, _, rfl, hi, hfunction, ?_⟩, fun j hj => ?_⟩
    · simp only [List.head?_cons, Option.bind_some, hi, Option.getD_some]
      exact Ap.functionId_eq hfunction
    · obtain ⟨k, hk, rfl⟩ := List.mem_map.mp hj
      exact ⟨Int.natCast_nonneg k, Int.ofNat_lt.mpr (hreached k hk).2⟩

theorem compile_stops (config : CompileConfig) :
    StopsOnly (CompileFault.Justified r m config) (compile r m config) := by
  have hlower : StopsOnly (CompileFault.Justified r m config)
      ((Lowering.lowerProgram ⟨r, m⟩).mapError .lowering) :=
    (Lowering.lowerProgram_stops h hm howner).mapError fun _ hfault => .lowering hfault
  have hassemble : ∀ l : Lowering.LoweredProgram, StopsOnly (CompileFault.Justified r m config)
      (if 0 < config.maxSize ∧ config.maxSize < (Lowering.assemble l.blocks).bytecodeSize then
        .error (.tooLarge (Lowering.assemble l.blocks).bytecodeSize config.maxSize)
      else .ok (Lowering.assemble l.blocks)) := by
    intro l
    split
    · rename_i hlimit
      exact .error (.tooLarge hlimit.1 hlimit.2)
    · exact .ok
  unfold compile
  split
  · rename_i hgas
    refine ((checkGasUsage_stops h hm howner).mapError fun _ hfault => .gas hgas hfault).bind
      fun _ _ => ?_
    exact hlower.bind fun l _ => hassemble l
  · exact hlower.bind fun l _ => hassemble l

end compilation

/-! ### Arities -/

/-- The numbers of values that the lowering of an operation takes and gives along each branch; a
struct takes or gives as many as it has members. -/
def Concrete.Operation.arity : Operation → Option Nat × List (Option Nat)
  | .felt252Const _ | .uintConst _ | .constAsImmediate _ | .constAsBox _ _ => (some 0, [some 1])
  | .felt252Binary _ => (some 2, [some 1])
  | .storeTemp | .rename | .uintToFelt252 | .unwrapNonZero | .unbox _ => (some 1, [some 1])
  | .dup => (some 1, [some 2])
  | .drop => (some 1, [some 0])
  | .jump | .branchAlign | .disableApTracking | .enableApTracking => (some 0, [some 0])
  | .felt252IsZero => (some 1, [some 0, some 1])
  | .functionCall f => (some f.paramTypes.length, [some f.retTypes.length])
  | .withdrawGas => (some 2, [some 2, some 2])
  | .structConstruct => (none, [some 1])
  | .structDeconstruct => (some 1, [none])

/-- A libfunc has the parameters and results that its lowering takes and gives. -/
structure Concrete.ConcreteLibfunc.ArityFits (lib : ConcreteLibfunc) : Prop where
  params : ∀ n ∈ lib.operation.arity.1, lib.signature.params.length = n
  branches : List.Forall₂ (fun (count : Option Nat) (sig : BranchSignature) =>
    ∀ n ∈ count, sig.outputs.length = n) lib.operation.arity.2 lib.signature.branches

theorem Concrete.Specialized.arityFits {ctx : LibfuncContext} {lib : ConcreteLibfunc}
    (h : Specialized ctx lib) : lib.ArityFits := by
  cases h <;> constructor <;> simp [Operation.arity, Signature.single]

/-! ### The result -/

/-- The steps after validation do not fail on their own account: they stop with faults of the
program only, and what they look up and take apart is there. -/
structure Registry.BackEndSafe (r : Registry) : Prop where
  analysis : StopsOnly (Ap.Fault.Justified r.program) (analyze r)
  gas : ∀ {m : Metadata}, analyze r = .ok m → StopsOnly (GasFault.Justified r m) (checkGasUsage r m)
  compilation : ∀ {m : Metadata}, analyze r = .ok m → ∀ config : CompileConfig,
    StopsOnly (CompileFault.Justified r m config) (compile r m config)
  /-- compilation ends abruptly exactly if, after the gas check, more cells are asked for than can be
  allocated -/
  allocation : ∀ {m : Metadata}, analyze r = .ok m → ∀ config : CompileConfig,
    (∃ i, compile r m config = .error (.lowering ⟨i, .unallocatable⟩)) ↔
      (config.gasCheck = true → checkGasUsage r m = .ok ()) ∧ ∃ i, Lowering.Oversized ⟨r, m⟩ i
  /-- which does not happen if there is room for the types and for what functions take and give -/
  room : Lowering.Roomy r → ∀ {m : Metadata} {i : Nat}, ¬ Lowering.Oversized ⟨r, m⟩ i
  /-- whenever a statement is about to be lowered, all references have the cells of their types,
  which are declared -/
  shaped : ∀ {m : Metadata} {i j : Nat} {table : Lowering.EnvTable} {env : Lowering.Env} {v : VarId}
    {ref : Lowering.Ref}, analyze r = .ok m → Lowering.Pass ⟨r, m⟩ i table →
    table.at? j = some env → env.find? v = some ref → ref.Shaped r
  /-- the branches of an invocation get the values that the signature of its libfunc promises -/
  outputs : ∀ {m : Metadata} {i : Nat} {table : Lowering.EnvTable} {inv : Invocation}
    {site : Ap.Site} {env rest : Lowering.Env} {lib : ConcreteLibfunc} {args : List Lowering.Ref}
    {lowered : Lowering.Lowered},
    Lowering.Invoked ⟨r, m⟩ table i inv site env lib args rest lowered →
    List.Forall₂ (fun (refs : List Lowering.Ref) (sig : BranchSignature) =>
      List.Forall₂ (fun (ref : Lowering.Ref) (type : Ident) => ref.type.id = type.id) refs
        sig.outputs) lowered.outputs lib.signature.branches
  /-- the libfunc of an invocation is declared, and they match -/
  invocation : ∀ {i : Nat} {inv : Invocation}, r.program.statements[i]? = some (.invoke inv) →
    ∃ lib, r.libfunc? inv.libfunc = some lib ∧ lib.ArityFits ∧
      InvocationValid r.program.statements.length lib inv
  /-- functions start in the program or at its end, and their types are declared -/
  function : ∀ f ∈ r.program.functions, 0 ≤ f.entry ∧ f.entry ≤ r.program.statements.length ∧
    ∀ id ∈ f.paramTypes ++ f.retTypes, ∃ ty, r.type? id = some ty
  /-- what is recorded about a statement is about one of the program, in one of its functions -/
  site : ∀ {m : Metadata} {i : Nat} {site : Ap.Site}, analyze r = .ok m → m.site? i = some site →
    i < r.program.statements.length ∧ site.owner < r.program.functions.length
  /-- the positions along a branch of a reached statement are recorded -/
  branch : ∀ {m : Metadata} {i b target : Nat} {site : Ap.Site} {lib : ConcreteLibfunc}
    {sig : BranchSignature}, analyze r = .ok m → m.site? i = some site →
    r.Edge i b lib sig target →
    (∃ after, m.branchState? i b = some after) ∧ (∃ arrival, m.state? target = some arrival) ∧
      target < r.program.statements.length

/-- A validated program whose sizes fit into 64 bits is safe for the steps after validation, unless
they ask for more cells than can be allocated. -/
theorem backEndSafe_of_build {p : Program} {r : Registry} (hbuild : Registry.build p = .ok r)
    (hfit : r.SizesFit) : r.BackEndSafe := by
  have h := Registry.build_checked hbuild hfit
  refine
    { analysis := analyze_stops h.valid
      gas := fun hm => checkGasUsage_stops h (analyze_consistent hm) (owner_lt_of_analyze hm)
      compilation := fun hm => compile_stops h (analyze_consistent hm) (owner_lt_of_analyze hm)
      allocation := fun hm config => ?_
      room := fun hroomy => Lowering.not_oversized h hroomy _
      shaped := fun hm hpass henv hv => ?_
      outputs := fun hinvoked => hinvoked.typed h.valid
      invocation := fun hstatement => ?_
      function := fun f hf => ⟨(h.valid.entry hf).1, (h.valid.entry hf).2, h.declared f hf⟩
      site := fun hm hsite =>
        ⟨Lowering.lt_length_of_site (analyze_consistent hm) hsite, owner_lt_of_analyze hm hsite⟩
      branch := fun hm hsite hedge => Lowering.recorded (analyze_consistent hm) hsite hedge }
  · rw [← Lowering.exists_unallocatable_iff h (analyze_consistent hm) (owner_lt_of_analyze hm)]
    simp only [compile_eq_lowering_iff, exists_and_left]
  · have hgrounded := (hpass.grounded (analyze_consistent hm)).1
    exact hgrounded.shaped h.valid h.types h.sizes henv hv
  · obtain ⟨lib, hlib, hinv⟩ := h.valid.invocation hstatement
    exact ⟨lib, hlib, (h.valid.libfunc hlib).arityFits, hinv⟩

/-- A function takes a pair apart and forgets its second half. -/
def unpack : Program where
  types :=
    [.numbered 0 "felt252",
     .numbered 1 "Struct" [.userType { id := 0 }, .type { id := 0 }, .type { id := 0 }]]
  libfuncs := [.numbered 0 "struct_deconstruct" [.type { id := 1 }]]
  statements := [.numbered 0 [0] [(.fallthrough, [1, 2])], .ret [⟨1⟩]]
  functions := [.numbered 0 [1] [0] 0]

/-- Compilation of `unpack` is safe, and stops at the variable that is left at its return. -/
theorem backEndSafe_unpack :
    ∃ r m, Registry.build unpack = .ok r ∧ r.SizesFit ∧ analyze r = .ok m ∧
      compile r m {} = .error (.lowering ⟨1, .stillAlive [⟨2⟩]⟩) ∧ r.BackEndSafe := by
  obtain ⟨r, hbuild, hr⟩ : ∃ r, Registry.build unpack = .ok r ∧
      (decide r.SizesFit && (analyze r).toOption.any fun m =>
        decide (compile r m {} = .error (.lowering ⟨1, .stillAlive [⟨2⟩]⟩))) = true :=
    exists_of_toOption_any (by decide +kernel)
  rw [Bool.and_eq_true, decide_eq_true_eq] at hr
  obtain ⟨m, hanalyze, hm⟩ := exists_of_toOption_any hr.2
  exact ⟨r, m, hbuild, hr.1, hanalyze, of_decide_eq_true hm, backEndSafe_of_build hbuild hr.1⟩

/-- A function that returns its parameter, a struct of `2 ^ 60` cells. -/
def largeValue : Program where
  types := eightfold 20
  libfuncs := []
  statements := [.ret [⟨0⟩]]
  functions := [.numbered 0 [29] [29] 0]

/-- The sizes of `largeValue` fit into 64 bits, but its compilation ends abruptly. -/
theorem compile_largeValue :
    ∃ r m, Registry.build largeValue = .ok r ∧ r.SizesFit ∧ analyze r = .ok m ∧
      r.cells { id := 29 } = 2 ^ 60 ∧
      compile r m {} = .error (.lowering ⟨0, .unallocatable⟩) := by
  obtain ⟨r, hbuild, hr⟩ : ∃ r, Registry.build largeValue = .ok r ∧
      (decide r.SizesFit && decide (r.cells { id := 29 } = 2 ^ 60) &&
        (analyze r).toOption.any fun m =>
          decide (compile r m {} = .error (.lowering ⟨0, .unallocatable⟩))) = true :=
    exists_of_toOption_any (by decide +kernel)
  rw [Bool.and_eq_true, Bool.and_eq_true, decide_eq_true_eq, decide_eq_true_eq] at hr
  obtain ⟨⟨hfit, hcells⟩, hm⟩ := hr
  obtain ⟨m, hanalyze, hcompile⟩ := exists_of_toOption_any hm
  exact ⟨r, m, hbuild, hfit, hanalyze, hcells, of_decide_eq_true hcompile⟩

end SierraCasm
