import SierraCasm.Proofs.Lowering.Defects

/-! # Room for cells

Lowering keeps the cells of values in lists, and a list of more than `maxCells` of them cannot be
allocated.  `Requests` says which lists are asked for, by the sizes of types: the parameters at the
entry of a function, the results of a call, the contents of a box, a struct, and values that must be
on top of the stack.  None of them is too long in a program with room for its types and for what
its functions take and give (`not_oversized`).  Lowering a validated program whose sizes fit ends
abruptly exactly if one of them is too long: that it does is shown here (`exists_unallocatable`), and
that it does so in no other case with the other faults of lowering. -/

namespace SierraCasm

open Sierra Concrete

/-! ### What is declared -/

/-- What lowering needs of a validated program. -/
structure Registry.Checked (r : Registry) : Prop where
  valid : r.Valid
  types : r.TypesValid
  layers : r.Layered
  sizes : r.SizesExact
  /-- the types of functions are declared -/
  declared : ∀ f ∈ r.program.functions, ∀ id ∈ f.paramTypes ++ f.retTypes,
    ∃ ty, r.type? id = some ty

theorem Registry.type?_of_declared {p : Program} {r : Registry} (h : build p = .ok r) {id : Ident}
    (hid : declared p id = true) : ∃ ty, r.type? id = some ty := by
  obtain ⟨htypes, hdistinct⟩ := types_of_build h
  obtain ⟨d, hd, hsame⟩ := List.any_eq_true.mp hid
  have hids := (specializeTypes_eq_ok htypes (by simp)).1
  have hmem : d.id ∈ r.types.map (·.1) := by
    rw [hids]
    exact List.mem_append_right _ (List.mem_map_of_mem hd)
  obtain ⟨⟨id', ty⟩, hentry, rfl⟩ := List.mem_map.mp hmem
  refine ⟨ty, ?_⟩
  rw [← r.type?_congr ((Ident.same_iff _ _).mp hsame)]
  exact findIdent_of_mem hdistinct hentry

theorem Registry.declared_of_build {p : Program} {r : Registry} (h : build p = .ok r) {f : Function}
    (hf : f ∈ r.program.functions) :
    ∀ id ∈ f.paramTypes ++ f.retTypes, ∃ ty, r.type? id = some ty := by
  intro id hid
  obtain ⟨hprogram, hvalid⟩ := build_valid h
  obtain ⟨⟨⟩, hparams, hcheck⟩ := bind_eq_ok.mp (hvalid.function hf)
  obtain ⟨⟨⟩, hrets, -⟩ := bind_eq_ok.mp hcheck
  rw [hprogram] at hparams hrets
  refine type?_of_declared h ?_
  rcases List.mem_append.mp hid with hid | hid
  · simpa using (checkAll_eq_ok _ _).mp hparams id hid
  · simpa using (checkAll_eq_ok _ _).mp hrets id hid

theorem Registry.Valid.declared_params {r : Registry} (h : r.Valid) {f : Function}
    (hf : f ∈ r.program.functions) (hdeclared : ∀ id ∈ f.paramTypes, ∃ ty, r.type? id = some ty) :
    ∀ type ∈ f.params.map (·.type), ∃ ty, r.type? type = some ty := by
  intro type htype
  have hparams := (h.params hf).1
  obtain ⟨⟨k, hk⟩, rfl⟩ := List.get_of_mem htype
  rw [← r.type?_congr (hparams.get (hparams.length_eq.symm ▸ hk) hk)]
  exact hdeclared _ (List.get_mem _ _)

theorem Registry.build_checked {p : Program} {r : Registry} (h : build p = .ok r)
    (hfit : r.SizesFit) : r.Checked where
  valid := (build_valid h).2
  types := build_typesValid h
  layers := build_layered h
  sizes := (build_layered h).sizesExact (build_typesValid h) hfit
  declared _ hf := declared_of_build h hf

namespace Lowering

section sizes

variable {r : Registry} (h : r.Checked)
include h

theorem cellCount_isOk {id : Ident} {ty : ConcreteType} (hty : r.type? id = some ty) :
    ∃ n, cellCount r id = .ok n := by
  have hcells := h.layers.cells_eq_exactCells h.types h.sizes hty
  rw [r.cells_eq hty] at hcells
  have hnonneg : 0 ≤ ty.info.size := by
    rw [Int64.le_iff_toInt_le, hcells]
    exact Int.natCast_nonneg _
  exact ⟨_, by rw [cellCount, Registry.size?, hty, Option.map_some]; exact if_pos hnonneg⟩

theorem withSizes_isOk {types : List Ident} (htypes : ∀ id ∈ types, ∃ ty, r.type? id = some ty) :
    ∃ sized, withSizes r types = .ok sized := by
  unfold withSizes
  induction types with
  | nil => exact ⟨[], List.mapM_nil⟩
  | cons id types ih =>
    obtain ⟨⟨ty, hty⟩, hrest⟩ := List.forall_mem_cons.mp htypes
    obtain ⟨n, hn⟩ := cellCount_isOk h hty
    obtain ⟨sized, hsized⟩ := ih hrest
    refine ⟨(id, n) :: sized, ?_⟩
    rw [List.mapM_cons, hn, hsized]
    rfl

end sizes

/-! ### Sizes -/

theorem map_snd_of_withSizes {r : Registry} {types : List Ident} {sized : List (Ident × Nat)}
    (h : withSizes r types = .ok sized) :
    sized.map (fun x => (x.2 : Int)) = types.map r.cells := by
  have hsized := withSizes_eq_ok h
  clear h
  induction hsized with
  | nil => rfl
  | cons hx _ ih => rw [List.map_cons, List.map_cons, ih, hx.2]

theorem reserve_eq_error_iff {n : Nat} {defect : Defect} :
    reserve n = .error defect ↔ defect = .unallocatable ∧ maxCells < n := by
  by_cases h : n ≤ maxCells
  · simp [reserve, require, h]
  · simp [reserve, require, h, eq_comm, Nat.lt_of_not_le h]

theorem reserveAll_eq_error_iff {sized : List (Ident × Nat)} {defect : Defect} :
    reserveAll sized = .error defect ↔ defect = .unallocatable ∧ ∃ x ∈ sized, maxCells < x.2 := by
  induction sized with
  | nil => simp [reserveAll, checkAll]
  | cons x sized ih =>
    rw [reserveAll, checkAll]
    by_cases hx : maxCells < x.2
    · rw [reserve_eq_error_iff.mpr ⟨rfl, hx⟩]
      simp [bind, Except.bind, hx, eq_comm]
    · have hreserve : reserve x.2 = .ok () := by
        rw [reserve, require_eq_ok, decide_eq_true_eq]
        exact Nat.not_lt.mp hx
      rw [hreserve]
      simp only [List.exists_mem_cons_iff, hx, false_or]
      exact ih

/-- Values of sized types cannot be allocated if one of the types has too many cells. -/
theorem reserveAll_of_sized {r : Registry} {types : List Ident} {sized : List (Ident × Nat)}
    (hsized : withSizes r types = .ok sized) {defect : Defect} :
    reserveAll sized = .error defect ↔
      defect = .unallocatable ∧ ∃ type ∈ types, maxCells < r.cells type := by
  have hlarge : (∃ n ∈ sized.map (fun x => (x.2 : Int)), maxCells < n) ↔
      ∃ n ∈ types.map r.cells, maxCells < n := by rw [map_snd_of_withSizes hsized]
  simp only [List.mem_map, exists_exists_and_eq_and, Int.ofNat_lt] at hlarge
  rw [reserveAll_eq_error_iff, hlarge]

/-! ### Requests -/

/-- The numbers of cells that lowering an operation asks for: an operation of some signature, at a
position, on some arguments. -/
inductive Allocates (r : Registry) (s : ApState) (sig : Signature) (args : List Ref) :
    Operation → Int → Prop
  | arguments {callee : Function} :
      Allocates r s sig args (.functionCall callee) (sig.params.map r.cells).sum
  | result {callee : Function} {type : Ident} : checkOnTop s .callArguments args = .ok () →
      type ∈ sig.outputs 0 → Allocates r s sig args (.functionCall callee) (r.cells type)
  | struct : Allocates r s sig args .structConstruct (sig.params.map r.cells).sum
  | contents {type t : Ident} {e : Expr} {cell : Casm.CellRef} : args = [⟨t, [e]⟩] →
      stored e s = .ok cell → Allocates r s sig args (.unbox type) (r.cells type)

/-- The numbers of cells that lowering asks for at a statement that it gets to. -/
inductive Requests (ctx : Context) : Nat → Int → Prop
  | param {f : Function} {p : Param} : f ∈ ctx.registry.program.functions →
      f.entry.toNat < ctx.registry.program.statements.length → p ∈ f.params →
      Requests ctx f.entry.toNat (ctx.registry.cells p.type)
  | ret {i : Nat} {table : EnvTable} {vars : List VarId} {site : Ap.Site} {env : Env}
      {f : Function} {values : List Ref} : Pass ctx i table →
      ctx.registry.program.statements[i]? = some (.ret vars) →
      ctx.metadata.site? i = some site → table.at? i = some env →
      ctx.registry.program.functions[site.owner]? = some f →
      takeArgs env vars f.retTypes = .ok (values, {}) →
      Requests ctx i (f.retTypes.map ctx.registry.cells).sum
  | invoke {i : Nat} {table : EnvTable} {inv : Invocation} {site : Ap.Site} {env rest : Env}
      {lib : ConcreteLibfunc} {args : List Ref} {n : Int} : Pass ctx i table →
      ctx.registry.program.statements[i]? = some (.invoke inv) →
      ctx.metadata.site? i = some site → table.at? i = some env →
      ctx.registry.libfunc? inv.libfunc = some lib →
      takeArgs env inv.args lib.signature.params = .ok (args, rest) →
      Allocates ctx.registry site.state lib.signature args lib.operation n → Requests ctx i n

/-- More cells are asked for at a statement than can be allocated. -/
def Oversized (ctx : Context) (i : Nat) : Prop := ∃ n, Requests ctx i n ∧ maxCells < n

/-- No type, and neither the parameters nor the results of a function together, have more cells than
can be allocated. -/
structure Roomy (r : Registry) : Prop where
  type : ∀ {id : Ident} {ty : ConcreteType}, r.type? id = some ty → r.cells id ≤ maxCells
  function : ∀ f ∈ r.program.functions, (f.paramTypes.map r.cells).sum ≤ maxCells ∧
    (f.retTypes.map r.cells).sum ≤ maxCells

theorem Roomy.allocates_le {r : Registry} (hroomy : Roomy r) (h : r.Checked) {s : ApState}
    {lib : ConcreteLibfunc} {args : List Ref} {n : Int} (hlib : Specialized r.libfuncContext lib)
    (hallocates : Allocates r s lib.signature args lib.operation n) : n ≤ maxCells := by
  cases hlib with
  | functionCall hf =>
    have hcallee := List.mem_of_find?_eq_some hf
    cases hallocates with
    | arguments => exact (hroomy.function _ hcallee).1
    | result _ htype =>
      obtain ⟨ty, hty⟩ := h.declared _ hcallee _ (List.mem_append_right _ htype)
      exact hroomy.type hty
  | structConstruct hty hshape =>
    cases hallocates with
    | struct =>
      have hcells := h.sizes.struct hty hshape
      exact hcells ▸ hroomy.type hty
  | unbox hty =>
    cases hallocates with
    | contents => exact hroomy.type hty
  | _ => cases hallocates

/-- There is room for all cells that are asked for if there is room for types and functions. -/
theorem not_oversized {r : Registry} {m : Metadata} (h : r.Checked) (hroomy : Roomy r) (i : Nat) :
    ¬ Oversized ⟨r, m⟩ i := by
  rintro ⟨n, hrequests, hlarge⟩
  refine Int.not_le.mpr hlarge ?_
  cases hrequests with
  | @param f p hf _ hp =>
    have hdeclared : ∀ id ∈ f.paramTypes, ∃ ty, r.type? id = some ty :=
      fun id hid => h.declared f hf id (List.mem_append_left _ hid)
    obtain ⟨ty, hty⟩ := h.valid.declared_params hf hdeclared _ (List.mem_map_of_mem hp)
    exact hroomy.type hty
  | ret _ _ _ _ hf => exact (hroomy.function _ (List.mem_of_getElem? hf)).2
  | invoke _ _ _ _ hlib _ hallocates => exact hroomy.allocates_le h (h.valid.libfunc hlib) hallocates

/-! ### Requests that are refused -/

/-- Lowering stops where a statement does that it gets to. -/
theorem Pass.lowerProgram_eq_error {ctx : Context} {i : Nat} {table : EnvTable}
    {statement : Statement} {fault : Fault} (hpass : Pass ctx i table)
    (hstatement : ctx.registry.program.statements[i]? = some statement)
    (h : lowerStatement ctx i statement table = .error fault) :
    lowerProgram ctx = .error fault := by
  have hrest : ∀ {i table}, Pass ctx i table →
      lowerFrom ctx i (ctx.registry.program.statements.drop i) table = .error fault →
      lowerProgram ctx = .error fault := by
    intro i table hpass h
    induction hpass with
    | start htable => exact bind_eq_error.mpr (.inr ⟨_, htable, h⟩)
    | next _ hstatement hlower ih =>
      obtain ⟨hlt, rfl⟩ := List.getElem?_eq_some_iff.mp hstatement
      refine ih ?_
      rw [List.drop_eq_getElem_cons hlt]
      exact bind_eq_error.mpr (.inr ⟨_, hlower, bind_eq_error.mpr (.inl h)⟩)
  obtain ⟨hlt, rfl⟩ := List.getElem?_eq_some_iff.mp hstatement
  refine hrest hpass ?_
  rw [List.drop_eq_getElem_cons hlt]
  exact bind_eq_error.mpr (.inl h)

/-- A return stops where its values, which are all that is left, are not on top of the stack. -/
theorem lowerReturn_eq_error {f : Function} {s : ApState} {env : Env} {vars : List VarId}
    {values : List Ref} {defect : Defect} (hvalues : takeArgs env vars f.retTypes = .ok (values, {}))
    (h : checkOnTop s .returnValues values = .error defect) :
    lowerReturn f s env vars = .error defect := by
  have hlength : vars.length = f.retTypes.length := (takeArgs_eq_ok_iff.mp hvalues).length_eq
  refine bind_eq_error.mpr (.inr ⟨(), by rw [require_eq_ok, hlength, beq_self_eq_true], ?_⟩)
  refine bind_eq_error.mpr (.inr ⟨_, hvalues, bind_eq_error.mpr (.inr ⟨(), rfl, ?_⟩)⟩)
  exact bind_eq_error.mpr (.inl h)

section refused

variable {r : Registry} {m : Metadata} {i : Nat} {s : ApState} (h : r.Checked)

theorem checkOnTop_eq_error {values : Stacked} {refs : List Ref} {types : List Ident}
    (htypes : List.Forall₂ (fun (ref : Ref) (type : Ident) => ref.type.id = type.id) refs types)
    (hrefs : ∀ ref ∈ refs, ref.Shaped r) (hlarge : maxCells < (types.map r.cells).sum) :
    checkOnTop s values refs = .error .unallocatable := by
  rw [← length_cellsOf htypes hrefs] at hlarge
  exact bind_eq_error.mpr (.inl (reserve_eq_error_iff.mpr ⟨rfl, by omega⟩))

include h

theorem lowerInvocation_eq_error {lib : ConcreteLibfunc} {inv : Invocation} {args : List Ref}
    {n : Int} (hlib : Specialized r.libfuncContext lib)
    (hparams : List.Forall₂ (fun (ref : Ref) (type : Ident) => ref.type.id = type.id) args
      lib.signature.params)
    (hargs : ∀ ref ∈ args, ref.Shaped r)
    (hallocates : Allocates r s lib.signature args lib.operation n) (hlarge : maxCells < n) :
    lowerInvocation ⟨r, m⟩ i s lib inv args = .error .unallocatable := by
  cases hlib with
  | functionCall hf =>
    cases hallocates with
    | arguments => exact bind_eq_error.mpr (.inl (checkOnTop_eq_error hparams hargs hlarge))
    | result htop htype =>
      obtain ⟨sized, hsized⟩ := withSizes_isOk h fun id hid =>
        h.declared _ (List.mem_of_find?_eq_some hf) id (List.mem_append_right _ hid)
      refine bind_eq_error.mpr (.inr ⟨(), htop, bind_eq_error.mpr (.inr ⟨sized, hsized, ?_⟩)⟩)
      exact bind_eq_error.mpr (.inl ((reserveAll_of_sized hsized).mpr ⟨rfl, _, htype, hlarge⟩))
  | structConstruct =>
    cases hallocates with
    | struct =>
      rw [← length_cellsOf hparams hargs] at hlarge
      exact bind_eq_error.mpr (.inl (reserve_eq_error_iff.mpr ⟨rfl, by omega⟩))
  | unbox hty =>
    cases hallocates with
    | contents heq hstored =>
      subst heq
      obtain ⟨size, hsize⟩ := cellCount_isOk h hty
      rw [cellCount_eq_ok hsize] at hlarge
      refine bind_eq_error.mpr (.inr ⟨_, mapError_eq_ok.mpr hstored, ?_⟩)
      refine bind_eq_error.mpr (.inr ⟨size, hsize, bind_eq_error.mpr (.inl ?_)⟩)
      exact reserve_eq_error_iff.mpr ⟨rfl, by omega⟩
  | _ => cases hallocates

theorem exists_sizes {f : Function} (hf : f ∈ r.program.functions) :
    ∃ total sized, withSizes r f.paramTypes = .ok total ∧
      withSizes r (f.params.map (·.type)) = .ok sized := by
  have hdeclared : ∀ id ∈ f.paramTypes, ∃ ty, r.type? id = some ty :=
    fun id hid => h.declared f hf id (List.mem_append_left _ hid)
  obtain ⟨total, htotal⟩ := withSizes_isOk h hdeclared
  obtain ⟨sized, hsized⟩ := withSizes_isOk h (h.valid.declared_params hf hdeclared)
  exact ⟨total, sized, htotal, hsized⟩

theorem entryEnv_eq_error_iff {f : Function} (hf : f ∈ r.program.functions) {defect : Defect} :
    entryEnv r f = .error defect ↔
      defect = .unallocatable ∧ ∃ p ∈ f.params, maxCells < r.cells p.type := by
  obtain ⟨total, sized, htotal, hsized⟩ := exists_sizes h hf
  have hrefused := (reserveAll_of_sized hsized : reserveAll sized = .error defect ↔ _)
  simp only [List.mem_map, exists_exists_and_eq_and] at hrefused
  rw [← hrefused, entryEnv, htotal, hsized]
  cases hreserve : reserveAll sized with
  | error d => simp [bind, Except.bind, hreserve]
  | ok u => simp [bind, Except.bind, pure, Except.pure, hreserve]

theorem enterFunctions_eq_error {fs : List Function} (hfs : ∀ f ∈ fs, f ∈ r.program.functions)
    {f : Function} (hf : f ∈ fs) {table : EnvTable} (hentry : f.entry.toNat < table.length)
    {p : Param} (hp : p ∈ f.params) (hlarge : maxCells < r.cells p.type) :
    ∃ j, enterFunctions r fs table = .error ⟨j, .unallocatable⟩ := by
  induction fs generalizing table with
  | nil => cases hf
  | cons g fs ih =>
    obtain ⟨hg, hrest⟩ := List.forall_mem_cons.mp hfs
    unfold enterFunctions
    dsimp only
    cases henv : entryEnv r g with
    | error defect =>
      split
      · exact ⟨_, by rw [((entryEnv_eq_error_iff h hg).mp henv).1]⟩
      · rename_i hskip
        rcases List.mem_cons.mp hf with rfl | hf
        · exact absurd hentry hskip
        · exact ih hrest hf hentry
    | ok env =>
      rcases List.mem_cons.mp hf with rfl | hf
      · rw [(entryEnv_eq_error_iff h hg).mpr ⟨rfl, p, hp, hlarge⟩] at henv
        cases henv
      · split
        · exact ih hrest hf (by rwa [List.length_set])
        · exact ih hrest hf hentry

/-- Lowering ends abruptly if more cells are asked for than can be allocated. -/
theorem exists_unallocatable (hm : m.Consistent r) (hlarge : Oversized ⟨r, m⟩ i) :
    ∃ j, lowerProgram ⟨r, m⟩ = .error ⟨j, .unallocatable⟩ := by
  obtain ⟨n, hrequests, hlarge⟩ := hlarge
  cases hrequests with
  | param hf hentry hp =>
    rw [← List.length_map (f := fun _ => (none : Option Env))] at hentry
    obtain ⟨j, hj⟩ := enterFunctions_eq_error h (fun _ hf => hf) hf hentry hp hlarge
    exact ⟨j, bind_eq_error.mpr (.inl hj)⟩
  | @ret _ table vars site env f values hpass hstatement hsite henv hf hvalues =>
    have hshaped := (hpass.grounded hm).1.shaped h.valid h.types h.sizes henv
    have hret : lowerReturn f site.state env vars = .error .unallocatable :=
      lowerReturn_eq_error hvalues
        (checkOnTop_eq_error (takeArgs_eq_ok hvalues).1 (hshaped.takeArgs hvalues).1 hlarge)
    refine ⟨i, hpass.lowerProgram_eq_error hstatement ?_⟩
    simp only [lowerStatement, hsite, henv, hf]
    exact bind_eq_error.mpr (.inl (mapError_eq_error.mpr ⟨_, hret, rfl⟩))
  | @invoke _ table inv site env rest lib args n hpass hstatement hsite henv hlib hargs
      hallocates =>
    have hshaped := (hpass.grounded hm).1.shaped h.valid h.types h.sizes henv
    have hlower : lowerInvocation ⟨r, m⟩ i site.state lib inv args = .error .unallocatable :=
      lowerInvocation_eq_error h (h.valid.libfunc hlib) (takeArgs_eq_ok hargs).1
        (hshaped.takeArgs hargs).1 hallocates hlarge
    refine ⟨i, hpass.lowerProgram_eq_error hstatement ?_⟩
    simp only [lowerStatement, hsite, henv, hlib]
    refine bind_eq_error.mpr (.inr ⟨_, mapError_eq_ok.mpr hargs, ?_⟩)
    exact bind_eq_error.mpr (.inl (mapError_eq_error.mpr ⟨_, hlower, rfl⟩))

end refused

end Lowering

end SierraCasm
