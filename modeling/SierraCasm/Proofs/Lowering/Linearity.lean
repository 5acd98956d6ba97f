import SierraCasm.Proofs.Lowering.Shapes
import SierraCasm.Proofs.Lowering.Simulation

/-! # Builtins are neither dropped nor duplicated

What the builtins in the live variables weigh together (`Env.holdings`) does not change along a
branch, except for a call, which trades what its parameters hold for what its results hold; at a
return the function holds what its results do (`linear_of_compile`).  Each builtin may be given a
weight of its own, so this is true of their numbers together and of each number alone.

No libfunc but a call changes what is held (`Specialized.holdings_eq`): what it drops or duplicates
holds nothing.  Arguments are taken out of the environment and results are put into it, which needs
that no variable is bound twice (`Env.Ordered`) and that no variable is overridden. -/

namespace SierraCasm

open Sierra Concrete

/-! ### Signatures -/

/-- What the builtins in values of some types weigh together. -/
def Registry.holdingsOf (r : Registry) (weight : Registry.Builtin → Nat) (types : List Ident) :
    Nat :=
  (types.map (r.holdings weight)).sum

section signatures

variable {r : Registry} {weight : Registry.Builtin → Nat}

@[simp] theorem Registry.holdingsOf_nil : r.holdingsOf weight [] = 0 := rfl

@[simp] theorem Registry.holdingsOf_cons (id : Ident) (ids : List Ident) :
    r.holdingsOf weight (id :: ids) = r.holdings weight id + r.holdingsOf weight ids :=
  rfl

theorem Registry.holdingsOf_congr {ids ids' : List Ident}
    (h : List.Forall₂ (fun a b : Ident => a.id = b.id) ids ids') :
    r.holdingsOf weight ids = r.holdingsOf weight ids' := by
  induction h with
  | nil => rfl
  | cons hid _ ih => rw [holdingsOf_cons, holdingsOf_cons, holdings_congr hid, ih]

variable (hlayers : r.Layered) (htypes : r.TypesValid)
include hlayers htypes

/-- The types of numbers that a look-up by name gives hold no builtin. -/
theorem Registry.Layered.holdings_of_lookup {long : LongId} {id : Ident} {g : GenericType}
    (hg : GenericType.ofName? long.generic = some g)
    (hnumber : ∀ shape : Shape, shape.generic = g → shape.isNumber = true)
    (hlookup : r.lookupType? long = some id) : r.holdings weight id = 0 := by
  obtain ⟨ty, hty, -, hshape, -⟩ := htypes.of_lookup hg hlookup
  exact hlayers.holdings_of_isNumber hty (hnumber _ hshape)

theorem Registry.Layered.holdings_felt252 {id : Ident}
    (hlookup : r.lookupType? { generic := "felt252" } = some id) : r.holdings weight id = 0 :=
  hlayers.holdings_of_lookup htypes rfl (fun shape hshape => by cases shape <;> cases hshape; rfl)
    hlookup

theorem Registry.Layered.holdings_uint {bits : Nat} (hbits : bits ∈ uintWidths) {id : Ident}
    (hlookup : r.lookupType? { generic := uintName bits } = some id) : r.holdings weight id = 0 :=
  hlayers.holdings_of_lookup htypes (ofName?_uintName hbits)
    (fun shape hshape => by cases shape <;> cases hshape; rfl) hlookup

theorem Registry.Layered.holdings_const {id inner : Ident} {ty : ConcreteType} {v : Int}
    (hty : r.type? id = some ty) (hshape : ty.shape = .const inner v) :
    r.holdings weight inner = 0 := by
  obtain ⟨ty', hinner, hnumber⟩ := htypes.const_isNumber hty hshape
  exact hlayers.holdings_of_isNumber hinner hnumber

theorem Registry.Layered.holdings_nonZero {id inner : Ident}
    (hlookup : r.lookupType? ⟨"NonZero", [.type inner]⟩ = some id) :
    r.holdings weight id = r.holdings weight inner := by
  obtain ⟨ty, inner', hty, hshape, hinner⟩ := htypes.nonZero hlookup
  rw [hlayers.holdings_eq hty, hshape]
  exact Registry.holdings_congr hinner

theorem Registry.Layered.holdings_box {id inner : Ident}
    (hlookup : r.lookupType? ⟨"Box", [.type inner]⟩ = some id) :
    r.holdings weight id = r.holdings weight inner := by
  obtain ⟨ty, inner', hty, hshape, hinner⟩ := htypes.box hlookup
  rw [hlayers.holdings_eq hty, hshape]
  exact Registry.holdings_congr hinner

/-- Every branch of a libfunc that is not a call gives back what the libfunc takes. -/
theorem Concrete.Specialized.holdings_eq (weight : Registry.Builtin → Nat) {lib : ConcreteLibfunc}
    (hlib : Specialized r.libfuncContext lib) (hcall : ∀ f, lib.operation ≠ .functionCall f) :
    ∀ sig ∈ lib.signature.branches,
      r.holdingsOf weight sig.outputs = r.holdingsOf weight lib.signature.params := by
  cases hlib with
  | functionCall => exact absurd rfl (hcall _)
  | jump | branchAlign | disableApTracking | enableApTracking | storeTemp | rename | withdrawGas =>
    simp [Signature.single]
  | felt252Const _ hfelt | felt252Binary _ hfelt =>
    simp [Signature.single, hlayers.holdings_felt252 htypes hfelt]
  | felt252IsZero hfelt hnonZero =>
    simp [hlayers.holdings_nonZero htypes hnonZero,
      hlayers.holdings_felt252 htypes hfelt]
  | uintConst hbits _ huint =>
    simp [Signature.single, hlayers.holdings_uint htypes hbits huint]
  | uintToFelt252 hbits huint hfelt =>
    simp [Signature.single, hlayers.holdings_uint htypes hbits huint,
      hlayers.holdings_felt252 htypes hfelt]
  | drop hty hdroppable =>
    simp [Signature.single, hlayers.holdings_eq_zero htypes hty (.inl hdroppable)]
  | dup hty hduplicatable =>
    simp [Signature.single, hlayers.holdings_eq_zero htypes hty (.inr hduplicatable)]
  | structConstruct hty hshape | structDeconstruct hty hshape =>
    have hstruct : r.holdings weight _ = Registry.holdingsRule weight _ _ := hlayers.holdings_eq hty
    rw [hshape] at hstruct
    simp [Signature.single, hstruct, Registry.holdingsRule, Registry.holdingsOf]
  | unbox _ hbox =>
    simp [Signature.single, hlayers.holdings_box htypes hbox]
  | unwrapNonZero _ hnonZero =>
    simp [Signature.single, hlayers.holdings_nonZero htypes hnonZero]
  | constAsImmediate hty hshape =>
    simp [Signature.single, hlayers.holdings_const htypes hty hshape]
  | constAsBox _ hty hshape hbox =>
    simp [Signature.single, hlayers.holdings_box htypes hbox,
      hlayers.holdings_const htypes hty hshape]

end signatures

namespace Lowering

/-! ### Environments -/

/-- What the builtins in the variables of an environment weigh together. -/
def Env.holdings (r : Registry) (weight : Registry.Builtin → Nat) (env : Env) : Nat :=
  r.holdingsOf weight (env.bindings.map (·.2.type))

section environments

variable {r : Registry} {weight : Registry.Builtin → Nat}

@[simp] theorem Env.holdings_empty : Env.holdings r weight {} = 0 := rfl

theorem Env.holdings_invalidateAp (env : Env) :
    env.invalidateAp.holdings r weight = env.holdings r weight := by
  simp only [Env.holdings, Env.invalidateAp, List.map_map]
  rfl

theorem Env.Ordered.invalidateAp {env : Env} (h : env.Ordered) : env.invalidateAp.Ordered := by
  rw [Env.Ordered, Env.vars, Env.invalidateAp, List.map_map]
  exact h

theorem Env.holdings_of_same {env env' : Env} (h : env'.same env = true) :
    env'.holdings r weight = env.holdings r weight := by
  rw [Env.same, Bool.and_eq_true, beq_iff_eq] at h
  obtain ⟨hvars, hrefs⟩ := h
  refine Registry.holdingsOf_congr ?_
  have hlength : env'.bindings.length = env.bindings.length := by
    simpa [Env.vars] using congrArg List.length hvars
  rw [List.forall₂_map_left_iff, List.forall₂_map_right_iff, List.forall₂_iff_zip]
  refine ⟨hlength, fun {b' b} hmem => ?_⟩
  have hsame := List.all_eq_true.mp hrefs _ hmem
  rw [Ref.same, Bool.and_eq_true] at hsame
  exact (Ident.same_iff _ _).mp hsame.1

theorem Env.holdings_erase {env : Env} (hordered : env.Ordered) {v : VarId} {ref : Ref}
    (h : env.find? v = some ref) :
    env.holdings r weight = r.holdings weight ref.type + (env.erase v).holdings r weight := by
  obtain ⟨bindings⟩ := env
  simp only [Env.Ordered, Env.vars, Env.find?, Env.erase, Env.holdings] at hordered h ⊢
  induction bindings with
  | nil => cases h
  | cons b bs ih =>
    rw [List.map_cons, List.pairwise_cons] at hordered
    rw [List.find?_cons] at h
    by_cases hb : b.1 = v
    · have hothers : bs.filter (fun b => b.1 != v) = bs := by
        rw [List.filter_eq_self]
        intro b' hb'
        have hlt := hordered.1 b'.1 (List.mem_map_of_mem hb')
        rw [bne_iff_ne]
        rintro rfl
        rw [hb] at hlt
        exact absurd hlt (UInt64.lt_irrefl _)
      simp only [hb, beq_self_eq_true, Option.map_some, Option.some.injEq] at h
      rw [List.filter_cons_of_neg (by simp [hb]), hothers, ← h, List.map_cons,
        Registry.holdingsOf_cons]
    · simp only [beq_eq_false_iff_ne.mpr hb] at h
      rw [List.filter_cons_of_pos (by simp [hb]), List.map_cons, List.map_cons,
        Registry.holdingsOf_cons, Registry.holdingsOf_cons, ih hordered.2 h, Nat.add_left_comm]

theorem Env.holdings_insert {env : Env} {v : VarId} (h : env.find? v = none) (ref : Ref) :
    (env.insert v ref).holdings r weight = r.holdings weight ref.type + env.holdings r weight := by
  obtain ⟨bindings⟩ := env
  simp only [Env.find?, Env.insert, Env.holdings, Option.map_eq_none_iff] at h ⊢
  induction bindings with
  | nil => rfl
  | cons b bs ih =>
    rw [List.find?_eq_none] at h
    simp only [Env.insertBinding]
    split
    · rfl
    · split
      · rename_i heq
        exact absurd (beq_iff_eq.mpr heq.symm) (h b List.mem_cons_self)
      · rw [List.map_cons, List.map_cons, Registry.holdingsOf_cons, Registry.holdingsOf_cons,
          ih (List.find?_eq_none.mpr fun b' hb' => h b' (List.mem_cons_of_mem b hb')),
          Nat.add_left_comm]

theorem Brings.ordered {m : Metadata} {i b : Nat} {rest e : Env} {branch : Branch}
    {refs : List Ref} (h : Brings m i b rest branch refs e) (hordered : rest.Ordered) :
    e.Ordered := by
  obtain ⟨next, after, arrival, hnext, -, -, rfl⟩ := h
  have hordered' := ordered_of_bindResults hordered hnext
  split
  · exact hordered'
  · exact hordered'.invalidateAp

variable (r weight)

theorem takeArgs_holdings {env rest : Env} {vars : List VarId} {types : List Ident}
    {refs : List Ref} (hordered : env.Ordered)
    (h : takeArgs env vars types = .ok (refs, rest)) :
    env.holdings r weight = r.holdingsOf weight types + rest.holdings r weight := by
  rw [takeArgs_eq_ok_iff] at h
  induction h with
  | nil => simp
  | cons hfind htype _ ih =>
    rw [Env.holdings_erase hordered hfind, ih (hordered.erase _), Registry.holdingsOf_cons,
      Nat.add_assoc, Registry.holdings_congr htype]

theorem bindResults_holdings {env next : Env} {vars : List VarId} {refs : List Ref}
    (h : bindResults env vars refs = .ok next) :
    next.holdings r weight =
      r.holdingsOf weight (refs.map (·.type)) + env.holdings r weight := by
  rw [bindResults_eq_ok_iff] at h
  induction h with
  | nil => simp
  | cons hfresh _ ih =>
    rw [ih, Env.holdings_insert hfresh, List.map_cons, Registry.holdingsOf_cons, Nat.add_assoc,
      Nat.add_left_comm]

theorem Brings.holdings {m : Metadata} {i b : Nat} {rest e : Env} {branch : Branch}
    {refs : List Ref} (h : Brings m i b rest branch refs e) :
    e.holdings r weight = r.holdingsOf weight (refs.map (·.type)) + rest.holdings r weight := by
  obtain ⟨next, after, arrival, hnext, -, -, rfl⟩ := h
  have hholdings := bindResults_holdings r weight hnext
  split
  · exact hholdings
  · exact (Env.holdings_invalidateAp next).trans hholdings

theorem Env.holdings_insertAll {params : List Param} {refs : List Ref} {env : Env}
    (hordered : env.Ordered) (hlength : params.length = refs.length)
    (hfresh : ∀ p ∈ params, env.find? p.var = none) (hnodup : (params.map (·.var)).Nodup) :
    ((params.zip refs).foldl (fun e p => e.insert p.1.var p.2) env).Ordered ∧
      ((params.zip refs).foldl (fun e p => e.insert p.1.var p.2) env).holdings r weight =
        r.holdingsOf weight (refs.map (·.type)) + env.holdings r weight := by
  induction params generalizing refs env with
  | nil =>
    obtain rfl := List.eq_nil_of_length_eq_zero hlength.symm
    exact ⟨hordered, by simp⟩
  | cons p params ih =>
    cases refs with
    | nil => cases hlength
    | cons ref refs =>
      rw [List.map_cons, List.nodup_cons] at hnodup
      have hfresh' : ∀ q ∈ params, (env.insert p.var ref).find? q.var = none := by
        intro q hq
        have hne : q.var ≠ p.var := fun heq => hnodup.1 (List.mem_map.mpr ⟨q, hq, heq⟩)
        rw [Env.find?_insert_of_ne env hne, hfresh q (List.mem_cons_of_mem p hq)]
      obtain ⟨hordered', hholdings⟩ := ih (hordered.insert p.var ref) (Nat.succ_inj.mp hlength)
        hfresh' hnodup.2
      refine ⟨hordered', ?_⟩
      rw [List.zip_cons_cons, List.foldl_cons, hholdings,
        Env.holdings_insert (hfresh p List.mem_cons_self), List.map_cons,
        Registry.holdingsOf_cons, Nat.add_assoc, Nat.add_left_comm]

variable {r}

theorem entryEnv_holdings (hvalid : r.Valid) {f : Function} (hf : f ∈ r.program.functions)
    {env : Env} (h : entryEnv r f = .ok env) :
    env.Ordered ∧ env.holdings r weight = r.holdingsOf weight f.paramTypes := by
  obtain ⟨sized, sized', -, hsized, rfl⟩ := entryEnv_eq_ok h
  obtain ⟨hparams, hnodup⟩ := hvalid.params hf
  have htyped := typed_of_fills hsized (place_fills .fp (-totalCells sized - ApState.callFrame) _)
  obtain ⟨hordered, hholdings⟩ := Env.holdings_insertAll r weight Env.ordered_empty
    (by rw [htyped.length_eq, List.length_map]) (fun _ _ => rfl) hnodup
  refine ⟨hordered, ?_⟩
  rw [hholdings, Registry.holdingsOf_congr hparams,
    Registry.holdingsOf_congr (List.forall₂_map_left_iff.mpr htyped)]
  rfl

end environments

/-! ### Programs -/

theorem EnvTable.Grounded.ordered {r : Registry} {m : Metadata} {envs : EnvTable}
    (hvalid : r.Valid) (h : envs.Grounded ⟨r, m⟩) {j : Nat} {e : Env}
    (hj : envs.at? j = some e) : e.Ordered := by
  refine h.induct (P := fun _ e => e.Ordered)
    (fun hf hentry => (entryEnv_holdings 0 hvalid hf hentry).1) ?_ hj
  intro i b inv site env rest e lib args refs lowered branch hinvoked henv _ _ _ hbrings _
  exact hbrings.ordered (ordered_of_takeArgs henv hinvoked.args_eq)

/-- Builtins move along the branches of a lowered program: what they weigh changes by calls only. -/
structure LoweredProgram.Linear (r : Registry) (m : Metadata) (l : LoweredProgram)
    (weight : Registry.Builtin → Nat) : Prop where
  /-- a function is entered with what its parameters hold -/
  entry : ∀ {f : Function}, f ∈ r.program.functions →
    f.entry.toNat < r.program.statements.length →
    ∃ env, l.envs.at? f.entry.toNat = some env ∧
      env.holdings r weight = r.holdingsOf weight f.paramTypes
  /-- a branch of any other libfunc than a call keeps what is held -/
  branch : ∀ {i b j : Nat} {lib : ConcreteLibfunc} {sig : BranchSignature},
    r.Edge i b lib sig j → (∀ f, lib.operation ≠ .functionCall f) →
    ∃ env env', l.envs.at? i = some env ∧ l.envs.at? j = some env' ∧
      env'.holdings r weight = env.holdings r weight
  /-- a call trades what its parameters hold for what its results hold -/
  call : ∀ {i b j : Nat} {lib : ConcreteLibfunc} {sig : BranchSignature} {f : Function},
    r.Edge i b lib sig j → lib.operation = .functionCall f →
    ∃ env env', l.envs.at? i = some env ∧ l.envs.at? j = some env' ∧
      env'.holdings r weight + r.holdingsOf weight f.paramTypes =
        env.holdings r weight + r.holdingsOf weight f.retTypes
  /-- at a return a function holds what its results do -/
  ret : ∀ {i : Nat} {vars : List VarId}, r.program.statements[i]? = some (.ret vars) →
    ∃ site env f, m.site? i = some site ∧ l.envs.at? i = some env ∧
      r.program.functions[site.owner]? = some f ∧
      env.holdings r weight = r.holdingsOf weight f.retTypes

section valid

variable {r : Registry} {m : Metadata} {l : LoweredProgram} {weight : Registry.Builtin → Nat}

/-- Along a branch, what a libfunc takes is traded for what the branch gives. -/
theorem LoweredProgram.Valid.holdings_edge (weight : Registry.Builtin → Nat) (hvalid : r.Valid)
    (hl : l.Valid ⟨r, m⟩) {i b j : Nat} {lib : ConcreteLibfunc} {sig : BranchSignature}
    (hedge : r.Edge i b lib sig j) :
    ∃ env env', l.envs.at? i = some env ∧ l.envs.at? j = some env' ∧
      env'.holdings r weight + r.holdingsOf weight lib.signature.params =
        env.holdings r weight + r.holdingsOf weight sig.outputs := by
  obtain ⟨inv, site, env, args, rest, lowered, branch, refs, e, env', hinvoked, hb, hrefs, -,
    hbrings, henv', hsame⟩ := hl.passed hedge
  have hordered := EnvTable.Grounded.ordered hvalid (fun _ _ => hl.origin) hinvoked.env_eq
  have htake := takeArgs_holdings r weight hordered hinvoked.args_eq
  have htyped : List.Forall₂ (fun a b : Ident => a.id = b.id) (refs.map (·.type)) sig.outputs := by
    obtain ⟨_, _, -, -, -, hsig, -⟩ := hedge
    obtain ⟨hlt, rfl⟩ := List.getElem?_eq_some_iff.mp hrefs
    obtain ⟨hlt', rfl⟩ := List.getElem?_eq_some_iff.mp hsig
    exact List.forall₂_map_left_iff.mpr ((hinvoked.typed hvalid).get hlt hlt')
  refine ⟨env, env', hinvoked.env_eq, henv', ?_⟩
  rw [Env.holdings_of_same hsame, hbrings.holdings r weight, htake,
    Registry.holdingsOf_congr htyped]
  omega

/-- At a return all that is alive is a result. -/
theorem Returned.holdings (hvalid : r.Valid) {envs : EnvTable} (hgrounded : envs.Grounded ⟨r, m⟩)
    {i : Nat} {vars : List VarId} {site : Ap.Site} {env : Env} {f : Function} {code : List Code}
    (h : Returned ⟨r, m⟩ envs i vars site env f code) :
    env.holdings r weight = r.holdingsOf weight f.retTypes := by
  obtain ⟨⟨⟩, -, hcode⟩ := bind_eq_ok.mp h.code_eq
  obtain ⟨⟨refs, rest⟩, htake, hcode⟩ := bind_eq_ok.mp hcode
  obtain ⟨⟨⟩, hempty, -⟩ := bind_eq_ok.mp hcode
  rw [require_eq_ok, List.isEmpty_iff] at hempty
  have hrest : rest = {} := by
    cases rest
    rw [Env.mk.injEq]
    exact hempty
  rw [takeArgs_holdings r weight (hgrounded.ordered hvalid h.env_eq) htake, hrest,
    Env.holdings_empty, Nat.add_zero]

end valid

end Lowering

open Lowering in
/-- In a compiled program no builtin is dropped, duplicated or made up. -/
theorem linear_of_compile {p : Program} {r : Registry} {m : Metadata} {config : CompileConfig}
    {out : Casm.Program} (hbuild : Registry.build p = .ok r) (hanalyze : analyze r = .ok m)
    (hcompile : compile r m config = .ok out) :
    ∃ l, lowerProgram ⟨r, m⟩ = .ok l ∧ out = assemble l.blocks ∧ ∀ weight, l.Linear r m weight := by
  obtain ⟨l, hlower, hout⟩ := compile_eq_ok hcompile
  have hvalid := (Registry.build_valid hbuild).2
  have hl := lowerProgram_valid (analyze_consistent hanalyze) hlower
  refine ⟨l, hlower, hout, fun weight => ⟨?_, ?_, ?_, ?_⟩⟩
  · intro f hf hlt
    obtain ⟨env, hentry, henv⟩ := hl.entry hf hlt
    exact ⟨env, henv, (entryEnv_holdings weight hvalid hf hentry).2⟩
  · intro i b j lib sig hedge hcall
    obtain ⟨env, env', henv, henv', hholdings⟩ := hl.holdings_edge weight hvalid hedge
    obtain ⟨_, _, -, hlib, -, hsig, -⟩ := hedge
    rw [(hvalid.libfunc hlib).holdings_eq (Registry.build_layered hbuild)
      (Registry.build_typesValid hbuild) weight hcall sig (List.mem_of_getElem? hsig)] at hholdings
    exact ⟨env, env', henv, henv', Nat.add_right_cancel hholdings⟩
  · intro i b j lib sig f hedge hcall
    obtain ⟨env, env', henv, henv', hholdings⟩ := hl.holdings_edge weight hvalid hedge
    obtain ⟨_, _, -, hlib, -, hsig, -⟩ := hedge
    obtain ⟨hsignature, -⟩ := (hvalid.libfunc hlib).of_functionCall hcall
    rw [hsignature] at hholdings hsig
    obtain rfl : sig = ⟨f.retTypes, .call f.id⟩ := by
      cases b <;> cases hsig
      rfl
    exact ⟨env, env', henv, henv', hholdings⟩
  · intro i vars hstatement
    have hblock : i < l.blocks.length := by
      rw [hl.length_blocks]
      exact (List.getElem?_eq_some_iff.mp hstatement).1
    cases hl.statement (List.getElem?_eq_getElem hblock) hstatement with
    | ret hreturned =>
      exact ⟨_, _, _, hreturned.site_eq, hreturned.env_eq, hreturned.function_eq,
        hreturned.holdings hvalid fun _ _ => hl.origin⟩

/-- Function `0` runs forever, so it may promise a builtin that it does not have; function `1` calls
it.  Function `2` puts its two builtins into a struct. -/
def trade : Program where
  types :=
    [.numbered 0 "RangeCheck", .numbered 1 "GasBuiltin",
     .numbered 2 "Struct" [.userType { id := 0 }, .type { id := 0 }, .type { id := 1 }]]
  libfuncs :=
    [.numbered 0 "jump", .numbered 1 "function_call" [.userFunc { id := 0 }],
     .numbered 2 "struct_construct" [.type { id := 2 }],
     .numbered 3 "store_temp" [.type { id := 2 }]]
  statements :=
    [.numbered 0 [] [(.statement 0, [])],
     .numbered 1 [] [(.fallthrough, [0])],
     .ret [⟨0⟩],
     .numbered 2 [0, 1] [(.fallthrough, [2])],
     .numbered 3 [2] [(.fallthrough, [2])],
     .ret [⟨2⟩]]
  functions := [.numbered 0 [] [0] 0, .numbered 1 [] [0] 1, .numbered 2 [0, 1] [2] 3]

open Lowering in
/-- The builtins of `trade`, at each statement: the call at statement `1` trades nothing for one,
and the struct at statement `4` holds two. -/
theorem linear_trade :
    ∃ r m out l, Registry.build trade = .ok r ∧ analyze r = .ok m ∧ compile r m {} = .ok out ∧
      lowerProgram ⟨r, m⟩ = .ok l ∧
      l.envs.map (·.map (Env.holdings r fun _ => 1)) =
        [some 0, some 0, some 1, some 2, some 2, some 2] ∧
      ∀ weight, l.Linear r m weight := by
  obtain ⟨r, hbuild, hr⟩ : ∃ r, Registry.build trade = .ok r ∧
      ((analyze r).toOption.any fun m => (compile r m {}).toOption.any fun _ =>
        (lowerProgram ⟨r, m⟩).toOption.any fun l =>
          decide (l.envs.map (·.map (Env.holdings r fun _ => 1)) =
            [some 0, some 0, some 1, some 2, some 2, some 2])) = true :=
    exists_of_toOption_any (by decide +kernel)
  obtain ⟨m, hanalyze, hm⟩ := exists_of_toOption_any hr
  obtain ⟨out, hcompile, hout⟩ := exists_of_toOption_any hm
  obtain ⟨l, hlower, hl⟩ := exists_of_toOption_any hout
  rw [decide_eq_true_eq] at hl
  obtain ⟨l', hlower', -, hlinear⟩ := linear_of_compile hbuild hanalyze hcompile
  obtain rfl := Except.ok.inj (hlower.symm.trans hlower')
  exact ⟨r, m, out, l, hbuild, hanalyze, hcompile, hlower, hl, hlinear⟩

end SierraCasm
