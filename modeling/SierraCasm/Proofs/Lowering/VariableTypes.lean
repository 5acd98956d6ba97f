import SierraCasm.Proofs.Lowering.Linearity
import SierraCasm.Proofs.Lowering.Relocation
import SierraCasm.Proofs.Registry.Sizes

/-! # The types of variables

A libfunc that is not a call gives values of storable types, apart from those of the types that it
takes (`Specialized.output_kept`).  So a variable whose type is not storable goes back to a
signature of the program: to a parameter of a function with a body or to a result of a call
(`EnvTable.Grounded.kept_or_exchanged`).  Conversely all parameters and all results of calls are
bound (`LoweredProgram.Valid.binds`).

Constants are not storable, and no other type is made of them.  No rule of the declarations keeps
them out of the signatures of functions, and there they become the types of variables
(`binds_const_iff`). -/

namespace SierraCasm

open Sierra Concrete

/-! ### Constants -/

namespace Sierra

/-- A type is one of constants, or its values are made of values of such a type. -/
inductive HoldsConst (types : List Declaration) : Ident → Prop
  | const {id : Ident} {long : LongId} : DeclaredAs types id long → long.generic = "Const" →
      HoldsConst types id
  | part {id inner : Ident} {long : LongId} : DeclaredAs types id long →
      long.generic ∈ compoundNames → .type inner ∈ long.args → HoldsConst types inner →
      HoldsConst types id

end Sierra

namespace Registry

/-- A type is known, and its values are kept in memory. -/
def Keeps (r : Registry) (id : Ident) : Prop :=
  ∃ ty, r.type? id = some ty ∧ ty.info.storable = true

theorem Keeps.congr {r : Registry} {id id' : Ident} (h : r.Keeps id) (hid : id.id = id'.id) :
    r.Keeps id' := by
  rwa [Keeps, ← r.type?_congr hid]

section constants

variable {p : Program} {r : Registry} {id : Ident}

theorem not_keeps_of_const (hbuild : build p = .ok r) {long : LongId}
    (hid : DeclaredAs p.types id long) (hname : long.generic = "Const") : ¬ r.Keeps id := by
  rintro ⟨ty, hty, hstorable⟩
  obtain ⟨ty', hty', hspecialized⟩ := specializesTo_of_declaredAs hbuild hid
  obtain rfl := Option.some.inj (hty.symm.trans hty')
  refine hspecialized.storable_iff.mp hstorable ?_
  simp [hname, fleetingNames]

/-- No declared type is made of constants. -/
theorem holdsConst_iff (hbuild : build p = .ok r) :
    HoldsConst p.types id ↔ ∃ args, DeclaredAs p.types id ⟨"Const", args⟩ := by
  constructor
  · intro h
    induction h with
    | @const id long hid hname => exact ⟨long.args, hname ▸ hid⟩
    | part hid hname hpart _ ih =>
      obtain ⟨args, hinner⟩ := ih
      obtain ⟨ty, -, hspecialized⟩ := specializesTo_of_declaredAs hbuild hid
      exact absurd (hspecialized.exists_part hname hpart) (not_keeps_of_const hbuild hinner rfl)
  · rintro ⟨args, hid⟩
    exact .const hid rfl

end constants

/-! ### Libfuncs -/

section libfuncs

variable {r : Registry} (htypes : r.TypesValid) {id inner : Ident} {ty : ConcreteType}
include htypes

theorem TypesValid.keeps_of_shape (hty : r.type? id = some ty)
    (hkept : ty.shape.generic ≠ .const ∧ ty.shape.generic ≠ .uninitialized) : r.Keeps id := by
  refine ⟨ty, hty, ?_⟩
  cases htypes.type hty with
  | felt252 | uint | rangeCheck | gasBuiltin | box | struct => rfl
  | nonZero _ _ _ hstorable => exact hstorable
  | const => exact absurd rfl hkept.1
  | uninitialized => exact absurd rfl hkept.2

/-- What a look-up by name finds is storable, unless it asks for a constant or a reservation. -/
theorem TypesValid.keeps_of_lookup {long : LongId} {g : GenericType}
    (hg : GenericType.ofName? long.generic = some g) (hkept : g ≠ .const ∧ g ≠ .uninitialized)
    (hlookup : r.lookupType? long = some id) : r.Keeps id := by
  obtain ⟨ty, hty, -, rfl, -⟩ := htypes.of_lookup hg hlookup
  exact htypes.keeps_of_shape hty hkept

/-- What a type refers to is storable, except in a reservation. -/
theorem TypesValid.keeps_of_part (hty : r.type? id = some ty)
    (hshape : ∀ inner, ty.shape ≠ .uninitialized inner) :
    ∀ part ∈ ty.shape.parts, r.Keeps part := by
  intro part hpart
  cases htypes.type hty with
  | nonZero _ _ hinner hstorable | box _ _ hinner hstorable =>
    obtain rfl := List.mem_singleton.mp hpart
    exact ⟨_, hinner, hstorable⟩
  | struct _ hmembers =>
    obtain ⟨member, hmem, rfl⟩ := List.mem_map.mp hpart
    exact ⟨_, hmembers member hmem⟩
  | const _ hinner hnumber =>
    obtain rfl := List.mem_singleton.mp hpart
    refine ⟨_, hinner, ?_⟩
    cases htypes.type hinner with
    | felt252 | uint => rfl
    | rangeCheck | gasBuiltin | nonZero | box | struct | const | uninitialized => cases hnumber
  | felt252 | uint | rangeCheck | gasBuiltin => cases hpart
  | uninitialized => exact absurd rfl (hshape _)

/-- What is inside a type that was looked up as a wrapper is storable. -/
theorem TypesValid.keeps_of_wrapper {name : String} (hname : name ∈ wrapperNames)
    (hlookup : r.lookupType? ⟨name, [.type inner]⟩ = some id) : r.Keeps inner := by
  obtain ⟨ty, inner', hty, hshape, hinner⟩ : ∃ ty inner', r.type? id = some ty ∧
      (ty.shape = .nonZero inner' ∨ ty.shape = .box inner') ∧ inner'.id = inner.id := by
    simp only [wrapperNames, List.mem_cons, List.not_mem_nil, or_false] at hname
    rcases hname with rfl | rfl
    · obtain ⟨ty, inner', hty, hshape, hinner⟩ := htypes.nonZero hlookup
      exact ⟨ty, inner', hty, .inl hshape, hinner⟩
    · obtain ⟨ty, inner', hty, hshape, hinner⟩ := htypes.box hlookup
      exact ⟨ty, inner', hty, .inr hshape, hinner⟩
  have hkeeps : r.Keeps inner' := by
    rcases hshape with hshape | hshape <;>
      exact htypes.keeps_of_part hty (by simp [hshape]) inner' (by simp [hshape, Shape.parts])
  exact hkeeps.congr hinner

end libfuncs

end Registry

/-- Every branch of a libfunc that is not a call gives values of storable types, or of types that
the libfunc takes. -/
theorem Concrete.Specialized.output_kept {r : Registry} (htypes : r.TypesValid)
    {lib : ConcreteLibfunc} (hlib : Specialized r.libfuncContext lib)
    (hcall : ∀ f, lib.operation ≠ .functionCall f) :
    ∀ sig ∈ lib.signature.branches, ∀ t ∈ sig.outputs, t ∈ lib.signature.params ∨ r.Keeps t := by
  cases hlib with
  | functionCall => exact absurd rfl (hcall _)
  | jump | branchAlign | disableApTracking | enableApTracking | drop | storeTemp | rename | dup
  | withdrawGas =>
    simp [Signature.single]
  | felt252Const _ hfelt | felt252Binary _ hfelt | uintToFelt252 _ _ hfelt =>
    have hkeeps := htypes.keeps_of_lookup rfl (by decide) hfelt
    simp [Signature.single, hkeeps]
  | felt252IsZero _ hnonZero =>
    have hkeeps := htypes.keeps_of_lookup rfl (by decide) hnonZero
    simp [hkeeps]
  | uintConst hbits _ huint =>
    have hkeeps := htypes.keeps_of_lookup (ofName?_uintName hbits) (by simp) huint
    simp [Signature.single, hkeeps]
  | structConstruct hty hshape =>
    have hkeeps := htypes.keeps_of_shape hty (by simp [hshape, Shape.generic])
    simp [Signature.single, hkeeps]
  | structDeconstruct hty hshape =>
    have hkeeps := htypes.keeps_of_part hty (by simp [hshape])
    rw [hshape, Shape.parts] at hkeeps
    simpa [Signature.single] using fun t ht => Or.inr (hkeeps t ht)
  | constAsImmediate hty hshape =>
    have hkeeps := htypes.keeps_of_part hty (by simp [hshape])
    simpa [Signature.single, hshape, Shape.parts] using hkeeps
  | unbox _ hwrapper | unwrapNonZero _ hwrapper =>
    have hkeeps := htypes.keeps_of_wrapper (by decide) hwrapper
    simp [Signature.single, hkeeps]
  | constAsBox _ _ _ hbox =>
    have hkeeps := htypes.keeps_of_lookup rfl (by decide) hbox
    simp [Signature.single, hkeeps]

/-- Values of a type are given to a function with a body, or given back by a call. -/
def Registry.Exchanges (r : Registry) (t : Ident) : Prop :=
  (∃ f ∈ r.program.functions, f.entry.toNat < r.program.statements.length ∧
      t.id ∈ f.paramTypes.map (·.id)) ∨
    ∃ i f, r.Calls i f ∧ t.id ∈ f.retTypes.map (·.id)

namespace Lowering

/-! ### Environments -/

/-- A variable of a type is bound. -/
def Env.Binds (env : Env) (t : Ident) : Prop :=
  ∃ v ref, env.find? v = some ref ∧ ref.type.id = t.id

/-- A variable of a type is bound at a statement. -/
def EnvTable.Binds (envs : EnvTable) (t : Ident) : Prop :=
  ∃ i env, envs.at? i = some env ∧ env.Binds t

theorem map_eq_map_of_forall₂ {α β γ : Type} {f : α → γ} {g : β → γ} {xs : List α} {ys : List β}
    (h : List.Forall₂ (fun a b => f a = g b) xs ys) : xs.map f = ys.map g := by
  rwa [← List.forall₂_eq_eq_eq, List.forall₂_map_left_iff, List.forall₂_map_right_iff]

section environments

variable {env rest next e : Env} {vars : List VarId} {refs : List Ref} {types : List Ident}
  {t : Ident}

theorem Env.binds_invalidateAp : env.invalidateAp.Binds t ↔ env.Binds t := by
  simp only [Env.Binds, Env.find?_invalidateAp, Option.map_eq_some_iff]
  constructor
  · rintro ⟨v, _, ⟨ref, hv, rfl⟩, ht⟩
    exact ⟨v, ref, hv, ht⟩
  · rintro ⟨v, ref, hv, ht⟩
    exact ⟨v, _, ⟨ref, hv, rfl⟩, ht⟩

theorem Env.Binds.of_same {env' : Env} (hsame : env'.same env = true) (h : env.Binds t) :
    env'.Binds t := by
  obtain ⟨v, ref, hv, ht⟩ := h
  have hrel := Env.find?_of_same hsame v
  rw [hv] at hrel
  cases hfind : env'.find? v <;> rw [hfind] at hrel <;> cases hrel
  rename_i ref' href
  rw [Ref.same, Bool.and_eq_true] at href
  exact ⟨v, ref', hfind, ((Ident.same_iff _ _).mp href.1).trans ht⟩

theorem Env.binds_of_takeArgs (h : takeArgs env vars types = .ok (refs, rest))
    (ht : rest.Binds t ∨ t.id ∈ types.map (·.id)) : env.Binds t := by
  obtain ⟨htypes, hrefs, hrest⟩ := takeArgs_eq_ok h
  rw [← map_eq_map_of_forall₂ htypes, List.mem_map] at ht
  rcases ht with ⟨v, ref, hv, ht⟩ | ⟨ref, href, ht⟩
  · exact ⟨v, ref, hrest hv, ht⟩
  · obtain ⟨v, hv⟩ := hrefs ref href
    exact ⟨v, ref, hv, ht⟩

/-- A branch brings the variables that are left and those of its results. -/
theorem Brings.binds_iff {m : Metadata} {i b : Nat} {branch : Branch}
    (h : Brings m i b rest branch refs e) :
    e.Binds t ↔ rest.Binds t ∨ t.id ∈ refs.map (·.type.id) := by
  obtain ⟨next, after, arrival, hnext, -, -, rfl⟩ := h
  have hbinds : next.Binds t ↔ rest.Binds t ∨ t.id ∈ refs.map (·.type.id) := by
    obtain ⟨hkeeps, hrefs⟩ := find?_of_bindResults hnext
    rw [List.mem_map]
    constructor
    · rintro ⟨v, ref, hv, ht⟩
      refine (bindResults_eq_ok hnext hv).imp (fun hv => ⟨v, ref, hv, ht⟩) ?_
      exact fun hmem => ⟨ref, hmem, ht⟩
    · rintro (⟨v, ref, hv, ht⟩ | ⟨ref, hmem, ht⟩)
      · exact ⟨v, ref, hkeeps hv, ht⟩
      · obtain ⟨v, hv⟩ := hrefs ref hmem
        exact ⟨v, ref, hv, ht⟩
  split
  · exact hbinds
  · exact Env.binds_invalidateAp.trans hbinds

theorem find?_foldl_insert_of_mem {bindings : List (Param × Ref)} {p : Param × Ref}
    (hnodup : (bindings.map (·.1.var)).Nodup) (hp : p ∈ bindings) :
    (bindings.foldl (fun e p => e.insert p.1.var p.2) env).find? p.1.var = some p.2 := by
  induction bindings using List.reverseRecOn generalizing env with
  | nil => cases hp
  | append_singleton bindings q ih =>
    rw [List.map_append, List.nodup_append] at hnodup
    obtain ⟨hnodup, -, hdistinct⟩ := hnodup
    rw [List.foldl_append, List.foldl_cons, List.foldl_nil]
    rcases List.mem_append.mp hp with hp | hp
    · have hne := hdistinct _ (List.mem_map_of_mem hp) _ (List.mem_map_of_mem List.mem_cons_self)
      rw [Env.find?_insert_of_ne _ hne, ih hnodup hp]
    · obtain rfl := List.mem_singleton.mp hp
      exact Env.find?_insert_self _ _ _

/-- At the entry of a function a variable of each parameter's type is bound, and no other. -/
theorem entryEnv_binds_iff {r : Registry} (hvalid : r.Valid) {f : Function}
    (hf : f ∈ r.program.functions) (h : entryEnv r f = .ok env) :
    env.Binds t ↔ t.id ∈ f.paramTypes.map (·.id) := by
  obtain ⟨sized, sized', -, hsized, rfl⟩ := entryEnv_eq_ok h
  obtain ⟨hparams, hnodup⟩ := hvalid.params hf
  have htyped := typed_of_fills hsized (place_fills .fp (-totalCells sized - ApState.callFrame) _)
  generalize place .fp (-totalCells sized - ApState.callFrame) sized' = refs at htyped ⊢
  have hlength : refs.length = f.params.length := by
    rw [htyped.length_eq, List.length_map]
  rw [map_eq_map_of_forall₂ hparams, ← map_eq_map_of_forall₂ htyped, List.mem_map]
  constructor
  · rintro ⟨v, ref, hv, ht⟩
    rcases find?_foldl_insert hv with hv | ⟨⟨param, ref'⟩, hmem, rfl⟩
    · cases hv
    · exact ⟨_, (List.of_mem_zip hmem).2, ht⟩
  · rintro ⟨ref, hmem, ht⟩
    obtain ⟨k, hk, rfl⟩ := List.getElem_of_mem hmem
    have hzip : (f.params[k], refs[k]) ∈ f.params.zip refs :=
      List.mem_of_getElem? (List.getElem?_zip_eq_some.mpr
        ⟨List.getElem?_eq_getElem _, List.getElem?_eq_getElem hk⟩)
    have hvars : ((f.params.zip refs).map (·.1.var)).Nodup := by
      have hfst : (f.params.zip refs).map Prod.fst = f.params :=
        List.map_fst_zip (Nat.le_of_eq hlength.symm)
      rwa [← hfst, List.map_map] at hnodup
    exact ⟨_, _, find?_foldl_insert_of_mem hvars hzip, ht⟩

end environments

/-! ### Programs -/

section programs

variable {r : Registry} {m : Metadata} {t : Ident}

theorem Invoked.types_eq {envs : EnvTable} {i b : Nat} {inv : Invocation} {site : Ap.Site}
    {env rest : Env} {lib : ConcreteLibfunc} {args refs : List Ref} {lowered : Lowered}
    {sig : BranchSignature} (hvalid : r.Valid)
    (h : Invoked ⟨r, m⟩ envs i inv site env lib args rest lowered)
    (hrefs : lowered.outputs[b]? = some refs) (hsig : lib.signature.branches[b]? = some sig) :
    refs.map (·.type.id) = sig.outputs.map (·.id) := by
  obtain ⟨hlt, rfl⟩ := List.getElem?_eq_some_iff.mp hrefs
  obtain ⟨hlt', rfl⟩ := List.getElem?_eq_some_iff.mp hsig
  exact map_eq_map_of_forall₂ ((h.typed hvalid).get hlt hlt')

/-- The type of a variable is storable, or values of it are exchanged with a function. -/
theorem EnvTable.Grounded.kept_or_exchanged (hvalid : r.Valid) (htypes : r.TypesValid)
    {envs : EnvTable} (h : envs.Grounded ⟨r, m⟩)
    (hlength : envs.length = r.program.statements.length) (ht : envs.Binds t) :
    r.Keeps t ∨ r.Exchanges t := by
  obtain ⟨j, e, hj, ht⟩ := ht
  have hlt : j < r.program.statements.length := hlength ▸ EnvTable.lt_of_at? hj
  revert hlt t
  refine h.induct (P := fun j e => ∀ {t}, e.Binds t → j < r.program.statements.length →
    r.Keeps t ∨ r.Exchanges t) ?_ ?_ hj
  · intro f e hf hentry t ht hlt
    exact .inr (.inl ⟨f, hf, hlt, (entryEnv_binds_iff hvalid hf hentry).mp ht⟩)
  · intro i b inv site env rest e lib args refs lowered branch hinvoked ih hb hrefs _ hbrings _
      t ht _
    have hi := (List.getElem?_eq_some_iff.mp hinvoked.statement_eq).1
    have htake := Env.binds_of_takeArgs hinvoked.args_eq (t := t)
    obtain ⟨sig, hsig⟩ := (hinvoked.valid hvalid).exists_signature hb
    have hlib := hvalid.libfunc hinvoked.lib_eq
    rw [hbrings.binds_iff, hinvoked.types_eq hvalid hrefs hsig] at ht
    rcases ht with ht | ht
    · exact ih (htake (.inl ht)) hi
    · by_cases hcall : ∃ f, lib.operation = .functionCall f
      · obtain ⟨f, hcall⟩ := hcall
        obtain rfl : sig = ⟨f.retTypes, .call f.id⟩ := by
          rw [(hlib.of_functionCall hcall).1] at hsig
          cases b <;> cases hsig
          rfl
        exact .inr (.inr ⟨i, f, (hinvoked.edge hb hsig).calls hcall, ht⟩)
      · obtain ⟨t', ht', hid⟩ := List.mem_map.mp ht
        rcases hlib.output_kept htypes (not_exists.mp hcall) sig (List.mem_of_getElem? hsig) t' ht'
          with hparam | hkeeps
        · exact ih (htake (.inr (List.mem_map.mpr ⟨t', hparam, hid⟩))) hi
        · exact .inl (hkeeps.congr hid)

/-- Variables of all types that are exchanged with a function are bound. -/
theorem LoweredProgram.Valid.binds (hvalid : r.Valid) {l : LoweredProgram} (hl : l.Valid ⟨r, m⟩)
    (h : r.Exchanges t) : l.envs.Binds t := by
  rcases h with ⟨f, hf, hlt, ht⟩ | ⟨i, f, ⟨inv, lib, hstatement, hlib, hop⟩, ht⟩
  · obtain ⟨env, hentry, henv⟩ := hl.entry hf hlt
    exact ⟨_, env, henv, (entryEnv_binds_iff hvalid hf hentry).mpr ht⟩
  · obtain ⟨lib', hlib', hinv⟩ := hvalid.invocation hstatement
    obtain rfl := Option.some.inj (hlib.symm.trans hlib')
    have hsig : lib.signature.branches[0]? = some ⟨f.retTypes, .call f.id⟩ := by
      rw [((hvalid.libfunc hlib).of_functionCall hop).1]
      rfl
    have hb : 0 < inv.branches.length := by
      rw [hinv.branches]
      exact (List.getElem?_eq_some_iff.mp hsig).1
    obtain ⟨_, _, _, _, _, _, _, refs, e, existing, hinvoked, -, hrefs, -, hbrings, hat, hsame⟩ :=
      hl.passed ⟨inv, _, hstatement, hlib, List.getElem?_eq_getElem hb, hsig, rfl⟩
    have hresult : t.id ∈ refs.map (·.type.id) := by
      rw [hinvoked.types_eq hvalid hrefs hsig]
      exact ht
    exact ⟨_, existing, hat, .of_same hsame (hbrings.binds_iff.mpr (.inr hresult))⟩

end programs

end Lowering

open Lowering in
/-- In a compiled program the types that hold constants are the types of constants, and there is a
variable of such a type if values of it are exchanged with a function, and only then. -/
theorem binds_const_iff {p : Program} {r : Registry} {m : Metadata} {config : CompileConfig}
    {out : Casm.Program} (hbuild : Registry.build p = .ok r) (hanalyze : analyze r = .ok m)
    (hcompile : compile r m config = .ok out) :
    ∃ l, lowerProgram ⟨r, m⟩ = .ok l ∧ out = assemble l.blocks ∧ ∀ t, HoldsConst p.types t →
      (∃ args, DeclaredAs p.types t ⟨"Const", args⟩) ∧ (l.envs.Binds t ↔ r.Exchanges t) := by
  obtain ⟨l, hlower, hout⟩ := compile_eq_ok hcompile
  have hvalid := (Registry.build_valid hbuild).2
  have hm := analyze_consistent hanalyze
  obtain ⟨hgrounded, hlength⟩ := (Pass.of_lowerProgram hlower).grounded hm
  refine ⟨l, hlower, hout, fun t ht => ?_⟩
  obtain ⟨args, hconst⟩ := (Registry.holdsConst_iff hbuild).mp ht
  refine ⟨⟨args, hconst⟩, fun hbinds => ?_, (lowerProgram_valid hm hlower).binds hvalid⟩
  refine (hgrounded.kept_or_exchanged hvalid (Registry.build_typesValid hbuild) hlength
    hbinds).resolve_left ?_
  exact Registry.not_keeps_of_const hbuild hconst rfl

/-- Function `0` hands a constant on, function `1` returns the value of another constant, and
function `2` calls itself for a third one. -/
def constants : Program where
  types :=
    [.numbered 0 "felt252", .numbered 1 "Const" [.type { id := 0 }, .value 7],
     .numbered 2 "Const" [.type { id := 0 }, .value 8],
     .numbered 3 "Const" [.type { id := 0 }, .value 9]]
  libfuncs :=
    [.numbered 0 "const_as_immediate" [.type { id := 2 }],
     .numbered 1 "store_temp" [.type { id := 0 }],
     .numbered 2 "function_call" [.userFunc { id := 2 }]]
  statements :=
    [.ret [⟨0⟩],
     .numbered 0 [] [(.fallthrough, [0])],
     .numbered 1 [0] [(.fallthrough, [0])],
     .ret [⟨0⟩],
     .numbered 2 [] [(.fallthrough, [0])],
     .ret [⟨0⟩]]
  functions := [.numbered 0 [1] [1] 0, .numbered 1 [] [0] 1, .numbered 2 [] [3] 4]

/-- The types of `constants` with the numbers `1` to `3` are constants. -/
theorem holdsConst_constants :
    HoldsConst constants.types { id := 1 } ∧ HoldsConst constants.types { id := 2 } ∧
      HoldsConst constants.types { id := 3 } :=
  ⟨.const (Registry.declaredAs_of_numbered (.tail _ (.head _))) rfl,
    .const (Registry.declaredAs_of_numbered (.tail _ (.tail _ (.head _)))) rfl,
    .const (Registry.declaredAs_of_numbered (.tail _ (.tail _ (.tail _ (.head _))))) rfl⟩

open Lowering in
/-- In `constants` there are variables of the types `1` and `3`, but none of the type `2`. -/
theorem binds_const_constants :
    ∃ r m out l, Registry.build constants = .ok r ∧ analyze r = .ok m ∧
      compile r m {} = .ok out ∧ lowerProgram ⟨r, m⟩ = .ok l ∧ l.envs.Binds { id := 1 } ∧
      ¬ l.envs.Binds { id := 2 } ∧ r.Exchanges { id := 3 } := by
  obtain ⟨r, hbuild, hr⟩ : ∃ r, Registry.build constants = .ok r ∧
      ((analyze r).toOption.any fun m => (compile r m {}).toOption.any fun _ =>
        (lowerProgram ⟨r, m⟩).toOption.any fun l => (l.envs.at? 5).any fun env =>
          (env.find? ⟨0⟩).any fun ref => decide (ref.type.id = 3)) = true :=
    exists_of_toOption_any (by decide +kernel)
  obtain ⟨m, hanalyze, hm⟩ := exists_of_toOption_any hr
  obtain ⟨out, hcompile, hout⟩ := exists_of_toOption_any hm
  obtain ⟨l, hlower, hl⟩ := exists_of_toOption_any hout
  obtain ⟨env, henv, hl⟩ := (Option.any_eq_true _ _).mp hl
  obtain ⟨ref, href, hid⟩ := (Option.any_eq_true _ _).mp hl
  obtain ⟨hprogram, hvalid⟩ := Registry.build_valid hbuild
  obtain ⟨l', hlower', -, hbinds⟩ := binds_const_iff hbuild hanalyze hcompile
  obtain rfl := Except.ok.inj (hlower.symm.trans hlower')
  obtain ⟨hfirst, hsecond, hthird⟩ := holdsConst_constants
  have hgiven : r.Exchanges { id := 1 } := by
    refine .inl ⟨.numbered 0 [1] [1] 0, ?_, ?_⟩ <;> rw [hprogram] <;> decide
  have hkept : ¬ r.Exchanges { id := 2 } := by
    have hsignatures : ∀ f ∈ r.program.functions,
        2 ∉ f.paramTypes.map (·.id) ∧ 2 ∉ f.retTypes.map (·.id) := by
      rw [hprogram]
      decide
    rintro (⟨f, hf, -, ht⟩ | ⟨i, f, ⟨inv, lib, -, hlib, hcall⟩, ht⟩)
    · exact (hsignatures f hf).1 ht
    · exact (hsignatures f (hvalid.callee_mem hlib hcall)).2 ht
  exact ⟨r, m, out, l, hbuild, hanalyze, hcompile, hlower, (hbinds _ hfirst).2.mpr hgiven,
    mt (hbinds _ hsecond).2.mp hkept,
    (hbinds _ hthird).2.mp ⟨5, env, henv, ⟨0⟩, ref, href, of_decide_eq_true hid⟩⟩

open Lowering in
/-- The parameter of the first function of `constants` is a variable for a constant. -/
theorem holdsConst_variable_constants :
    ∃ r m out l env ref, Registry.build constants = .ok r ∧ analyze r = .ok m ∧
      compile r m {} = .ok out ∧ lowerProgram ⟨r, m⟩ = .ok l ∧ l.envs.at? 0 = some env ∧
      env.find? ⟨0⟩ = some ref ∧ HoldsConst constants.types ref.type := by
  obtain ⟨r, hbuild, hr⟩ : ∃ r, Registry.build constants = .ok r ∧
      ((analyze r).toOption.any fun m => (compile r m {}).toOption.any fun _ =>
        (lowerProgram ⟨r, m⟩).toOption.any fun l => (l.envs.at? 0).any fun env =>
          (env.find? ⟨0⟩).any fun ref => decide (ref.type = { id := 1 })) = true :=
    exists_of_toOption_any (by decide +kernel)
  obtain ⟨m, hanalyze, hm⟩ := exists_of_toOption_any hr
  obtain ⟨out, hcompile, hout⟩ := exists_of_toOption_any hm
  obtain ⟨l, hlower, hl⟩ := exists_of_toOption_any hout
  obtain ⟨env, henv, hl⟩ := (Option.any_eq_true _ _).mp hl
  obtain ⟨ref, href, htype⟩ := (Option.any_eq_true _ _).mp hl
  refine ⟨r, m, out, l, env, ref, hbuild, hanalyze, hcompile, hlower, henv, href, ?_⟩
  rw [of_decide_eq_true htype]
  exact holdsConst_constants.1

end SierraCasm
