import SierraCasm.Proofs.Lowering.Calls
import SierraCasm.Proofs.Registry.Measure

/-! # The shapes of references

An environment comes from a function entry or from a statement before it, so what holds at entries
and is passed on along branches holds of all environments (`EnvTable.Grounded.induct`).  This is
true in the middle of the pass as well (`Pass.grounded`).

The results of an invocation have the types of its branches (`Lowers.typed`).  Unless a size wraps,
each reference has as many cells as its type (`Ref.Shaped`): the results of an invocation if its
arguments do (`Lowers.shaped`), and so all references (`EnvTable.Grounded.shaped`). -/

namespace SierraCasm.Lowering

open Sierra Concrete

/-! ### Where environments come from -/

/-- Every environment of a table comes from a function entry or from a statement before it. -/
def EnvTable.Grounded (ctx : Context) (envs : EnvTable) : Prop :=
  ∀ ⦃j : Nat⦄ ⦃e : Env⦄, envs.at? j = some e →
    EntersAt ctx.registry ctx.registry.program.functions j e ∨ BroughtTo ctx envs j e

/-- What holds at function entries and is passed on along branches holds of all environments. -/
theorem EnvTable.Grounded.induct {ctx : Context} {envs : EnvTable} (h : envs.Grounded ctx)
    {P : Nat → Env → Prop}
    (hentry : ∀ {f : Function} {e : Env}, f ∈ ctx.registry.program.functions →
      entryEnv ctx.registry f = .ok e → P f.entry.toNat e)
    (hbrings : ∀ {i b : Nat} {inv : Invocation} {site : Ap.Site} {env rest e : Env}
      {lib : ConcreteLibfunc} {args refs : List Ref} {lowered : Lowered} {branch : Branch},
      Invoked ctx envs i inv site env lib args rest lowered → P i env →
      inv.branches[b]? = some branch → lowered.outputs[b]? = some refs →
      i < (branch.target.resolve i).toNat → Brings ctx.metadata i b rest branch refs e →
      envs.at? (branch.target.resolve i).toNat = some e → P (branch.target.resolve i).toNat e)
    {j : Nat} {e : Env} (hj : envs.at? j = some e) : P j e := by
  induction j using Nat.strongRecOn generalizing e with
  | ind j ih =>
    rcases h hj with ⟨f, hf, rfl, he⟩ | ⟨i, b, inv, site, env, lib, args, rest, lowered, branch,
      refs, hinvoked, hb, hrefs, hlt, rfl, hbrought⟩
    · exact hentry hf he
    · exact hbrings hinvoked (ih i hlt hinvoked.env_eq) hb hrefs hlt hbrought hj

/-- The tables of the pass through the statements: `Pass ctx i table` is the table before
statement `i` is lowered. -/
inductive Pass (ctx : Context) : Nat → EnvTable → Prop
  | start {table : EnvTable} :
      enterFunctions ctx.registry ctx.registry.program.functions
        (ctx.registry.program.statements.map fun _ => none) = .ok table → Pass ctx 0 table
  | next {i : Nat} {statement : Statement} {block : List Code} {table table' : EnvTable} :
      Pass ctx i table → ctx.registry.program.statements[i]? = some statement →
      lowerStatement ctx i statement table = .ok (block, table') → Pass ctx (i + 1) table'

theorem EntersAt.of_start {r : Registry} {m : Metadata} (hm : m.Consistent r) {table : EnvTable}
    (h : enterFunctions r r.program.functions (r.program.statements.map fun _ => none) =
      .ok table) :
    table.length = r.program.statements.length ∧
      ∀ {j e}, table.at? j = some e → EntersAt r r.program.functions j e := by
  obtain ⟨hlength, -, horigin, -⟩ := enterFunctions_eq_ok (entries_distinct hm) h
  refine ⟨hlength.trans (List.length_map _), fun hj => (horigin hj).resolve_left ?_⟩
  rename_i j e
  simp only [EnvTable.at?, List.getElem?_map]
  cases r.program.statements[j]? <;> simp

theorem Pass.grounded {r : Registry} {m : Metadata} (hm : m.Consistent r) {i : Nat}
    {table : EnvTable} (h : Pass ⟨r, m⟩ i table) :
    table.Grounded ⟨r, m⟩ ∧ table.length = r.program.statements.length := by
  induction h with
  | start h =>
    obtain ⟨hlength, hentries⟩ := EntersAt.of_start hm h
    exact ⟨fun j e hj => .inl (hentries hj), hlength⟩
  | next _ hstatement hlower ih =>
    obtain ⟨hgrounded, hlength⟩ := ih
    have hreached : ∀ {j s}, m.state? j = some s → j < r.program.statements.length := by
      intro j s hs
      obtain ⟨site, hsite, -⟩ := Option.map_eq_some_iff.mp hs
      exact lt_length_of_site hm hsite
    obtain ⟨hkeeps, hlength', -, horigin⟩ :=
      lowerStatement_eq_ok hstatement (fun hs => by rw [hlength]; exact hreached hs) hlower
    refine ⟨fun j e hj => ?_, hlength'.trans hlength⟩
    rcases horigin hj with hold | hbrought
    · exact (hgrounded hold).imp_right (·.mono hkeeps)
    · exact .inr hbrought

theorem Pass.of_lowerFrom {ctx : Context} {i : Nat} {statements : List Statement}
    {table : EnvTable} {l : LoweredProgram} (hpass : Pass ctx i table)
    (hstatements : ∀ k, statements[k]? = ctx.registry.program.statements[i + k]?)
    (h : lowerFrom ctx i statements table = .ok l) :
    Pass ctx (i + statements.length) l.envs := by
  induction statements generalizing i table l with
  | nil =>
    cases h
    exact hpass
  | cons statement rest ih =>
    obtain ⟨⟨block, table'⟩, hfirst, h⟩ := bind_eq_ok.mp h
    obtain ⟨lowered, hrest, h⟩ := bind_eq_ok.mp h
    cases h
    rw [List.length_cons, Nat.add_comm rest.length, ← Nat.add_assoc]
    refine ih (l := lowered) (hpass.next (hstatements 0).symm hfirst) (fun k => ?_) hrest
    rw [Nat.add_assoc, Nat.add_comm 1]
    exact hstatements (k + 1)

theorem Pass.of_lowerProgram {ctx : Context} {l : LoweredProgram} (h : lowerProgram ctx = .ok l) :
    Pass ctx ctx.registry.program.statements.length l.envs := by
  obtain ⟨table, htable, h⟩ := bind_eq_ok.mp h
  have hpass := (Pass.start htable).of_lowerFrom (fun k => by rw [Nat.zero_add]) h
  rwa [Nat.zero_add] at hpass

/-! ### The types of results -/

/-- A reference has the type and the number of cells that are asked for. -/
def Ref.Fills (ref : Ref) (x : Ident × Nat) : Prop := ref.type = x.1 ∧ ref.cells.length = x.2

theorem place_fills (cell : Int64 → Cell) (position : Int64) (sized : List (Ident × Nat)) :
    List.Forall₂ Ref.Fills (place cell position sized) sized := by
  induction sized generalizing position with
  | nil => exact .nil
  | cons x sized ih => exact .cons ⟨rfl, by simp⟩ (ih _)

theorem split_fills {cells : List Expr} {sized : List (Ident × Nat)} {refs : List Ref}
    (h : split cells sized = .ok refs) : List.Forall₂ Ref.Fills refs sized := by
  induction sized generalizing cells refs with
  | nil =>
    cases h
    exact .nil
  | cons x sized ih =>
    unfold split at h
    split at h
    · rename_i hle
      obtain ⟨refs', hsplit, h⟩ := bind_eq_ok.mp h
      cases h
      exact .cons ⟨rfl, List.length_take_of_le hle⟩ (ih hsplit)
    · cases h

theorem typed_of_fills {r : Registry} {types : List Ident} {sized : List (Ident × Nat)}
    {refs : List Ref} (hsized : withSizes r types = .ok sized)
    (hfills : List.Forall₂ Ref.Fills refs sized) :
    List.Forall₂ (fun (ref : Ref) (type : Ident) => ref.type.id = type.id) refs types := by
  have hcounts := cellCount_of_withSizes hsized
  clear hsized
  induction hcounts generalizing refs with
  | nil =>
    cases hfills
    exact .nil
  | cons hx _ ih =>
    cases hfills with
    | cons hfirst hrest => exact .cons (by rw [hfirst.1, hx.1]) (ih hrest)

theorem Lowers.typed {r : Registry} {m : Metadata} {i : Nat} {s : ApState} {lib : ConcreteLibfunc}
    {inv : Invocation} {args : List Ref} {lowered : Lowered}
    (hlib : Specialized r.libfuncContext lib)
    (h : Lowers ⟨r, m⟩ i s lib.signature inv lib.operation args lowered)
    (hparams : List.Forall₂ (fun (ref : Ref) (type : Ident) => ref.type.id = type.id) args
      lib.signature.params) :
    List.Forall₂ (fun (refs : List Ref) (sig : BranchSignature) =>
      List.Forall₂ (fun (ref : Ref) (type : Ident) => ref.type.id = type.id) refs sig.outputs)
      lowered.outputs lib.signature.branches := by
  cases hlib with
  | drop | jump | branchAlign | disableApTracking | enableApTracking =>
    cases h
    exact .cons .nil .nil
  | dup =>
    cases h
    exact .cons (.cons rfl (.cons rfl .nil)) .nil
  | felt252IsZero =>
    cases h
    exact .cons .nil (.cons (.cons rfl .nil) .nil)
  | withdrawGas =>
    cases h
    obtain ⟨hrangeCheck, hparams⟩ := List.forall₂_cons.mp hparams
    obtain ⟨hgas, -⟩ := List.forall₂_cons.mp hparams
    exact .cons (.cons hrangeCheck (.cons hgas .nil))
      (.cons (.cons hrangeCheck (.cons hgas .nil)) .nil)
  | functionCall =>
    cases h with
    | functionCall _ hsized _ => exact .cons (typed_of_fills hsized (place_fills _ _ _)) .nil
  | structDeconstruct =>
    cases h with
    | structDeconstruct hsized hsplit =>
      exact .cons (typed_of_fills hsized (split_fills hsplit)) .nil
  | felt252Const | felt252Binary | uintConst | uintToFelt252 | storeTemp | rename
  | structConstruct | unbox | unwrapNonZero | constAsImmediate | constAsBox =>
    cases h
    exact .cons (.cons rfl .nil) .nil

/-! ### Shapes -/

/-- The type of a reference is declared, and the reference has as many cells as its type. -/
def Ref.Shaped (r : Registry) (ref : Ref) : Prop :=
  ∃ n, r.size? ref.type = some n ∧ n.toInt = ref.cells.length

def Env.Shaped (r : Registry) (env : Env) : Prop :=
  ∀ ⦃v : VarId⦄ ⦃ref : Ref⦄, env.find? v = some ref → ref.Shaped r

section shaped

variable {r : Registry}

theorem Ref.shaped_iff {id : Ident} {cells : List Expr} {ty : ConcreteType}
    (hty : r.type? id = some ty) :
    Ref.Shaped r ⟨id, cells⟩ ↔ ty.info.size.toInt = cells.length := by
  simp [Ref.Shaped, Registry.size?, hty]

theorem Ref.Shaped.congr {ref : Ref} (h : ref.Shaped r) {type : Ident} {cells : List Expr}
    (htype : ref.type.id = type.id) (hlength : cells.length = ref.cells.length) :
    Ref.Shaped r ⟨type, cells⟩ := by
  obtain ⟨n, hn, hcells⟩ := h
  refine ⟨n, ?_, hcells.trans (by rw [hlength])⟩
  rw [← hn, Registry.size?, Registry.size?, r.type?_congr htype]

theorem Ref.Shaped.cells_eq {ref : Ref} (h : ref.Shaped r) : r.cells ref.type = ref.cells.length := by
  obtain ⟨n, hn, hcells⟩ := h
  rw [Registry.cells, hn]
  exact hcells

theorem shaped_of_cellCount {ref : Ref} (h : cellCount r ref.type = .ok ref.cells.length) :
    ref.Shaped r := by
  unfold cellCount at h
  split at h
  · rename_i n hn
    split at h
    · rename_i hnonneg
      refine ⟨n, hn, ?_⟩
      rw [← Except.ok.inj h, Int64.cast_toNatClampNeg n hnonneg]
    · cases h
  · cases h

theorem shaped_of_fills {types : List Ident} {sized : List (Ident × Nat)} {refs : List Ref}
    (hsized : withSizes r types = .ok sized) (hfills : List.Forall₂ Ref.Fills refs sized) :
    ∀ ref ∈ refs, ref.Shaped r := by
  have hcounts := cellCount_of_withSizes hsized
  clear hsized
  induction hcounts generalizing refs with
  | nil =>
    cases hfills
    simp
  | cons hx _ ih =>
    cases hfills with
    | cons hfirst hrest =>
      refine List.forall_mem_cons.mpr ⟨shaped_of_cellCount ?_, ih hrest⟩
      rw [hfirst.1, hfirst.2, hx.1]
      exact hx.2

theorem length_cellsOf {refs : List Ref} {types : List Ident}
    (htypes : List.Forall₂ (fun (ref : Ref) (type : Ident) => ref.type.id = type.id) refs types)
    (hrefs : ∀ ref ∈ refs, ref.Shaped r) :
    ((cellsOf refs).length : Int) = (types.map r.cells).sum := by
  induction htypes with
  | nil => rfl
  | cons htype _ ih =>
    obtain ⟨hfirst, hrest⟩ := List.forall_mem_cons.mp hrefs
    have hcells := (hfirst.congr htype rfl).cells_eq
    rw [cellsOf, List.flatMap_cons, List.length_append, Nat.cast_add, List.map_cons, List.sum_cons,
      hcells, ← ih hrest]
    rfl

end shaped

/-! ### Shapes of single cells -/

section cells

variable {r : Registry} (htypes : r.TypesValid)
include htypes

theorem shaped_word {id : Ident} (e : Expr)
    (hid : ∃ ty, r.type? id = some ty ∧ ty.shape.isWord = true) : Ref.Shaped r ⟨id, [e]⟩ := by
  obtain ⟨ty, hty, hshape⟩ := hid
  rw [Ref.shaped_iff hty, htypes.size_of_isWord hty hshape]
  rfl

theorem Ref.Shaped.word {ref : Ref} (h : ref.Shaped r) {id : Ident} (htype : ref.type.id = id.id)
    (hid : ∃ ty, r.type? id = some ty ∧ ty.shape.isWord = true) : ∃ e, ref.cells = [e] := by
  obtain ⟨ty, hty, hshape⟩ := hid
  have hlength := (Ref.shaped_iff hty).mp (h.congr htype rfl)
  rw [htypes.size_of_isWord hty hshape] at hlength
  exact List.length_eq_one_iff.mp (Int.ofNat_inj.mp hlength.symm)

theorem Registry.TypesValid.size_of_box {id inner : Ident} {ty : ConcreteType}
    (hty : r.type? id = some ty) (hshape : ty.shape = .box inner) : ty.info.size = 1 := by
  have hspecialized := htypes.type hty
  cases hspecialized <;> first | rfl | cases hshape

/-- A reference has as many cells under `NonZero` as without it. -/
theorem shaped_nonZero_iff {id nonZero : Ident} {cells : List Expr}
    (hlookup : r.lookupType? ⟨"NonZero", [.type id]⟩ = some nonZero) :
    Ref.Shaped r ⟨nonZero, cells⟩ ↔ Ref.Shaped r ⟨id, cells⟩ := by
  obtain ⟨ty, inner, hty, hshape, hinner⟩ := htypes.nonZero hlookup
  obtain ⟨ty', hty', -, hsize⟩ := htypes.nonZero_inner hty hshape
  rw [r.type?_congr hinner] at hty'
  rw [Ref.shaped_iff hty, Ref.shaped_iff hty', hsize]

end cells

/-- The results of an invocation are shaped if its arguments are. -/
theorem Lowers.shaped {r : Registry} {m : Metadata} {i : Nat} {s : ApState}
    {lib : ConcreteLibfunc} {inv : Invocation} {args : List Ref} {lowered : Lowered}
    (htypes : r.TypesValid) (hsizes : r.SizesExact) (hlib : Specialized r.libfuncContext lib)
    (h : Lowers ⟨r, m⟩ i s lib.signature inv lib.operation args lowered)
    (hparams : List.Forall₂ (fun (ref : Ref) (type : Ident) => ref.type.id = type.id) args
      lib.signature.params)
    (hargs : ∀ ref ∈ args, ref.Shaped r) :
    ∀ refs ∈ lowered.outputs, ∀ ref ∈ refs, ref.Shaped r := by
  have hone : ∀ {id : Ident} {cells : List Expr} {code : List Code} {sig : Signature},
      sig.outputs 0 = [id] → Ref.Shaped r ⟨id, cells⟩ →
      ∀ refs ∈ (Lowered.single sig [cells] code).outputs, ∀ ref ∈ refs, ref.Shaped r := by
    intro id cells code sig hsig hshaped
    rw [Lowered.single, hsig]
    simpa using hshaped
  cases hlib with
  | drop | jump | branchAlign | disableApTracking | enableApTracking =>
    cases h
    simp
  | felt252Const _ hfelt | felt252Binary _ hfelt =>
    cases h
    exact hone rfl (shaped_word htypes _ (htypes.felt252 hfelt))
  | uintConst hbits _ huint =>
    cases h
    exact hone rfl (shaped_word htypes _ (htypes.uint hbits huint))
  | constAsImmediate hty hshape =>
    cases h
    exact hone rfl (shaped_word htypes _ (htypes.const hty hshape))
  | uintToFelt252 hbits huint hfelt =>
    cases h with
    | uintToFelt252 a =>
      obtain ⟨e, he⟩ := (hargs a List.mem_cons_self).word htypes (List.forall₂_cons.mp hparams).1
        (htypes.uint hbits huint)
      rw [he]
      exact hone rfl (shaped_word htypes _ (htypes.felt252 hfelt))
  | storeTemp =>
    cases h with
    | @storeTemp a =>
      exact hone rfl ((hargs a List.mem_cons_self).congr (List.forall₂_cons.mp hparams).1
        (by simp [pushedAll]))
  | rename =>
    cases h with
    | rename a =>
      exact hone rfl ((hargs a List.mem_cons_self).congr (List.forall₂_cons.mp hparams).1 rfl)
  | dup =>
    cases h with
    | dup a =>
      have hshaped := (hargs a List.mem_cons_self).congr (List.forall₂_cons.mp hparams).1 rfl
      simpa [Lowered.single, Signature.outputs, Signature.single] using hshaped
  | felt252IsZero hfelt hnonZero =>
    cases h with
    | @felt252IsZero t e =>
      have hshaped := (shaped_nonZero_iff htypes hnonZero).mpr
        (shaped_word htypes e (htypes.felt252 hfelt))
      simpa [Signature.outputs] using hshaped
  | withdrawGas =>
    cases h with
    | @withdrawGas rangeCheck t e =>
      have hgas := hargs _ (List.mem_cons_of_mem rangeCheck List.mem_cons_self)
      have hshaped : Ref.Shaped r ⟨t, [pushed s]⟩ := hgas.congr rfl rfl
      simpa using ⟨hargs rangeCheck List.mem_cons_self, hshaped⟩
  | functionCall =>
    cases h with
    | functionCall _ hsized _ => simpa using shaped_of_fills hsized (place_fills _ _ _)
  | structConstruct hty hshape =>
    cases h
    refine hone rfl ((Ref.shaped_iff (r := r) hty).mpr ?_)
    rw [length_cellsOf hparams hargs]
    exact (r.cells_eq hty).symm.trans (hsizes.struct hty hshape)
  | structDeconstruct =>
    cases h with
    | structDeconstruct hsized hsplit => simpa using shaped_of_fills hsized (split_fills hsplit)
  | unbox =>
    cases h with
    | unbox hsize =>
      refine hone rfl (shaped_of_cellCount ?_)
      rw [List.length_map, List.length_range]
      exact hsize
  | unwrapNonZero _ hnonZero =>
    cases h with
    | unwrapNonZero a =>
      exact hone rfl ((shaped_nonZero_iff htypes hnonZero).mp
        ((hargs a List.mem_cons_self).congr (List.forall₂_cons.mp hparams).1 rfl))
  | constAsBox _ _ _ hbox =>
    cases h
    obtain ⟨ty, inner, hty, hshape, -⟩ := htypes.box hbox
    refine hone rfl ((Ref.shaped_iff hty).mpr ?_)
    rw [Registry.TypesValid.size_of_box htypes hty hshape]
    rfl

/-! ### Shapes of environments -/

theorem Env.Shaped.takeArgs {r : Registry} {env rest : Env} {vars : List VarId}
    {types : List Ident} {refs : List Ref} (hshaped : env.Shaped r)
    (h : Lowering.takeArgs env vars types = .ok (refs, rest)) :
    (∀ ref ∈ refs, ref.Shaped r) ∧ rest.Shaped r := by
  obtain ⟨-, hrefs, hrest⟩ := takeArgs_eq_ok h
  refine ⟨fun ref href => ?_, fun v ref hv => hshaped (hrest hv)⟩
  obtain ⟨v, hv⟩ := hrefs ref href
  exact hshaped hv

theorem Env.Shaped.invalidateAp {r : Registry} {env : Env} (h : env.Shaped r) :
    env.invalidateAp.Shaped r := by
  intro v ref hv
  rw [Env.find?_invalidateAp, Option.map_eq_some_iff] at hv
  obtain ⟨ref, hv, rfl⟩ := hv
  exact (h hv).congr rfl (List.length_map _)

theorem Brings.shaped {r : Registry} {m : Metadata} {i b : Nat} {rest e : Env} {branch : Branch}
    {refs : List Ref} (h : Brings m i b rest branch refs e) (hrest : rest.Shaped r)
    (hrefs : ∀ ref ∈ refs, ref.Shaped r) : e.Shaped r := by
  obtain ⟨next, after, arrival, hnext, -, -, rfl⟩ := h
  have hshaped : next.Shaped r := by
    intro v ref hv
    exact (bindResults_eq_ok hnext hv).elim (fun hv => hrest hv) (hrefs ref)
  split
  · exact hshaped
  · exact hshaped.invalidateAp

theorem entryEnv_shaped {r : Registry} {f : Function} {env : Env} (h : entryEnv r f = .ok env) :
    env.Shaped r := by
  obtain ⟨sized, sized', -, hsized, rfl⟩ := entryEnv_eq_ok h
  intro v ref hv
  rcases find?_foldl_insert hv with hv | ⟨⟨param, ref'⟩, hmem, rfl⟩
  · cases hv
  · exact shaped_of_fills hsized (place_fills _ _ _) _ (List.of_mem_zip hmem).2

section invoked

variable {r : Registry} {m : Metadata} {envs : EnvTable} {i : Nat} {inv : Invocation}
  {site : Ap.Site} {env rest : Env} {lib : ConcreteLibfunc} {args : List Ref} {lowered : Lowered}

theorem Invoked.typed (hvalid : r.Valid)
    (h : Invoked ⟨r, m⟩ envs i inv site env lib args rest lowered) :
    List.Forall₂ (fun (refs : List Ref) (sig : BranchSignature) =>
      List.Forall₂ (fun (ref : Ref) (type : Ident) => ref.type.id = type.id) refs sig.outputs)
      lowered.outputs lib.signature.branches :=
  (lowerInvocation_eq_ok h.lowered_eq).typed (hvalid.libfunc h.lib_eq) (takeArgs_eq_ok h.args_eq).1

theorem Invoked.shaped (hvalid : r.Valid) (htypes : r.TypesValid) (hsizes : r.SizesExact)
    (h : Invoked ⟨r, m⟩ envs i inv site env lib args rest lowered) (henv : env.Shaped r) :
    ∀ refs ∈ lowered.outputs, ∀ ref ∈ refs, ref.Shaped r :=
  (lowerInvocation_eq_ok h.lowered_eq).shaped htypes hsizes (hvalid.libfunc h.lib_eq)
    (takeArgs_eq_ok h.args_eq).1 (henv.takeArgs h.args_eq).1

end invoked

/-- Unless a size wraps, all references of all environments are shaped. -/
theorem EnvTable.Grounded.shaped {r : Registry} {m : Metadata} {envs : EnvTable}
    (hvalid : r.Valid) (htypes : r.TypesValid) (hsizes : r.SizesExact)
    (h : envs.Grounded ⟨r, m⟩) {j : Nat} {e : Env} (hj : envs.at? j = some e) : e.Shaped r := by
  refine h.induct (P := fun _ e => e.Shaped r) (fun _ hentry => entryEnv_shaped hentry) ?_ hj
  intro i b inv site env rest e lib args refs lowered branch hinvoked henv _ hrefs _ hbrings _
  exact hbrings.shaped (henv.takeArgs hinvoked.args_eq).2
    (hinvoked.shaped hvalid htypes hsizes henv refs (List.mem_of_getElem? hrefs))

end SierraCasm.Lowering
