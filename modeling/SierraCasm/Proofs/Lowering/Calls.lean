import SierraCasm.Proofs.Lowering.Arrival

/-! # The calling convention

The arguments of a call end right below the frame that the call pushes, where the environment of
the callee's entry looks for its parameters (`Compiled.enters`).  The values of a return end at the
top of the stack (`Compiled.returns`), where the caller looks for its results (`Compiled.results`),
and `ap` is then as far above the frame as the recorded change of the callee says
(`Compiled.change_of_return`). -/

namespace SierraCasm

open Sierra Concrete Casm

/-! ### Functions -/

/-- The function that a number stands for is the one that the analysis resolves it to. -/
theorem Sierra.Program.functionIndex?_eq {p : Program} {id : Ident} {f : Function}
    (h : p.function? id = some f) :
    ∃ g, p.functionIndex? f.id = some g ∧ p.functions[g]? = some f := by
  obtain ⟨hid, g, hg, hget, hfirst⟩ := List.find?_eq_some_iff_getElem.mp h
  have hsame : (fun f' : Function => f'.id.same f.id) = fun f' => f'.id.same id := by
    funext f'
    simp only [Ident.same]
    rw [(Ident.same_iff _ _).mp hid]
  refine ⟨g, ?_, by rw [List.getElem?_eq_getElem hg, hget]⟩
  rw [functionIndex?, hsame, List.findIdx?_eq_some_iff_getElem]
  refine ⟨hg, by rw [hget]; exact hid, fun j hj => ?_⟩
  rw [Bool.not_eq_true]
  simpa only [Bool.not_eq_true'] using hfirst j hj

theorem Registry.Valid.params {r : Registry} (h : r.Valid) {f : Function}
    (hf : f ∈ r.program.functions) :
    List.Forall₂ (fun a b : Ident => a.id = b.id) f.paramTypes (f.params.map (·.type)) ∧
      (f.params.map (·.var)).Nodup := by
  obtain ⟨⟨⟩, -, h⟩ := bind_eq_ok.mp (h.function hf)
  obtain ⟨⟨⟩, -, h⟩ := bind_eq_ok.mp h
  obtain ⟨⟨⟩, hlength, h⟩ := bind_eq_ok.mp h
  obtain ⟨⟨⟩, hparams, -⟩ := bind_eq_ok.mp h
  rw [require_eq_ok, beq_iff_eq] at hlength
  obtain ⟨htypes, hnodup⟩ := checkParams_eq_ok_iff.mp hparams
  refine ⟨?_, map_var_zip hlength ▸ hnodup⟩
  refine List.forall₂_of_length_eq_of_get (by simp [hlength]) fun k hk hk' => ?_
  rw [List.length_map] at hk'
  have hmem : (f.params[k], f.paramTypes[k]) ∈ f.params.zip f.paramTypes := by
    refine List.mem_of_getElem? (i := k) ?_
    rw [List.getElem?_zip_eq_some]
    exact ⟨List.getElem?_eq_getElem hk', List.getElem?_eq_getElem hk⟩
  simpa using (htypes _ hmem).1.symm

namespace Lowering

/-! ### Entries -/

variable {r : Registry} {m : Metadata} {l : LoweredProgram}

theorem Env.Denotes.insertAll {V : View} {params : List Param} {refs : List Ref}
    {values : List Value} {env : Env} {store : Store} (hdenotes : env.Denotes r V store)
    (hlength : params.length = refs.length) (hrefs : List.Forall₂ (Ref.Denotes r V) refs values)
    (hfresh : ∀ p ∈ params, store p.var = none) (hnodup : (params.map (·.var)).Nodup) :
    ∃ store', store.bind (params.map (·.var)) values = some store' ∧
      ((params.zip refs).foldl (fun e p => e.insert p.1.var p.2) env).Denotes r V store' := by
  induction params generalizing refs values env store with
  | nil =>
    cases hrefs with
    | nil => exact ⟨store, rfl, hdenotes⟩
    | cons _ _ => cases hlength
  | cons p params ih =>
    cases hrefs with
    | nil => cases hlength
    | @cons ref v refs values hfirst hrest =>
      rw [List.map_cons, List.nodup_cons] at hnodup
      have hfresh' : ∀ q ∈ params, store.set p.var v q.var = none := by
        intro q hq
        have hne : q.var ≠ p.var := fun heq => hnodup.1 (List.mem_map.mpr ⟨q, hq, heq⟩)
        rw [Store.set, if_neg hne, hfresh q (List.mem_cons_of_mem p hq)]
      obtain ⟨store', hbind, hnext⟩ := ih (hdenotes.insert p.var hfirst)
        (Nat.succ_inj.mp hlength) hrest hfresh' hnodup.2
      refine ⟨store', ?_, hnext⟩
      rw [List.map_cons, Store.bind, hfresh p List.mem_cons_self, if_neg (by simp), hbind]

theorem length_place (cell : Int64 → Cell) (position : Int64) (sized : List (Ident × Nat)) :
    (place cell position sized).length = sized.length := by
  induction sized generalizing position with
  | nil => rfl
  | cons x sized ih => rw [place, List.length_cons, List.length_cons, ih]

theorem sum_withSizes {types : List Ident} {sized : List (Ident × Nat)}
    (h : List.Forall₂ (fun (type : Ident) (x : Ident × Nat) => x.1 = type ∧ r.cells type = x.2)
      types sized) : (types.map r.cells).sum = (sized.foldr (·.2 + ·) 0 : Nat) := by
  induction h with
  | nil => rfl
  | cons hx _ ih =>
    rw [List.map_cons, List.sum_cons, List.foldr_cons, Nat.cast_add, ih, hx.2]

theorem totalCells_eq (htypes : r.TypesValid) (hsizes : r.SizesExact) {types : List Ident}
    {sized : List (Ident × Nat)} (hsized : withSizes r types = .ok sized) {mem : Memory}
    {values : List Value} {ws : List (Option Felt)} (h : EncodesAll r mem types values ws) :
    totalCells sized = .ofNat ws.length := by
  have hlength := (h.size htypes hsizes).symm.trans (sum_withSizes (withSizes_eq_ok hsized))
  rw [totalCells, ← Int.ofNat_inj.mp hlength]

/-- The distance from `fp` of a parameter, if the parameters and the frame fit. -/
theorem toInt_paramDistance {k n : Nat} (hk : k < n) (hn : n + 2 ≤ 2 ^ 63) :
    (-Int64.ofNat n - ApState.callFrame + Int64.ofNat k).toInt = (k : Int) - n - 2 := by
  have heq : -Int64.ofNat n - ApState.callFrame + Int64.ofNat k = .ofInt ((k : Int) - n - 2) := by
    have htwo : Int64.ofInt 2 = ApState.callFrame := rfl
    rw [Int64.ofInt_sub, Int64.ofInt_sub, Int64.ofInt_eq_ofNat, Int64.ofInt_eq_ofNat, htwo]
    generalize ApState.callFrame = c
    grind
  rw [heq, Int64.toInt_ofInt_of_le (by omega) (by omega)]

/-- At the entry of a function its parameters are the words that end below the frame. -/
theorem entryEnv_denotes (hvalid : r.Valid) (htypes : r.TypesValid) (hsizes : r.SizesExact)
    {f : Function} (hf : f ∈ r.program.functions)
    (hfit : (f.paramTypes.map r.cells).sum + 2 ≤ 2 ^ 63) {env : Env}
    (hentry : entryEnv r f = .ok env) {V : View} {values : List Value}
    {ws : List (Option Felt)} (hencodes : EncodesAll r V.mem f.paramTypes values ws)
    (hstored : Stored V.mem (V.fp - 2 - (ws.length : Nat)) ws) :
    ∃ store, Store.empty.bind (f.params.map (·.var)) values = some store ∧
      env.Denotes r V store := by
  obtain ⟨sized, sized', hsized, hsized', rfl⟩ := entryEnv_eq_ok hentry
  obtain ⟨hparams, hnodup⟩ := hvalid.params hf
  have htotal := totalCells_eq htypes hsizes hsized hencodes
  rw [hencodes.size htypes hsizes] at hfit
  have hrefs : List.Forall₂ (Ref.Denotes r V)
      (place .fp (-totalCells sized - ApState.callFrame) sized') values := by
    refine place_denotes htypes hsizes (withSizes_eq_ok hsized') (hencodes.congr hparams)
      fun {k x} hk ref href => ?_
    cases href
    have hlt := (List.getElem?_eq_some_iff.mp hk).1
    rw [htotal, ← hstored hk]
    simp only [CellRef.address, toInt_paramDistance hlt (by omega)]
    congr 1
    simp only [Felt.ofInt_eq_cast]
    push_cast
    ring
  have hlength' : f.params.length =
      (place .fp (-totalCells sized - ApState.callFrame) sized').length := by
    rw [length_place, ← (withSizes_eq_ok hsized').length_eq, List.length_map]
  exact Env.Denotes.insertAll (fun _ => .none) hlength' hrefs (fun _ _ => rfl) hnodup

theorem Compiled.enters (h : Compiled r m l) {g : Nat} {f : Function}
    (hf : r.program.functions[g]? = some f) (hbody : f.entry.toNat < r.program.statements.length)
    {fp : Felt} {mem : Memory} {values : List Value} {ws : List (Option Felt)}
    (hencodes : EncodesAll r mem f.paramTypes values ws)
    (hstored : Stored mem (fp - 2 - (ws.length : Nat)) ws) :
    ∃ store, Store.empty.bind (f.params.map (·.var)) values = some store ∧
      Arrives r m l g f.entry.toNat store fp fp mem := by
  have hmem := List.mem_of_getElem? hf
  obtain ⟨env, hentry, henv⟩ := h.lowered.entry hmem hbody
  obtain ⟨site, hsite, howner, hstate⟩ := h.consistent.entry hf hbody
  obtain ⟨store, hbind, hdenotes⟩ := entryEnv_denotes (V := ⟨site.state, fp, fp, mem⟩) h.valid
    h.types h.noWrap.sizes hmem (h.noWrap.params f hmem) hentry hencodes hstored
  refine ⟨store, hbind, site, env, 0, hsite, howner, henv, hdenotes, ?_⟩
  have hplaced : Placed .entry fp fp 0 := ⟨by simp, fun _ => rfl⟩
  rcases hstate with hstate | hstate <;> rw [hstate]
  · exact hplaced
  · exact hplaced.atJoin

/-! ### Returns -/

theorem lowerReturn_eq_ok {f : Function} {s : ApState} {e : Env} {vars : List VarId}
    {code : List Code} (h : lowerReturn f s e vars = .ok code) :
    ∃ refs rest, takeArgs e vars f.retTypes = .ok (refs, rest) ∧
      checkOnTop s .returnValues refs = .ok () ∧ code = [.plain { body := .ret }] := by
  obtain ⟨⟨⟩, -, h⟩ := bind_eq_ok.mp h
  obtain ⟨⟨refs, rest⟩, htake, h⟩ := bind_eq_ok.mp h
  obtain ⟨⟨⟩, -, h⟩ := bind_eq_ok.mp h
  obtain ⟨⟨⟩, htop, h⟩ := bind_eq_ok.mp h
  cases h
  exact ⟨refs, rest, htake, htop, rfl⟩

theorem Compiled.returns (h : Compiled r m l) {i : Nat} {vars : List VarId} {site : Ap.Site}
    {env : Env} {f : Function} {code : List Code}
    (hreturned : Returned ⟨r, m⟩ l.envs i vars site env f code) {ap fp : Felt} {mem : Memory}
    {store : Store} (hdenotes : env.Denotes r ⟨site.state, ap, fp, mem⟩ store) :
    code = [.plain { body := .ret }] ∧ ∃ values store' ws,
      store.take vars = some (values, store') ∧ EncodesAll r mem f.retTypes values ws ∧
      ws.length < 2 ^ 63 ∧ Stored mem (ap - (ws.length : Nat)) ws := by
  obtain ⟨refs, rest, htake, htop, rfl⟩ := lowerReturn_eq_ok hreturned.code_eq
  obtain ⟨values, store', htake', hrefs, -⟩ := hdenotes.takeArgs htake
  obtain ⟨ws, hencodes, hfits⟩ := encodesAll_of_denotes (takeArgs_eq_ok htake).1 hrefs
  have hlength : ws.length < 2 ^ 63 := by
    have hfit := h.noWrap.results f (List.mem_of_getElem? hreturned.function_eq)
    rw [hencodes.size h.types h.noWrap.sizes] at hfit
    omega
  exact ⟨rfl, values, store', ws, htake', hencodes, hlength,
    stored_of_checkOnTop htop hfits hlength⟩

theorem Compiled.results (h : Compiled r m l) {types : List Ident} {sized : List (Ident × Nat)}
    (hsized : withSizes r types = .ok sized) {after : ApState} {ap fp : Felt} {mem : Memory}
    {values : List Value} {ws : List (Option Felt)} (hencodes : EncodesAll r mem types values ws)
    (hlength : ws.length < 2 ^ 63) (hstored : Stored mem (ap - (ws.length : Nat)) ws) :
    List.Forall₂ (Ref.Denotes r ⟨after, ap, fp, mem⟩)
      (place (.ap after.epoch) (after.offset - totalCells sized) sized) values := by
  have htotal := totalCells_eq h.types h.noWrap.sizes hsized hencodes
  refine place_denotes h.types h.noWrap.sizes (withSizes_eq_ok hsized) hencodes
    fun {k x} hk ref href => ?_
  obtain ⟨-, rfl⟩ := Cell.at?_ap_eq_some.mp href
  have hlt := (List.getElem?_eq_some_iff.mp hk).1
  rw [htotal, address_of_distance (toInt_distance _ hlt hlength)]
  exact hstored hk

/-- A function with a known change returns with `ap` that far above its frame. -/
theorem Compiled.change_of_return (h : Compiled r m l) {i g a : Nat} {site : Ap.Site}
    (hsite : m.site? i = some site) (howner : site.owner = g) (hreturn : r.IsReturn i)
    {ap fp : Felt} (hplaced : Placed site.state ap fp a) (n : Int64)
    (hchange : m.changes[g]? = some (.known n)) : (a : Int) = n.toInt := by
  -- All returns are in the first epoch, where the position counts from `fp`.
  obtain ⟨hepoch, hoffset⟩ :=
    Ap.return_of_known h.consistent hchange hsite howner hreturn
  have ha := hplaced.2 hepoch
  have hnonneg : 0 ≤ site.state.offset := by
    rw [Int64.le_iff_toInt_le, ha]
    exact Int.natCast_nonneg a
  rw [← hoffset hnonneg, ha]

end Lowering

end SierraCasm
