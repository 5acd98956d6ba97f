import SierraCasm.Proofs.Lowering.Reopening
import SierraCasm.Proofs.Lowering.Shapes

/-! # Code stays in its frame

The code of a function reads its parameters, which end below the frame, and cells of the stack that
were written since the function was entered; in between lie the saved `fp` and the return address,
which it never reads (`inFrame_of_compile`).

Stack cells are positions within an epoch.  A position of the current epoch is below that of `ap`
because `ap` never moves back (`Compiled.counts`).  A position of the first epoch is not negative;
here the results of a call are placed relative to `ap` after it, so they must not be more than the
callee is known to move `ap`.  They are not, since the callee had them on its stack when it returned
(`Compiled.leaves_of_framed`).  This leads from a function to the functions that it calls, and ends
because functions are ranked by the order of their resolution (`Compiled.leaves`). -/

namespace SierraCasm.Casm

/-- A cell in the frame of a function whose parameters take `n` words: one below `ap`, or a
parameter, below the saved `fp` and the return address. -/
def CellRef.InFrame (n : Int) (c : CellRef) : Prop :=
  match c.register with
  | .ap => c.offset.toInt ≤ -1
  | .fp => -(2 + n) ≤ c.offset.toInt ∧ c.offset.toInt ≤ -3

def Operand.InFrame (n : Int) : Operand → Prop
  | .deref c => c.InFrame n
  | .immediate _ => True

def Res.InFrame (n : Int) : Res → Prop
  | .deref c | .doubleDeref c _ => c.InFrame n
  | .immediate _ => True
  | .binary _ left right => left.InFrame n ∧ right.InFrame n

/-- An instruction stays in its frame: an equation writes the cell at `ap`, which is one side of it
or the first term of a sum, and moves `ap` past it; all other cells are in the frame. -/
inductive Instruction.InFrame (n : Int) : Instruction → Prop
  | value {res : Res} : res.InFrame n →
      InFrame n { body := .assertEq ⟨.ap, 0⟩ res, incAp := true }
  | difference {left : CellRef} {right : Operand} : left.InFrame n → right.InFrame n →
      InFrame n { body := .assertEq left (.binary .add ⟨.ap, 0⟩ right), incAp := true }
  | jump (distance : Int) : InFrame n { body := .jump (.immediate distance) }
  | jumpNonZero (distance : Int) {condition : CellRef} : condition.InFrame n →
      InFrame n { body := .jumpNonZero (.immediate distance) condition }
  | call (distance : Int) : InFrame n { body := .call (.immediate distance) }
  | ret : InFrame n { body := .ret }

theorem Instruction.inFrame_immediate (n v : Int) :
    Instruction.InFrame n { body := .assertEq ⟨.ap, 0⟩ (.immediate v), incAp := true } :=
  .value trivial

end SierraCasm.Casm

namespace SierraCasm.Lowering

open Sierra Concrete Casm

variable {r : Registry} {m : Metadata} {l : LoweredProgram}

/-! ### Sizes -/

theorem sum_cells_congr {ids ids' : List Ident}
    (h : List.Forall₂ (fun a b : Ident => a.id = b.id) ids ids') :
    (ids.map r.cells).sum = (ids'.map r.cells).sum := by
  induction h with
  | nil => rfl
  | cons hid _ ih =>
    rw [List.map_cons, List.map_cons, List.sum_cons, List.sum_cons, ih, Registry.cells,
      Registry.size?, r.type?_congr hid]
    rfl

section sizes

variable (hlayers : r.Layered) (htypes : r.TypesValid) (hsizes : r.SizesExact)
include hlayers htypes hsizes

theorem cells_nonneg (id : Ident) : 0 ≤ r.cells id := by
  cases hty : r.type? id with
  | none => rw [Registry.cells, Registry.size?, hty, Option.map_none, Option.map_none,
      Option.getD_none]
  | some ty =>
    rw [hlayers.cells_eq_exactCells htypes hsizes hty]
    exact Int.natCast_nonneg _

theorem sum_cells_nonneg (types : List Ident) : 0 ≤ (types.map r.cells).sum := by
  refine List.sum_nonneg fun n hn => ?_
  obtain ⟨id, -, rfl⟩ := List.mem_map.mp hn
  exact cells_nonneg hlayers htypes hsizes id

/-- A libfunc other than a call moves `ap` by a fixed number of cells, and not back. -/
theorem exists_moves {lib : ConcreteLibfunc} (hlib : Specialized r.libfuncContext lib)
    (hcall : ∀ callee, lib.operation ≠ .functionCall callee) {b : Nat} {sig : BranchSignature}
    (hsig : lib.signature.branches[b]? = some sig) : ∃ d, Ap.Moves sig.ap d ∧ 0 ≤ d := by
  have hmem := List.mem_of_getElem? hsig
  cases hlib with
  | functionCall => exact absurd rfl (hcall _)
  | storeTemp hty =>
    cases List.mem_singleton.mp hmem
    refine ⟨_, .known _, ?_⟩
    rw [← r.cells_eq hty]
    exact cells_nonneg hlayers htypes hsizes _
  | felt252IsZero | withdrawGas =>
    simp only [List.mem_cons, List.not_mem_nil, or_false] at hmem
    rcases hmem with rfl | rfl <;> exact ⟨_, .known _, by decide⟩
  | disableApTracking =>
    cases List.mem_singleton.mp hmem
    exact ⟨0, .disable, Int.le_refl 0⟩
  | enableApTracking =>
    cases List.mem_singleton.mp hmem
    exact ⟨0, .enable, Int.le_refl 0⟩
  | _ =>
    cases List.mem_singleton.mp hmem
    exact ⟨_, .known _, by decide⟩

end sizes

theorem known_of_push {lib : ConcreteLibfunc} (hlib : Specialized r.libfuncContext lib)
    {args : List Ref}
    (hparams : List.Forall₂ (fun (ref : Ref) (type : Ident) => ref.type.id = type.id) args
      lib.signature.params)
    (hargs : ∀ ref ∈ args, ref.Shaped r) {b : Nat} {sig : BranchSignature}
    (hsig : lib.signature.branches[b]? = some sig) (hpush : 0 < pushCount lib.operation args) :
    ∃ cells, sig.ap = .known cells ∧ cells.toInt = pushCount lib.operation args := by
  have hmem := List.mem_of_getElem? hsig
  cases hlib with
  | storeTemp hty =>
    obtain ⟨a, rest, htype, hrest, rfl⟩ := List.forall₂_cons_right_iff.mp hparams
    cases hrest
    cases List.mem_singleton.mp hmem
    exact ⟨_, rfl, (Ref.shaped_iff (r := r) hty).mp ((hargs a List.mem_cons_self).congr htype rfl)⟩
  | constAsBox =>
    cases List.mem_singleton.mp hmem
    exact ⟨1, rfl, rfl⟩
  | withdrawGas =>
    simp only [List.mem_cons, List.not_mem_nil, or_false, or_self] at hmem
    subst hmem
    exact ⟨1, rfl, rfl⟩
  | _ => exact absurd hpush (Nat.lt_irrefl 0)

/-! ### Calls -/

/-- A function with a known change leaves its results above its frame. -/
def Leaves (r : Registry) (m : Metadata) (g : Nat) : Prop :=
  ∀ ⦃n : Int64⦄ ⦃f : Function⦄, m.changes[g]? = some (.known n) →
    r.program.functions[g]? = some f → (f.retTypes.map r.cells).sum ≤ n.toInt

/-- A call moves `ap` over the results of the callee. -/
theorem Compiled.counts_call (h : Compiled r m l) {rank : Nat → Nat} {i b target : Nat}
    {site : Ap.Site} {lib : ConcreteLibfunc} {sig : BranchSignature} {next : ApState}
    (hsite : m.site? i = some site) (hcalls : ∀ g, rank g < rank site.owner → Leaves r m g)
    (hedge : r.Edge i b lib sig target) (hnext : site.after[b]? = some next)
    (heffect : Ap.Effect r.program (fun g c => m.changes[g]? = some c ∧ rank g < rank site.owner) i
      site.state sig.ap next)
    {callee : Function} (hop : lib.operation = .functionCall callee) :
    ∃ d, (callee.retTypes.map r.cells).sum ≤ d ∧ Ap.Counts site.state next i d sig.ap := by
  have hrecorded := heffect.mono fun _ _ hg => hg.1
  obtain ⟨_, _, -, hlib, -, hsig, -⟩ := id hedge
  obtain ⟨hsignature, id, hcallee⟩ := (h.valid.libfunc hlib).of_functionCall hop
  rw [hsignature] at hsig
  cases List.mem_singleton.mp (List.mem_of_getElem? hsig)
  obtain ⟨g, hg, hfunction⟩ := Sierra.Program.functionIndex?_eq hcallee
  cases heffect with
  | freshCall => exact ⟨_, Int.le_refl _, .inr ⟨rfl, rfl, trivial⟩⟩
  | @doneCall _ g' change hg' hdone =>
    obtain rfl := Option.some.inj (hg.symm.trans hg')
    cases change with
    | unknown => exact ⟨_, Int.le_refl _, .inr ⟨rfl, rfl, trivial⟩⟩
    | known n =>
      have hleaves := hcalls g hdone.2 hdone.1 hfunction
      refine ⟨2 + n.toInt, by omega, ?_⟩
      refine Ap.counts_of_call h.noWrap.positions hsite hedge rfl hg (fun n' hn' => ?_) hnext
        hrecorded
      rw [hdone.1] at hn'
      cases hn'
      rfl

/-- `ap` does not move back along a branch, and a call moves it over the results of the callee. -/
theorem Compiled.counts (h : Compiled r m l) (hlayers : r.Layered) {rank : Nat → Nat}
    (hrank : m.RankedBy r rank) {i b target : Nat} {site : Ap.Site} {lib : ConcreteLibfunc}
    {sig : BranchSignature} {next : ApState} (hsite : m.site? i = some site)
    (hcalls : ∀ g, rank g < rank site.owner → Leaves r m g) (hedge : r.Edge i b lib sig target)
    (hnext : site.after[b]? = some next) :
    ∃ d, 0 ≤ d ∧ Ap.Counts site.state next i d sig.ap ∧
      ∀ callee, lib.operation = .functionCall callee → (callee.retTypes.map r.cells).sum ≤ d := by
  obtain ⟨next', hnext', heffect⟩ := hrank hsite hedge
  obtain rfl := Option.some.inj (hnext.symm.trans hnext')
  obtain ⟨_, _, -, hlib, -, hsig, -⟩ := id hedge
  by_cases hcall : ∃ callee, lib.operation = .functionCall callee
  · obtain ⟨callee, hop⟩ := hcall
    obtain ⟨d, hle, hcounts⟩ := h.counts_call hsite hcalls hedge hnext heffect hop
    have hresults := sum_cells_nonneg hlayers h.types h.noWrap.sizes callee.retTypes
    refine ⟨d, by omega, hcounts, fun callee' hop' => ?_⟩
    rw [hop] at hop'
    cases hop'
    exact hle
  · rw [not_exists] at hcall
    obtain ⟨d, hmoves, hnonneg⟩ :=
      exists_moves hlayers h.types h.noWrap.sizes (h.valid.libfunc hlib) hcall hsig
    refine ⟨d, hnonneg, ?_, fun callee hop => absurd hop (hcall callee)⟩
    exact Ap.counts_of_moves h.noWrap.positions hsite hedge hmoves hnext heffect

/-! ### Environments -/

/-- A cell lies in the frame of a function whose parameters take `n` words: a parameter is below the
saved `fp` and the return address, a stack cell below `ap`, and in the first epoch not below the
frame. -/
def Cell.InFrame (n : Int) (s : ApState) : Cell → Prop
  | .ap epoch position =>
    (epoch = s.epoch → position.toInt < s.offset.toInt) ∧ (epoch = 0 → 0 ≤ position.toInt)
  | .fp offset => -(2 + n) ≤ offset.toInt ∧ offset.toInt ≤ -3

/-- The cells of an environment lie in the frame of `f`, and so does `ap`. -/
structure Env.Framed (r : Registry) (f : Function) (s : ApState) (env : Env) : Prop where
  offset : s.epoch = 0 → 0 ≤ s.offset.toInt
  cells : ∀ ⦃c : Cell⦄, env.Has c → c.InFrame (f.paramTypes.map r.cells).sum s

theorem Cell.InFrame.step {c : Cell} {n d : Int} {s next : ApState} {i : Nat} {e : ApEffect}
    (h : c.InFrame n s) (hbefore : c.Before (ApState.epochAtJoin i))
    (hcounts : Ap.Counts s next i d e) (hd : 0 ≤ d) : c.InFrame n next := by
  cases c with
  | fp offset => exact h
  | ap epoch position =>
    refine ⟨fun hepoch => ?_, h.2⟩
    rcases hcounts with ⟨hsame, hoffset⟩ | ⟨hopened, -, -⟩
    · have hlt := h.1 (hepoch.trans hsame)
      omega
    · -- The cell is older than the epoch that opens.
      have hlt : epoch < ApState.epochAtJoin i := hbefore
      unfold ApState.epochAtJoin at hlt
      unfold ApState.epochAfter at hopened
      omega

theorem offset_nonneg_step {d : Int} {s next : ApState} {i : Nat} {e : ApEffect}
    (h : s.epoch = 0 → 0 ≤ s.offset.toInt) (hcounts : Ap.Counts s next i d e) (hd : 0 ≤ d)
    (hepoch : next.epoch = 0) : 0 ≤ next.offset.toInt := by
  rcases hcounts with ⟨hsame, hoffset⟩ | ⟨hopened, -, -⟩
  · have := h (hsame.symm.trans hepoch)
    omega
  · unfold ApState.epochAfter at hopened
    omega

theorem toInt_add_ofNat {x : Int64} {k : Nat} (h : x.toInt + k < 2 ^ 63) :
    (x + .ofNat k).toInt = x.toInt + k := by
  have heq : x + .ofNat k = .ofInt (x.toInt + k) := by
    rw [Int64.ofInt_add, Int64.ofInt_toInt, Int64.ofInt_eq_ofNat]
  have hle := x.le_toInt
  rw [heq, Int64.toInt_ofInt_of_le (by omega) (by omega)]

theorem inFrame_pushed {n : Int} {s next : ApState} {i k count : Nat} {cells : Int64}
    (h : s.epoch = 0 → 0 ≤ s.offset.toInt) (hcounts : Ap.Counts s next i count (.known cells))
    (hk : k < count) : Cell.InFrame n next (.ap s.epoch (s.offset + .ofNat k)) := by
  obtain ⟨-, hoffset⟩ := counts_known hcounts
  have hlt := next.offset.toInt_lt
  have hposition : (s.offset + .ofNat k).toInt = s.offset.toInt + k := toInt_add_ofNat (by omega)
  refine ⟨fun _ => by omega, fun hepoch => ?_⟩
  have hnonneg := h hepoch
  omega

theorem inFrame_result {n d : Int} {s next : ApState} {i k count : Nat} {e : ApEffect}
    (h : s.epoch = 0 → 0 ≤ s.offset.toInt) (hcounts : Ap.Counts s next i d e)
    (hd : (count : Int) ≤ d) (hk : k < count) (hcount : count < 2 ^ 63)
    (hexact : Cell.Exact next (.ap next.epoch (next.offset - .ofNat count + .ofNat k))) :
    Cell.InFrame n next (.ap next.epoch (next.offset - .ofNat count + .ofNat k)) := by
  have hposition := hexact rfl
  rw [toInt_distance _ hk hcount] at hposition
  refine ⟨fun _ => by omega, fun hepoch => ?_⟩
  rcases hcounts with ⟨hsame, hoffset⟩ | ⟨hopened, -, -⟩
  · have hnonneg := h (hsame.symm.trans hepoch)
    omega
  · unfold ApState.epochAfter at hopened
    omega

theorem entryEnv_inFrame (hvalid : r.Valid) {f : Function} (hf : f ∈ r.program.functions)
    (hfit : (f.paramTypes.map r.cells).sum + 2 ≤ 2 ^ 63) {env : Env}
    (hentry : entryEnv r f = .ok env) {c : Cell} (hc : env.Has c) (s : ApState) :
    c.InFrame (f.paramTypes.map r.cells).sum s := by
  obtain ⟨sized, sized', hsized, hsized', rfl⟩ := entryEnv_eq_ok hentry
  have hsum := sum_withSizes (withSizes_eq_ok hsized)
  have hsum' : (sized'.foldr (·.2 + ·) 0 : Nat) = (f.paramTypes.map r.cells).sum := by
    rw [← sum_withSizes (withSizes_eq_ok hsized'), sum_cells_congr (hvalid.params hf).1]
  obtain ⟨v, ref, hv, hc⟩ := hc
  rcases find?_foldl_insert hv with hv | ⟨⟨param, ref'⟩, hmem, rfl⟩
  · cases hv
  · obtain ⟨k, hk, rfl⟩ := has_of_mem_place (List.of_mem_zip hmem).2 hc
    rw [hsum] at hsum' hfit ⊢
    have hlt : k < sized.foldr (·.2 + ·) 0 := by omega
    have hdistance := toInt_paramDistance hlt (by omega)
    refine ⟨?_, ?_⟩ <;> rw [totalCells, hdistance] <;> omega

section framed

variable (h : Compiled r m l)
include h

theorem Compiled.grounded : l.envs.Grounded ⟨r, m⟩ := fun _ _ => h.lowered.origin

theorem Compiled.shaped {i : Nat} {env : Env} (henv : l.envs.at? i = some env) : env.Shaped r :=
  h.grounded.shaped h.valid h.types h.noWrap.sizes henv

theorem Compiled.counts_push {i b target : Nat} {inv : Invocation} {site : Ap.Site}
    {env rest : Env} {lib : ConcreteLibfunc} {args : List Ref} {lowered : Lowered}
    {sig : BranchSignature} {next : ApState}
    (hinvoked : Invoked ⟨r, m⟩ l.envs i inv site env lib args rest lowered)
    (hedge : r.Edge i b lib sig target) (hnext : site.after[b]? = some next)
    (hpush : 0 < pushCount lib.operation args) :
    ∃ cells : Int64, cells.toInt = pushCount lib.operation args ∧
      Ap.Counts site.state next i cells.toInt (.known cells) := by
  obtain ⟨_, _, -, -, -, hsig, -⟩ := id hedge
  obtain ⟨next', _, hnext', heffect, -⟩ := h.consistent.edge hinvoked.site_eq hedge
  obtain rfl := Option.some.inj (hnext.symm.trans hnext')
  obtain ⟨cells, hap, hcells⟩ := known_of_push (h.valid.libfunc hinvoked.lib_eq)
    (takeArgs_eq_ok hinvoked.args_eq).1
    ((h.shaped hinvoked.env_eq).takeArgs hinvoked.args_eq).1 hsig hpush
  refine ⟨cells, hcells, ?_⟩
  rw [← hap]
  exact Ap.counts_of_moves h.noWrap.positions hinvoked.site_eq hedge (hap ▸ .known cells) hnext
    heffect

/-- The cells that an invocation writes are in the frame, where no epoch opens at the target. -/
theorem Compiled.inFrame_fresh {n d : Int} {i b target : Nat} {inv : Invocation}
    {site site' : Ap.Site} {env rest e : Env} {lib : ConcreteLibfunc} {args : List Ref}
    {lowered : Lowered} {sig : BranchSignature}
    (hinvoked : Invoked ⟨r, m⟩ l.envs i inv site env lib args rest lowered)
    (hoffset : site.state.epoch = 0 → 0 ≤ site.state.offset.toInt)
    (hedge : r.Edge i b lib sig target) (hnext : site.after[b]? = some site'.state)
    (hcounts : Ap.Counts site.state site'.state i d sig.ap)
    (hresults : ∀ callee, lib.operation = .functionCall callee →
      (callee.retTypes.map r.cells).sum ≤ d)
    (hat : l.envs.at? target = some e) (hsite' : m.site? target = some site') {c : Cell}
    (hc : e.Has c) (hfresh : Fresh ⟨r, m⟩ i b site.state lib.signature lib.operation args c) :
    c.InFrame n site'.state := by
  cases hfresh with
  | pushed hk =>
    obtain ⟨cells, hcells, hpush⟩ :=
      h.counts_push hinvoked hedge hnext (Nat.zero_lt_of_lt hk)
    rw [hcells] at hpush
    exact inFrame_pushed hoffset hpush hk
  | @result callee sized after k hop hsized hafter hk =>
    obtain ⟨hsignature, id, hcallee⟩ := (h.valid.libfunc hinvoked.lib_eq).of_functionCall hop
    obtain rfl : site'.state = after := by
      simpa [Metadata.branchState?, hinvoked.site_eq, hnext] using hafter
    have hsum : (callee.retTypes.map r.cells).sum = (sized.foldr (·.2 + ·) 0 : Nat) := by
      rw [hsignature] at hsized
      exact sum_withSizes (withSizes_eq_ok hsized)
    have hfit := h.noWrap.results callee (List.mem_of_find?_eq_some hcallee)
    have hle := hresults callee hop
    exact inFrame_result hoffset hcounts (by omega) hk (by omega) (h.noWrap.exact hat hsite' hc).1

/-- The values of a return in the first epoch lie above the frame. -/
theorem Compiled.results_le_offset {i : Nat} {vars : List VarId} {site : Ap.Site} {env : Env}
    {f : Function} {code : List Code}
    (hreturned : Returned ⟨r, m⟩ l.envs i vars site env f code) (hepoch : site.state.epoch = 0)
    (hframed : env.Framed r f site.state) :
    (f.retTypes.map r.cells).sum ≤ site.state.offset.toInt := by
  obtain ⟨refs, rest, htake, htop, -⟩ := lowerReturn_eq_ok hreturned.code_eq
  have hlength := length_cellsOf (takeArgs_eq_ok htake).1
    ((h.shaped hreturned.env_eq).takeArgs htake).1
  rw [← hlength]
  by_cases hempty : (cellsOf refs).length = 0
  · rw [hempty]
    exact hframed.offset hepoch
  · -- The first value starts as many cells below `ap` as all of them take.
    have hpos : 0 < (cellsOf refs).length := Nat.pos_of_ne_zero hempty
    have hfirst := List.getElem?_eq_getElem hpos
    have heq := checkOnTop_eq_ok htop hfirst
    obtain ⟨ref, href, he⟩ := List.mem_flatMap.mp (List.mem_of_getElem? hfirst)
    rw [heq] at he
    have hc : env.Has (.ap site.state.epoch
        (site.state.offset - .ofNat (cellsOf refs).length + .ofNat 0)) :=
      (has_of_takeArgs htake).1 ref href ⟨_, he, List.mem_singleton.mpr rfl⟩
    have hfit := h.noWrap.results f (List.mem_of_getElem? hreturned.function_eq)
    have hposition := (h.noWrap.exact hreturned.env_eq hreturned.site_eq hc).1 rfl
    rw [toInt_distance _ hpos (by omega)] at hposition
    have hnonneg := (hframed.cells hc).2 hepoch
    omega

/-- A function whose environments are in its frame leaves its results above the frame. -/
theorem Compiled.leaves_of_framed {g : Nat}
    (hframed : ∀ {f : Function} {j : Nat} {env : Env} {site : Ap.Site},
      r.program.functions[g]? = some f → l.envs.at? j = some env → m.site? j = some site →
      site.owner = g → env.Framed r f site.state) : Leaves r m g := by
  intro n f hchange hf
  obtain ⟨is, his, hgive⟩ := h.consistent.change hchange
  obtain ⟨s, hs⟩ : ∃ s, s ∈ is.filterMap m.state? := by
    refine List.exists_mem_of_ne_nil _ fun hnil => ?_
    rw [hnil] at hgive
    cases hgive
  obtain ⟨i, hi, hstate⟩ := List.mem_filterMap.mp hs
  obtain ⟨hreturn, howner⟩ := (his i).mp hi
  obtain ⟨site, hsite, rfl⟩ := Option.map_eq_some_iff.mp howner
  obtain ⟨hepoch, hoffset⟩ := Ap.return_of_known h.consistent hchange hsite rfl hreturn
  obtain ⟨vars, hstatement⟩ := hreturn
  have hblock : i < l.blocks.length := by
    rw [h.lowered.length_blocks]
    exact (List.getElem?_eq_some_iff.mp hstatement).1
  cases h.lowered.statement (List.getElem?_eq_getElem hblock) hstatement with
  | @ret _ site' env f' hreturned =>
    obtain rfl := Option.some.inj (hsite.symm.trans hreturned.site_eq)
    obtain rfl := Option.some.inj (hf.symm.trans hreturned.function_eq)
    have hresults : (f.retTypes.map r.cells).sum ≤ site.state.offset.toInt :=
      h.results_le_offset hreturned hepoch (hframed hf hreturned.env_eq hsite rfl)
    have hnonneg : 0 ≤ site.state.offset.toInt :=
      (hframed hf hreturned.env_eq hsite rfl).offset hepoch
    rwa [hoffset (Int64.le_iff_toInt_le.mpr hnonneg)] at hresults

variable (hlayers : r.Layered) {rank : Nat → Nat} (hrank : m.RankedBy r rank)
include hlayers hrank

/-- A branch brings an environment in the frame to its target. -/
theorem Compiled.framed_brings {f : Function} {i b : Nat} {inv : Invocation} {site site' : Ap.Site}
    {env rest e : Env} {lib : ConcreteLibfunc} {args refs : List Ref} {lowered : Lowered}
    {branch : Branch} (hinvoked : Invoked ⟨r, m⟩ l.envs i inv site env lib args rest lowered)
    (hcalls : ∀ g, rank g < rank site.owner → Leaves r m g) (hframed : env.Framed r f site.state)
    (hb : inv.branches[b]? = some branch) (hrefs : lowered.outputs[b]? = some refs)
    (hbrings : Brings m i b rest branch refs e)
    (hat : l.envs.at? (branch.target.resolve i).toNat = some e)
    (hsite' : m.site? (branch.target.resolve i).toNat = some site') :
    e.Framed r f site'.state := by
  obtain ⟨sig, hsig⟩ := (hinvoked.valid h.valid).exists_signature hb
  have hedge := hinvoked.edge hb hsig
  obtain ⟨next, target, hnext, -, htarget, -, hstate⟩ := h.consistent.edge hinvoked.site_eq hedge
  obtain rfl := Option.some.inj (hsite'.symm.trans htarget)
  obtain ⟨d, hd, hcounts, hresults⟩ :=
    h.counts hlayers hrank hinvoked.site_eq hcalls hedge hnext
  have hbefore := (h.lowered.epochs h.valid h.consistent hinvoked.env_eq hinvoked.site_eq).2
  have hold : ∀ c, env.Has c → c.InFrame (f.paramTypes.map r.cells).sum next :=
    fun c hc => (hframed.cells hc).step (hbefore c hc) hcounts hd
  rcases hstate with rfl | hstate
  · refine ⟨offset_nonneg_step hframed.offset hcounts hd, fun c hc => ?_⟩
    rcases hinvoked.has_of_brings hrefs hbrings hc with hc' | hfresh
    · exact hold c hc'
    · exact h.inFrame_fresh hinvoked hframed.offset hedge hnext hcounts hresults hat hsite' hc
        hfresh
  · -- Nothing that moves with `ap` gets past a join, and parameters stay where they are.
    have hstill : e.Still := by
      refine h.lowered.still_of_join h.valid h.consistent hat (s := site'.state) ?_ ?_
      · rw [Metadata.state?, hsite', Option.map_some]
      · rw [hstate]
        rfl
    refine ⟨fun hepoch => ?_, fun c hc => ?_⟩
    · rw [hstate] at hepoch
      cases hepoch
    · obtain ⟨offset, rfl⟩ := hstill.exists_fp hc
      rcases hinvoked.has_of_brings hrefs hbrings hc with hc' | hfresh
      · exact hold _ hc'
      · cases hfresh

/-- If the functions before it leave their results above their frames, the environments of a
function are in its frame. -/
theorem Compiled.framed_of_calls {o : Nat} {f : Function} (hf : r.program.functions[o]? = some f)
    (hcalls : ∀ g, rank g < rank o → Leaves r m g) {j : Nat} {env : Env}
    (henv : l.envs.at? j = some env) :
    ∀ site, m.site? j = some site → site.owner = o → env.Framed r f site.state := by
  refine h.grounded.induct
    (P := fun j env => ∀ site, m.site? j = some site → site.owner = o → env.Framed r f site.state)
    ?_ ?_ henv
  · intro g env hg hentry site hsite howner
    obtain ⟨k, hk⟩ := List.getElem?_of_mem hg
    obtain ⟨site', hsite', howner', hstate⟩ :=
      h.consistent.entry hk (lt_length_of_site h.consistent hsite)
    obtain rfl := Option.some.inj (hsite.symm.trans hsite')
    obtain rfl : g = f := by
      rw [← howner, howner', hk] at hf
      exact Option.some.inj hf
    refine ⟨fun hepoch => ?_, fun c hc =>
      entryEnv_inFrame h.valid hg (h.noWrap.params g hg) hentry hc _⟩
    rcases hstate with hstate | hstate
    · rw [hstate]
      exact Int.le_refl 0
    · rw [hstate] at hepoch
      cases hepoch
  · intro i b inv site env rest e lib args refs lowered branch hinvoked ih hb hrefs _ hbrings hat
      site' hsite' howner'
    obtain ⟨sig, hsig⟩ := (hinvoked.valid h.valid).exists_signature hb
    obtain ⟨next, target, -, -, htarget, howner, -⟩ :=
      h.consistent.edge hinvoked.site_eq (hinvoked.edge hb hsig)
    obtain rfl := Option.some.inj (hsite'.symm.trans htarget)
    rw [howner] at howner'
    exact h.framed_brings hlayers hrank hinvoked (howner' ▸ hcalls)
      (ih site hinvoked.site_eq howner') hb hrefs hbrings hat hsite'

/-- All functions leave their results above their frames. -/
theorem Compiled.leaves (g : Nat) : Leaves r m g := by
  induction hk : rank g using Nat.strongRecOn generalizing g with
  | ind k ih =>
    subst hk
    refine h.leaves_of_framed fun hf henv hsite howner => ?_
    exact h.framed_of_calls hlayers hrank hf (fun g' hlt => ih _ hlt g' rfl) henv _ hsite howner

/-- All environments are in the frames of their functions. -/
theorem Compiled.framed {f : Function} {j : Nat} {env : Env} {site : Ap.Site}
    (henv : l.envs.at? j = some env) (hsite : m.site? j = some site)
    (hf : r.program.functions[site.owner]? = some f) : env.Framed r f site.state :=
  h.framed_of_calls hlayers hrank hf (fun g _ => h.leaves hlayers hrank g) henv site hsite rfl

end framed

/-! ### Instructions -/

/-- Code whose instructions read their frame only. -/
def Code.InFrame (n : Int) : Code → Prop
  | .plain i => i.InFrame n
  | .jumpNonZero _ condition => condition.InFrame n
  | .jump _ | .call _ | .constAddress _ _ => True

theorem Code.InFrame.resolve {n : Int} {c : Code} (h : c.InFrame n) (layout : Layout) (pc : Nat) :
    (layout.resolve pc c).InFrame n := by
  cases c with
  | plain i => exact h
  | jump t => exact .jump _
  | jumpNonZero t condition => exact .jumpNonZero _ h
  | call t => exact .call _
  | constAddress segment v => exact Instruction.inFrame_immediate n _

/-- The operand of a cell at a position, if it has one, is in the frame. -/
def Cell.Addressed (n : Int) (s : ApState) (c : Cell) : Prop :=
  ∀ ref, c.at? s = some ref → ref.InFrame n

theorem Cell.InFrame.addressed {n : Int} {s : ApState} {c : Cell} (h : c.InFrame n s)
    (hexact : c.Exact s) : c.Addressed n s := by
  intro ref href
  cases c with
  | fp offset =>
    cases href
    exact h
  | ap epoch position =>
    obtain ⟨hepoch, rfl⟩ := Cell.at?_ap_eq_some.mp href
    have hlt := h.1 hepoch
    have hdistance := hexact hepoch
    change (position - s.offset).toInt ≤ -1
    omega

theorem Cell.Addressed.move {n : Int} {s : ApState} {c : Cell} {k : Nat} (h : c.Addressed n s)
    (hwithin : c.Within s (k + 1)) : c.Addressed n (s.move 1) := by
  intro ref href
  cases c with
  | fp offset => exact h ref href
  | ap epoch position =>
    obtain ⟨hepoch, rfl⟩ := Cell.at?_ap_eq_some.mp href
    have hle : (position - s.offset).toInt ≤ -1 :=
      h _ (Cell.at?_ap_eq_some.mpr ⟨hepoch, rfl⟩)
    have hdistance := hwithin.distance hepoch
    change (position - (s.move 1).offset).toInt ≤ -1
    omega

theorem stored_inFrame {n : Int} {s : ApState} {e : Expr} {ref : CellRef}
    (h : stored e s = .ok ref) (he : ∀ c ∈ e.locations, c.Addressed n s) :
    ref.InFrame n := by
  cases e with
  | deref c => exact he c (List.mem_singleton.mpr rfl) ref (address_eq_ok_iff.mp h)
  | doubleDeref | immediate | binary | lost => cases h

theorem operands_inFrame {n : Int} {s : ApState} {op : BinaryOp} {a : Cell} {b : Operand}
    {left : CellRef} {right : Casm.Operand}
    (he : ∀ c ∈ (Expr.binary op a b).locations, c.Addressed n s) (hleft : a.at? s = some left)
    (hright : b.Spelled s right) : left.InFrame n ∧ right.InFrame n := by
  cases hright with
  | immediate v => exact ⟨he a List.mem_cons_self left hleft, trivial⟩
  | cell hc =>
    obtain ⟨ha, hb⟩ := List.forall_mem_cons.mp he
    exact ⟨ha left hleft, hb _ List.mem_cons_self _ hc⟩

theorem store_inFrame {n : Int} {s : ApState} {e : Expr} {instruction : Instruction}
    (h : store e s = .ok instruction) (he : ∀ c ∈ e.locations, c.Addressed n s) :
    instruction.InFrame n := by
  obtain ⟨dst, res, hequates, rfl⟩ := store_eq_ok_iff.mp h
  cases hequates with
  | immediate v => exact Instruction.inFrame_immediate n v
  | deref hc | doubleDeref hc => exact .value (he _ List.mem_cons_self _ hc)
  | sum hleft hright | product hleft hright => exact .value (operands_inFrame he hleft hright)
  | difference hleft hright =>
    obtain ⟨hleft, hright⟩ := operands_inFrame he hleft hright
    exact .difference hleft hright

theorem storeAll_inFrame {n : Int} {s : ApState} {es : List Expr} {code : List Instruction}
    (h : storeAll s es = .ok code)
    (he : ∀ e ∈ es, ∀ c ∈ e.locations, c.Addressed n s ∧ c.Within s es.length) :
    ∀ instruction ∈ code, instruction.InFrame n := by
  induction es generalizing s code with
  | nil =>
    cases h
    simp
  | cons e es ih =>
    obtain ⟨instruction, hstore, h⟩ := bind_eq_ok.mp h
    obtain ⟨rest, hrest, h⟩ := bind_eq_ok.mp h
    cases h
    obtain ⟨hfirst, hmore⟩ := List.forall_mem_cons.mp he
    refine List.forall_mem_cons.mpr ⟨store_inFrame hstore fun c hc => (hfirst c hc).1, ?_⟩
    refine ih hrest fun e' he' c hc => ?_
    obtain ⟨haddressed, hwithin⟩ := hmore e' he' c hc
    exact ⟨haddressed.move hwithin, hwithin.succ⟩

theorem Lowers.code_inFrame {n : Int} {ctx : Context} {i : Nat} {s : ApState} {sig : Signature}
    {inv : Invocation} {op : Operation} {args : List Ref} {lowered : Lowered}
    (h : Lowers ctx i s sig inv op args lowered)
    (hargs : ∀ arg ∈ args, ∀ c, arg.Has c → c.Addressed n s ∧ c.Within s (pushCount op args)) :
    ∀ c ∈ lowered.code, c.InFrame n := by
  have hstored : ∀ {t e ref}, ⟨t, [e]⟩ ∈ args → stored e s = .ok ref → ref.InFrame n :=
    fun {_ e _} hmem hstored => stored_inFrame hstored fun c hc =>
      (hargs _ hmem c ⟨e, List.mem_singleton.mpr rfl, hc⟩).1
  cases h with
  | storeTemp hstore =>
    intro c hc
    obtain ⟨instruction, hmem, rfl⟩ := List.mem_map.mp hc
    exact storeAll_inFrame hstore
      (fun e he c hc => hargs _ (List.mem_singleton.mpr rfl) c ⟨e, he, hc⟩) instruction hmem
  | felt252IsZero hcondition =>
    exact List.forall_mem_singleton.mpr (hstored (List.mem_singleton.mpr rfl) hcondition)
  | withdrawGas hcell =>
    have hcounter := hstored (List.mem_cons_of_mem _ (List.mem_singleton.mpr rfl)) hcell
    refine List.forall_mem_cons.mpr ⟨.value hcounter, List.forall_mem_cons.mpr ⟨?_, ?_⟩⟩
    · exact .jumpNonZero _ (Int.le_refl (-1))
    · exact List.forall_mem_singleton.mpr trivial
  | jump | functionCall | constAsBox => exact List.forall_mem_singleton.mpr trivial
  | _ => exact fun c hc => absurd hc List.not_mem_nil

section programs

variable (h : Compiled r m l)
include h

theorem Compiled.within_push {i : Nat} {inv : Invocation} {site : Ap.Site} {env rest : Env}
    {lib : ConcreteLibfunc} {args : List Ref} {lowered : Lowered}
    (hinvoked : Invoked ⟨r, m⟩ l.envs i inv site env lib args rest lowered) {c : Cell}
    (hc : env.Has c) : c.Within site.state (pushCount lib.operation args) := by
  have hexact := h.noWrap.exact hinvoked.env_eq hinvoked.site_eq hc
  by_cases hpush : 0 < pushCount lib.operation args
  · obtain ⟨sig, hsig⟩ : ∃ sig, lib.signature.branches[0]? = some sig := by
      cases h.valid.libfunc hinvoked.lib_eq <;> exact ⟨_, rfl⟩
    obtain ⟨branch, hb⟩ := exists_branch (hinvoked.valid h.valid) hsig
    have hedge := hinvoked.edge hb hsig
    obtain ⟨next, _, hnext, -⟩ := h.consistent.edge hinvoked.site_eq hedge
    obtain ⟨cells, hcells, hcounts⟩ := h.counts_push hinvoked hedge hnext hpush
    have hwithin := hexact.1.within hcounts (hexact.2 next (List.mem_of_getElem? hnext))
    rwa [hcells, Int.toNat_natCast] at hwithin
  · rw [Nat.eq_zero_of_not_pos hpush]
    cases c with
    | fp offset => trivial
    | ap epoch position => exact fun _ => by simpa using (position - site.state.offset).le_toInt

/-- The code of a statement stays in the frame of its function. -/
theorem Compiled.block_inFrame (hlayers : r.Layered) {rank : Nat → Nat}
    (hrank : m.RankedBy r rank) {i : Nat} {block : List Code} (hblock : l.blocks[i]? = some block)
    {site : Ap.Site} (hsite : m.site? i = some site) {f : Function}
    (hf : r.program.functions[site.owner]? = some f) :
    ∀ c ∈ block, c.InFrame (f.paramTypes.map r.cells).sum := by
  obtain ⟨statement, hstatement⟩ : ∃ statement, r.program.statements[i]? = some statement := by
    have hlt := (List.getElem?_eq_some_iff.mp hblock).1
    rw [h.lowered.length_blocks] at hlt
    exact ⟨_, List.getElem?_eq_getElem hlt⟩
  cases h.lowered.statement hblock hstatement with
  | ret hreturned =>
    obtain ⟨_, _, -, -, rfl⟩ := lowerReturn_eq_ok hreturned.code_eq
    exact List.forall_mem_singleton.mpr .ret
  | invoke hinvoked hcode =>
    obtain rfl := Option.some.inj (hsite.symm.trans hinvoked.site_eq)
    have hframed := h.framed hlayers hrank hinvoked.env_eq hsite hf
    rw [← hcode]
    refine (lowerInvocation_eq_ok hinvoked.lowered_eq).code_inFrame fun arg harg c hc => ?_
    have hhas := (has_of_takeArgs hinvoked.args_eq).1 arg harg hc
    have hexact := (h.noWrap.exact hinvoked.env_eq hsite hhas).1
    exact ⟨(hframed.cells hhas).addressed hexact, h.within_push hinvoked hhas⟩

end programs

/-- The code of a program stays in the frames of its functions. -/
structure LoweredProgram.InFrame (r : Registry) (m : Metadata) (l : LoweredProgram)
    (out : Casm.Program) : Prop where
  /-- the environment of a statement is in the frame of the function that the statement is in -/
  env : ∀ {i : Nat}, i < r.program.statements.length → ∃ env site f, l.envs.at? i = some env ∧
    m.site? i = some site ∧ r.program.functions[site.owner]? = some f ∧
    env.Framed r f site.state
  /-- an instruction is in the block of a statement, and stays in the frame of its function -/
  instruction : ∀ {before after : List Instruction} {instruction : Instruction},
    out.instructions = before ++ instruction :: after → ∃ i site f, m.site? i = some site ∧
      r.program.functions[site.owner]? = some f ∧
      (Layout.ofBlocks l.blocks).statementAddress i ≤ wordCount before ∧
      wordCount before < (Layout.ofBlocks l.blocks).statementAddress (i + 1) ∧
      instruction.InFrame (f.paramTypes.map r.cells).sum

end SierraCasm.Lowering

namespace SierraCasm

open Lowering in
/-- In a program in which no number wraps, compiled code reads parameters of its function and cells
that were written since the function was entered, and pushes one cell with every equation. -/
theorem inFrame_of_compile {p : Sierra.Program} {r : Registry} {m : Metadata}
    {config : CompileConfig} {out : Casm.Program} {l : LoweredProgram}
    (hbuild : Registry.build p = .ok r) (hanalyze : analyze r = .ok m)
    (hcompile : compile r m config = .ok out) (hlower : lowerProgram ⟨r, m⟩ = .ok l)
    (hexact : NoWrap r m l) : l.InFrame r m out := by
  obtain ⟨l', hlower', rfl⟩ := compile_eq_ok hcompile
  obtain rfl := Except.ok.inj (hlower.symm.trans hlower')
  have hconsistent := analyze_consistent hanalyze
  have h : Compiled r m l :=
    ⟨(Registry.build_valid hbuild).2, Registry.build_typesValid hbuild, hconsistent,
      lowerProgram_valid hconsistent hlower, hexact⟩
  have hlayers := Registry.build_layered hbuild
  obtain ⟨rank, hrank⟩ := analyze_ranked hanalyze
  have hreached : ∀ {i}, i < r.program.statements.length → ∃ env site f,
      l.envs.at? i = some env ∧ m.site? i = some site ∧
      r.program.functions[site.owner]? = some f := by
    intro i hi
    obtain ⟨env, site, henv, hsite⟩ := h.lowered.reached hi
    exact ⟨env, site, _, henv, hsite, List.getElem?_eq_getElem (owner_lt_of_analyze hanalyze hsite)⟩
  constructor
  · intro i hi
    obtain ⟨env, site, f, henv, hsite, hf⟩ := hreached hi
    exact ⟨env, site, f, henv, hsite, hf, h.framed hlayers hrank henv hsite hf⟩
  · intro before after instruction hinstructions
    obtain ⟨i, c, code, hcode, rfl⟩ := exists_codeAt hinstructions
    obtain ⟨first, hblock, -⟩ := id hcode
    have hi := (List.getElem?_eq_some_iff.mp hblock).1
    rw [h.lowered.length_blocks] at hi
    obtain ⟨env, site, f, henv, hsite, hf⟩ := hreached hi
    obtain ⟨hle, hend⟩ := hcode.mem_block
    rw [blockSize_cons] at hend
    have hpos := c.size_pos
    refine ⟨i, site, f, hsite, hf, hle, by omega, ?_⟩
    have hc : c ∈ first ++ c :: code := List.mem_append_right _ List.mem_cons_self
    exact (h.block_inFrame hlayers hrank hblock hsite hf c hc).resolve _ _

/-- Function `1` calls function `0`, which subtracts its arguments, on two copies of its own. -/
def cancel : Sierra.Program where
  types := [.numbered 0 "felt252"]
  libfuncs :=
    [.numbered 0 "felt252_sub", .numbered 1 "store_temp" [.type { id := 0 }],
     .numbered 2 "dup" [.type { id := 0 }], .numbered 3 "function_call" [.userFunc { id := 0 }]]
  statements :=
    [.numbered 0 [0, 1] [(.fallthrough, [2])],
     .numbered 1 [2] [(.fallthrough, [2])],
     .ret [⟨2⟩],
     .numbered 2 [0] [(.fallthrough, [0, 1])],
     .numbered 1 [0] [(.fallthrough, [0])],
     .numbered 1 [1] [(.fallthrough, [1])],
     .numbered 3 [0, 1] [(.fallthrough, [2])],
     .numbered 1 [2] [(.fallthrough, [2])],
     .ret [⟨2⟩]]
  functions := [.numbered 0 [0, 0] [0] 0, .numbered 1 [0] [0] 3]

open Lowering Casm in
/-- The code of `cancel`: the difference is written by an equation with the new cell as a term, and
the caller finds the result of the call below `ap`. -/
theorem inFrame_cancel :
    ∃ r m out l, Registry.build cancel = .ok r ∧ analyze r = .ok m ∧ compile r m {} = .ok out ∧
      lowerProgram ⟨r, m⟩ = .ok l ∧ NoWrap r m l ∧
      out.instructions =
        [push ⟨.fp, -4⟩ (.binary .add top (.deref ⟨.fp, -3⟩)), { body := .ret },
         push top (.deref ⟨.fp, -3⟩), push top (.deref ⟨.fp, -3⟩),
         { body := .call (.immediate (-4)) }, push top (.deref ⟨.ap, -1⟩), { body := .ret }] ∧
      l.InFrame r m out := by
  obtain ⟨r, hbuild, hr⟩ : ∃ r, Registry.build cancel = .ok r ∧
      ((analyze r).toOption.any fun m => (compile r m {}).toOption.any fun out =>
        (lowerProgram ⟨r, m⟩).toOption.any fun l => decide (NoWrap r m l) &&
          decide (out.instructions =
            [push ⟨.fp, -4⟩ (.binary .add top (.deref ⟨.fp, -3⟩)), { body := .ret },
             push top (.deref ⟨.fp, -3⟩), push top (.deref ⟨.fp, -3⟩),
             { body := .call (.immediate (-4)) }, push top (.deref ⟨.ap, -1⟩),
             { body := .ret }])) = true :=
    exists_of_toOption_any (by decide +kernel)
  obtain ⟨m, hanalyze, hm⟩ := exists_of_toOption_any hr
  obtain ⟨out, hcompile, hout⟩ := exists_of_toOption_any hm
  obtain ⟨l, hlower, hl⟩ := exists_of_toOption_any hout
  rw [Bool.and_eq_true, decide_eq_true_eq, decide_eq_true_eq] at hl
  exact ⟨r, m, out, l, hbuild, hanalyze, hcompile, hlower, hl.1, hl.2,
    inFrame_of_compile hbuild hanalyze hcompile hlower hl.1⟩

end SierraCasm
