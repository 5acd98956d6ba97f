import SierraCasm.Proofs.Lowering.Invocation

/-! # The code of an invocation

The block of an invocation other than a call takes the branch that its operation takes, and arrives
at the code of the branch's target with the results of the operation in the references that the
branch binds (`Enters.exits`).  The proof is one lemma for each libfunc that emits code. -/

namespace SierraCasm.Lowering

open Sierra Concrete Casm

/-! ### Leaving a block -/

/-- The machine has left the block of an invocation at `V` by a branch that binds `refs`, having
moved `ap` by `d` cells. -/
structure LeftBy (r : Registry) (blocks : List (List Code)) (i : Nat) (args : List Ref) (V : View)
    (branch : Branch) (effect : ApEffect) (refs : List Ref) (results : List Value) (d : Int)
    (τ : State) : Prop where
  moves : Ap.Moves effect d
  nonneg : 0 ≤ d
  pc : τ.pc = ((Layout.ofBlocks blocks).statementAddress (branch.target.resolve i).toNat : Nat)
  ap : τ.ap = V.ap + Felt.ofInt d
  fp : τ.fp = V.fp
  mem : V.mem.Keeps τ.mem
  results : ∀ {after : ApState}, Ap.Counts V.state after i d effect →
    (∀ arg ∈ args, ∀ c, arg.Has c → c.Carries V ⟨after, τ.ap, τ.fp, τ.mem⟩) →
    List.Forall₂ (Ref.Denotes r ⟨after, τ.ap, τ.fp, τ.mem⟩) refs results

/-- The machine has left the block of an invocation at `V` by branch `b`. -/
def Left (r : Registry) (blocks : List (List Code)) (i : Nat) (inv : Invocation) (sig : Signature)
    (args : List Ref) (lowered : Lowered) (V : View) (b : Nat) (results : List Value)
    (τ : State) : Prop :=
  ∃ branch bsig refs d, inv.branches[b]? = some branch ∧ sig.branches[b]? = some bsig ∧
    lowered.outputs[b]? = some refs ∧ LeftBy r blocks i args V branch bsig.ap refs results d τ

theorem counts_known {s after : ApState} {i : Nat} {d : Int} {cells : Int64}
    (h : Ap.Counts s after i d (.known cells)) :
    after.epoch = s.epoch ∧ after.offset.toInt = s.offset.toInt + d :=
  h.resolve_right fun hopens => hopens.2.2

theorem reads_pushed {s after : ApState} {i k n : Nat} {cells : Int64} {ap fp x : Felt}
    {mem : Memory} (hcounts : Ap.Counts s after i n (.known cells)) (hk : k < n)
    (hn : n < 2 ^ 63) (hx : mem (ap + (k : Nat)) = some x) :
    Cell.Reads ⟨after, ap + Felt.ofInt n, fp, mem⟩ (.ap s.epoch (s.offset + .ofNat k)) x := by
  obtain ⟨-, hoffset⟩ := counts_known hcounts
  have hafter : after.offset = s.offset + .ofNat n := by
    rw [← Int64.ofInt_toInt after.offset, hoffset, Int64.ofInt_add, Int64.ofInt_toInt,
      Int64.ofInt_eq_ofNat]
  have hdistance : (s.offset + .ofNat k - after.offset).toInt = (k : Int) - n := by
    have := toInt_distance after.offset hk hn
    rw [← this, hafter]
    congr 1
    grind
  intro ref href
  obtain ⟨-, rfl⟩ := Cell.at?_ap_eq_some.mp href
  rw [address_of_distance hdistance, Felt.ofInt_eq_cast, Int.cast_natCast, add_sub_cancel_right]
  exact hx

theorem reads_pushed_one {s after : ApState} {i : Nat} {cells : Int64} {ap fp x : Felt}
    {mem : Memory} (hcounts : Ap.Counts s after i 1 (.known cells)) (hx : mem ap = some x) :
    (pushed s).Denotes ⟨after, ap + Felt.ofInt 1, fp, mem⟩ x := by
  have hx' : mem (ap + ((0 : Nat) : Felt)) = some x := by rw [Nat.cast_zero, add_zero, hx]
  have h : Cell.Reads ⟨after, ap + Felt.ofInt (1 : Nat), fp, mem⟩
      (.ap s.epoch (s.offset + .ofNat 0)) x :=
    reads_pushed hcounts Nat.zero_lt_one (by decide) hx'
  have hzero : s.offset + .ofNat 0 = s.offset := Int64.add_zero _
  rwa [hzero] at h

/-! ### Branches -/

section branches

variable {n i b : Nat} {lib : ConcreteLibfunc} {inv : Invocation}

theorem exists_branch (h : Registry.InvocationValid n lib inv) {bsig : BranchSignature}
    (hsig : lib.signature.branches[b]? = some bsig) : ∃ branch, inv.branches[b]? = some branch := by
  have hlt : b < inv.branches.length := by
    rw [h.branches]
    exact (List.getElem?_eq_some_iff.mp hsig).1
  exact ⟨_, List.getElem?_eq_getElem hlt⟩

theorem target_of_fallthrough (h : Registry.InvocationValid n lib inv)
    (hb : lib.signature.fallthrough = some b) {branch : Branch} {bsig : BranchSignature}
    (hbranch : inv.branches[b]? = some branch) (hsig : lib.signature.branches[b]? = some bsig) :
    (branch.target.resolve i).toNat = i + 1 := by
  rcases (h.branch hbranch hsig).target with ⟨htarget, -⟩ | ⟨t, -, hother, -⟩
  · rw [htarget]
    rfl
  · exact absurd hb hother

theorem branchTarget_eq_ok {target : Nat} (h : branchTarget inv i b = .ok target) :
    ∃ branch, inv.branches[b]? = some branch ∧ (branch.target.resolve i).toNat = target := by
  unfold branchTarget at h
  split at h
  · rename_i branch hbranch
    cases h
    exact ⟨branch, hbranch, rfl⟩
  · cases h

theorem add_distance (pc a : Nat) : (pc : Felt) + Felt.ofInt ((a : Int) - pc) = (a : Felt) := by
  simp only [Felt.ofInt_eq_cast, Int.cast_sub, Int.cast_natCast]
  ring

end branches

/-! ### Libfuncs -/

section libfuncs

variable {r : Registry} {m : Metadata} {blocks : List (List Code)} {V : View} {n i : Nat}
  {lib : ConcreteLibfunc} {inv : Invocation} {args : List Ref} {values : List Value}
  {lowered : Lowered}

/-- What is known where the block of an invocation is entered. -/
structure Enters (r : Registry) (m : Metadata) (blocks : List (List Code)) (V : View) (n i : Nat)
    (lib : ConcreteLibfunc) (inv : Invocation) (args : List Ref) (values : List Value)
    (lowered : Lowered) : Prop where
  types : r.TypesValid
  sizes : r.SizesExact
  specialized : Specialized r.libfuncContext lib
  invocation : Registry.InvocationValid n lib inv
  lowers : Lowers ⟨r, m⟩ i V.state lib.signature inv lib.operation args lowered
  block : blocks[i]? = some lowered.code
  loaded : Loaded (assemble blocks) V.mem
  params : List.Forall₂ (fun (ref : Ref) (type : Ident) => ref.type.id = type.id) args
    lib.signature.params
  denotes : List.Forall₂ (Ref.Denotes r V) args values
  within : ∀ {b : Nat} {bsig : BranchSignature} {cells : Int64},
    lib.signature.branches[b]? = some bsig → bsig.ap = .known cells →
    ∀ arg ∈ args, ∀ c, arg.Has c → c.Within V.state cells.toInt.toNat

/-- From the start of its block, an invocation leaves by the branch that its operation takes; a
block without instructions falls through. -/
def Exits (r : Registry) (blocks : List (List Code)) (V : View) (i : Nat) (lib : ConcreteLibfunc)
    (inv : Invocation) (args : List Ref) (values : List Value) (lowered : Lowered) : Prop :=
  ∃ k b results, lib.operation.eval values = some (b, results) ∧
    (k = 0 → ∀ branch, inv.branches[b]? = some branch →
      (branch.target.resolve i).toNat = i + 1) ∧
    After (assemble blocks) (InBlock blocks i) k
      (Left r blocks i inv lib.signature args lowered V b results)
      (V.at ((Layout.ofBlocks blocks).statementAddress i))

theorem Enters.codeAt (h : Enters r m blocks V n i lib inv args values lowered) :
    CodeAt blocks i ((Layout.ofBlocks blocks).statementAddress i) lowered.code :=
  codeAt_statement h.block

theorem Enters.codeSize (h : Enters r m blocks V n i lib inv args values lowered) :
    (assemble blocks).codeSize ≤ starkPrime :=
  h.loaded.codeSize_le

theorem forall₂_carry {V V' : View} {refs : List Ref} {results : List Value}
    (hmem : V.mem.Keeps V'.mem) (hcells : ∀ ref ∈ refs, ∀ c, ref.Has c → c.Carries V V')
    (h : List.Forall₂ (Ref.Denotes r V) refs results) :
    List.Forall₂ (Ref.Denotes r V') refs results := by
  induction h with
  | nil => exact .nil
  | cons hfirst _ ih =>
    exact .cons (hfirst.carry hmem (hcells _ List.mem_cons_self))
      (ih fun ref href => hcells ref (List.mem_cons_of_mem _ href))

/-- A libfunc without code falls through and leaves `ap` where it is. -/
theorem signature_of_pure (h : Specialized r.libfuncContext lib)
    (hpure : emitsCode lib.operation = false) :
    lib.signature.fallthrough = some 0 ∧
      ∃ bsig, lib.signature.branches[0]? = some bsig ∧ Ap.Moves bsig.ap 0 := by
  cases h with
  | storeTemp | jump | felt252IsZero | functionCall | withdrawGas | constAsBox => cases hpure
  | disableApTracking => exact ⟨rfl, _, rfl, .disable⟩
  | enableApTracking => exact ⟨rfl, _, rfl, .enable⟩
  | _ => exact ⟨rfl, _, rfl, .known 0⟩

theorem Enters.exits_pure (h : Enters r m blocks V n i lib inv args values lowered)
    (hpure : emitsCode lib.operation = false) :
    Exits r blocks V i lib inv args values lowered := by
  obtain ⟨refs, results, hcode, houtputs, heval, hdenotes⟩ :=
    h.lowers.pure_denotes h.types h.sizes h.specialized hpure h.params h.denotes
  obtain ⟨hfallthrough, bsig, hsig, hmoves⟩ := signature_of_pure h.specialized hpure
  obtain ⟨branch, hbranch⟩ := exists_branch h.invocation hsig
  have htarget : ∀ branch, inv.branches[0]? = some branch →
      (branch.target.resolve i).toNat = i + 1 :=
    fun branch hbranch => target_of_fallthrough h.invocation hfallthrough hbranch hsig
  refine ⟨0, 0, results, heval, fun _ => htarget, ?_⟩
  refine ⟨branch, bsig, refs, 0, hbranch, hsig, by rw [houtputs]; rfl, ?_⟩
  have haddress := statementAddress_succ h.block
  rw [hcode] at haddress
  refine ⟨hmoves, le_rfl, ?_, by simp [View.at], rfl, V.mem.keeps_self, fun _ hcarries => ?_⟩
  · rw [htarget branch hbranch, haddress]
    rfl
  · refine forall₂_carry V.mem.keeps_self (fun ref href c hc => ?_) hdenotes
    obtain ⟨arg, harg, hc⟩ := h.lowers.pure_has hpure (by rw [houtputs]; simp) href hc
    exact hcarries arg harg c hc

theorem Enters.exits_jump (h : Enters r m blocks V n i lib inv args values lowered)
    (hlib : lib = { operation := .jump
                    signature :=
                      { params := [], branches := [⟨[], .known 0⟩], fallthrough := none } }) :
    Exits r blocks V i lib inv args values lowered := by
  subst hlib
  have hcode := h.codeAt
  cases h.lowers with
  | jump htarget =>
    obtain ⟨branch, hbranch, rfl⟩ := branchTarget_eq_ok htarget
    cases h.denotes
    refine ⟨1, 0, [], rfl, by simp, ?_⟩
    refine After.jump (hcode.fetch_at h.codeSize) ⟨branch, _, [], 0, hbranch, rfl, rfl, ?_⟩
    exact ⟨.known 0, le_rfl, add_distance _ _, by simp [View.at], rfl, V.mem.keeps_self,
      fun _ _ => .nil⟩

theorem Enters.exits_felt252IsZero {felt nonZero : Ident}
    (h : Enters r m blocks V n i lib inv args values lowered)
    (hlib : lib = { operation := .felt252IsZero
                    signature :=
                      { params := [felt]
                        branches := [⟨[], .known 0⟩, ⟨[nonZero], .known 0⟩]
                        fallthrough := some 0 }
                    type := some felt })
    (hfelt : r.lookupType? { generic := "felt252" } = some felt)
    (hnonZero : r.lookupType? ⟨"NonZero", [.type felt]⟩ = some nonZero) :
    Exits r blocks V i lib inv args values lowered := by
  subst hlib
  have hcode := h.codeAt
  have hblock := h.block
  have hparams := h.params
  have hargs := h.denotes
  cases h.lowers with
  | @felt252IsZero t e condition target hcondition htarget =>
    obtain ⟨branch, hbranch, rfl⟩ := branchTarget_eq_ok htarget
    obtain ⟨branch₀, hbranch₀⟩ := exists_branch h.invocation (b := 0) rfl
    have htarget₀ : (branch₀.target.resolve i).toNat = i + 1 :=
      target_of_fallthrough h.invocation rfl hbranch₀ rfl
    obtain ⟨v, rfl, htype, harg⟩ := denotes_one hparams hargs
    obtain ⟨x, e', rfl, hcells, hx⟩ := harg.word htype (h.types.felt252 hfelt)
    cases hcells
    have hread := stored_eq_ok hcondition hx
    by_cases hzero : x = 0
    · refine ⟨1, 0, [], by simp [Operation.eval, hzero], by simp, ?_⟩
      refine After.jumpNonZero (hcode.fetch_at h.codeSize) hread
        ⟨branch₀, _, [], 0, hbranch₀, rfl, rfl, ?_⟩
      refine ⟨.known 0, le_rfl, ?_, by simp [View.at], rfl, V.mem.keeps_self, fun _ _ => .nil⟩
      rw [htarget₀, statementAddress_succ hblock, if_pos hzero]
      simp [View.at, blockSize, Code.size]
    · refine ⟨1, 1, [.word x], by simp [Operation.eval, hzero], by simp, ?_⟩
      refine After.jumpNonZero (hcode.fetch_at h.codeSize) hread
        ⟨branch, _, _, 0, hbranch, rfl, rfl, ?_⟩
      refine ⟨.known 0, le_rfl, ?_, by simp [View.at], rfl, V.mem.keeps_self,
        fun {after} _ hcarries => .cons ?_ .nil⟩
      · rw [if_neg hzero]
        exact add_distance _ _
      · obtain ⟨ty, inner, hty, hshape, hinner⟩ := h.types.nonZero hnonZero
        obtain ⟨tyFelt, htyFelt, hword⟩ := h.types.felt252 hfelt
        refine ⟨[some x], .nonZero hty hshape
          (Encodes.congr hinner.symm (.word x htyFelt hword)), .cons (fits_some.mpr ?_) .nil⟩
        exact hx.carry V.mem.keeps_self fun c hc =>
          hcarries _ List.mem_cons_self c ⟨e, List.mem_singleton.mpr rfl, hc⟩

theorem Enters.exits_constAsBox {id inner box : Ident} {ty : ConcreteType} {v : Int}
    {segment : Nat} (h : Enters r m blocks V n i lib inv args values lowered)
    (hlib : lib = { operation := .constAsBox v segment, signature := .single [] [box] (.known 1)
                    type := some inner })
    (hty : r.type? id = some ty) (hshape : ty.shape = .const inner v)
    (hbox : r.lookupType? ⟨"Box", [.type inner]⟩ = some box) :
    Exits r blocks V i lib inv args values lowered := by
  subst hlib
  have hcode := h.codeAt
  have hblock := h.block
  have hloaded := h.loaded
  cases h.lowers with
  | constAsBox =>
    obtain ⟨branch, hbranch⟩ := exists_branch h.invocation (b := 0) rfl
    have htarget : (branch.target.resolve i).toNat = i + 1 :=
      target_of_fallthrough h.invocation rfl hbranch rfl
    cases h.denotes
    refine ⟨1, 0, _, rfl, by simp, ?_⟩
    have hpushes : Pushes V top
        (.immediate (Pool.address segment v (Layout.ofBlocks blocks).segments))
        (Felt.ofInt (Pool.address segment v (Layout.ofBlocks blocks).segments)) :=
      pushes_value rfl
    refine After.assertEq (hcode.fetch_at h.codeSize) hpushes.2 fun mem hmem hholds => ?_
    have htop := hpushes.1 hmem hholds
    refine ⟨branch, _, _, 1, hbranch, rfl, rfl, ?_⟩
    refine ⟨.known 1, by decide, ?_, by simp [View.at], rfl, hmem,
      fun {after} hcounts _ => .cons ?_ .nil⟩
    · rw [htarget, statementAddress_succ hblock]
      simp [View.at, blockSize, Code.size, Lowered.single, Res.words]
    · obtain ⟨tyBox, inner', htyBox, hshapeBox, hinner⟩ := h.types.box hbox
      obtain ⟨tyInner, htyInner, hword⟩ := h.types.const hty hshape
      have hstored : Stored mem (Felt.ofInt
          (Pool.address segment v (Layout.ofBlocks blocks).segments)) [some (Felt.ofInt v)] := by
        intro k x hk
        cases k with
        | zero =>
          cases hk
          rw [Nat.cast_zero, add_zero]
          exact hmem (mem_constant hcode.mem hloaded)
        | succ k => cases hk
      refine ⟨[some _], .box htyBox hshapeBox
        (Encodes.congr hinner.symm (.word _ htyInner hword)) hstored,
        .cons (fits_some.mpr (reads_pushed_one hcounts htop)) .nil⟩

theorem View.after_at {p : Casm.Program} {pc pc' k : Nat} {d : Felt} {I Q : State → Prop}
    (hpc : (pc : Felt) + d = (pc' : Felt)) (h : After p I k Q (V.at pc')) :
    After p I k Q { V.at pc with pc := (V.at pc).pc + d } := by
  have hstate : ({ V.at pc with pc := (V.at pc).pc + d } : State) = V.at pc' := by
    rw [View.at, View.at, hpc]
  rwa [hstate]

theorem after_withdrawGas {pc target : Nat} {cell : CellRef} {x : Felt} {Q : State → Prop}
    (hsize : (assemble blocks).codeSize ≤ starkPrime)
    (hcode : CodeAt blocks i pc [.plain (push top (.deref cell)),
      .plain { body := .jumpNonZero (.immediate skipJump) ⟨.ap, -1⟩ }, .jump target])
    (hcell : V.mem (cell.address V.ap V.fp) = some x)
    (hnext : ∀ mem, V.mem.Keeps mem → mem V.ap = some x →
      Q (View.at ⟨V.state.move 1, V.ap + 1, V.fp, mem⟩
        (if x = 0 then (Layout.ofBlocks blocks).statementAddress target else pc + 5))) :
    After (assemble blocks) (InBlock blocks i) (if x = 0 then 3 else 2) Q (V.at pc) := by
  have hpushes : Pushes V top (.deref cell) x := pushes_value hcell
  have hk : (if x = 0 then 3 else 2) = (if x = 0 then 1 else 0) + 1 + 1 := by split <;> rfl
  rw [hk]
  refine after_push hsize hcode hpushes fun mem hmem htop => ?_
  have htest : mem (CellRef.address ⟨.ap, -1⟩ (V.ap + 1) V.fp) = some x := by
    simpa [CellRef.address] using htop
  refine After.jumpNonZero (hcode.tail.fetch_at hsize) htest ?_
  have hQ := hnext mem hmem htop
  by_cases hzero : x = 0
  · have hpc : ((pc + 1 : Nat) : Felt) + (if x = 0 then 2 else Felt.ofInt skipJump) =
        ((pc + 1 + 2 : Nat) : Felt) := by
      rw [if_pos hzero, Nat.cast_add _ 2, Nat.cast_ofNat]
    rw [if_pos hzero] at hQ ⊢
    refine View.after_at hpc (After.jump (hcode.tail.tail.fetch_at hsize) ?_)
    exact View.after_at (add_distance _ _) hQ
  · have hpc : ((pc + 1 : Nat) : Felt) + (if x = 0 then 2 else Felt.ofInt skipJump) =
        ((pc + 1 + 4 : Nat) : Felt) := by
      rw [if_neg hzero, Nat.cast_add _ 4, Felt.ofInt_eq_cast]
      rfl
    rw [if_neg hzero] at hQ ⊢
    exact View.after_at hpc hQ

theorem Enters.exits_withdrawGas {rangeCheck gas : Ident}
    (h : Enters r m blocks V n i lib inv args values lowered)
    (hlib : lib = { operation := .withdrawGas
                    signature :=
                      { params := [rangeCheck, gas]
                        branches := [⟨[rangeCheck, gas], .known 1⟩, ⟨[rangeCheck, gas], .known 1⟩]
                        fallthrough := some 0 } })
    (hgas : r.lookupType? { generic := "GasBuiltin" } = some gas) :
    Exits r blocks V i lib inv args values lowered := by
  subst hlib
  have hcode := h.codeAt
  have hblock := h.block
  have hparams := h.params
  have hargs := h.denotes
  cases h.lowers with
  | @withdrawGas rangeCheck t e cell target hcell htarget =>
    obtain ⟨branch₁, hbranch₁, rfl⟩ := branchTarget_eq_ok htarget
    obtain ⟨branch₀, hbranch₀⟩ := exists_branch h.invocation (b := 0) rfl
    have htarget₀ : (branch₀.target.resolve i).toNat = i + 1 :=
      target_of_fallthrough h.invocation rfl hbranch₀ rfl
    obtain ⟨value, w, rfl, -, htype, hrangeCheck, hcounter⟩ := denotes_two hparams hargs
    obtain ⟨x, e', rfl, hcells, hx⟩ := hcounter.word htype (h.types.gasBuiltin hgas)
    cases hcells
    -- Both branches bind the same references, at the same distance from the copied counter.
    have hresults : ∀ {mem : Memory} {after : ApState}, V.mem.Keeps mem →
        mem V.ap = some x → Ap.Counts V.state after i 1 (.known 1) →
        (∀ arg ∈ [rangeCheck, ⟨t, [e]⟩], ∀ c, arg.Has c →
          c.Carries V ⟨after, V.ap + 1, V.fp, mem⟩) →
        List.Forall₂ (Ref.Denotes r ⟨after, V.ap + 1, V.fp, mem⟩)
          [rangeCheck, ⟨t, [pushed V.state]⟩] [value, .word x] := by
      intro mem after hmem htop hcounts hcarries
      refine .cons (hrangeCheck.carry hmem (hcarries _ List.mem_cons_self)) (.cons ?_ .nil)
      obtain ⟨ty, hty, hword⟩ := h.types.gasBuiltin hgas
      exact ⟨[some x], Encodes.congr htype.symm (.word x hty hword),
        .cons (fits_some.mpr (reads_pushed_one hcounts htop)) .nil⟩
    refine ⟨if x = 0 then 3 else 2, _, _, rfl, by split <;> simp, ?_⟩
    refine after_withdrawGas h.codeSize hcode (stored_eq_ok hcell hx) fun mem hmem htop => ?_
    split
    · refine ⟨branch₁, _, _, 1, hbranch₁, rfl, rfl, ?_⟩
      exact ⟨.known 1, by decide, rfl, rfl, rfl, hmem, hresults hmem htop⟩
    · refine ⟨branch₀, _, _, 1, hbranch₀, rfl, rfl, ?_⟩
      refine ⟨.known 1, by decide, ?_, rfl, rfl, hmem, hresults hmem htop⟩
      rw [htarget₀, statementAddress_succ hblock]
      rfl

theorem fits_pushedAll {s after : ApState} {i : Nat} {cells : Int64} {ap fp : Felt} {mem : Memory}
    {xs : List Felt} (hcounts : Ap.Counts s after i xs.length (.known cells))
    (hlength : xs.length < 2 ^ 63) (hstored : Stored mem ap (xs.map some)) :
    List.Forall₂ (Expr.Fits ⟨after, ap + Felt.ofInt xs.length, fp, mem⟩) (pushedAll s xs.length)
      (xs.map some) := by
  refine List.forall₂_of_length_eq_of_get (by simp [pushedAll]) fun k hk hk' x hx => ?_
  simp only [pushedAll, List.get_eq_getElem, List.getElem_map, List.getElem_range,
    Option.some.injEq] at hx ⊢
  rw [List.length_map] at hk'
  refine reads_pushed hcounts hk' hlength (hstored ?_)
  rw [List.getElem?_map, List.getElem?_eq_getElem hk', hx, Option.map_some]

theorem Enters.exits_storeTemp {id : Ident} {ty : ConcreteType}
    (h : Enters r m blocks V n i lib inv args values lowered)
    (hlib : lib = { operation := .storeTemp, signature := .single [id] [id] (.known ty.info.size)
                    type := some id })
    (hty : r.type? id = some ty) (hstorable : ty.info.storable = true) :
    Exits r blocks V i lib inv args values lowered := by
  subst hlib
  have hcode := h.codeAt
  have hblock := h.block
  have hparams := h.params
  have hargs := h.denotes
  have hwithin : ∀ arg ∈ args, ∀ c, arg.Has c → c.Within V.state ty.info.size.toInt.toNat :=
    h.within (b := 0) rfl rfl
  cases h.lowers with
  | @storeTemp a code hstore =>
    obtain ⟨branch, hbranch⟩ := exists_branch h.invocation (b := 0) rfl
    have htarget : ∀ branch, inv.branches[0]? = some branch →
        (branch.target.resolve i).toNat = i + 1 :=
      fun branch hbranch => target_of_fallthrough h.invocation rfl hbranch rfl
    obtain ⟨v, rfl, htype, ws, hencodes, hfits⟩ := denotes_one hparams hargs
    have hencodes := hencodes.congr htype
    have hsome := hencodes.isSome h.types hty hstorable
    obtain ⟨xs, rfl⟩ : ∃ xs : List Felt, xs.map some = ws :=
      ⟨ws.pmap Option.get hsome, by simp [List.map_pmap]⟩
    have hsize := hencodes.size h.types h.sizes
    rw [Registry.cells_eq hty, List.length_map] at hsize
    have hlength : a.cells.length = xs.length := by simpa using hfits.length_eq
    refine ⟨a.cells.length, 0, _, rfl, fun _ => htarget, ?_⟩
    have hafter := after_storeAll h.codeSize hcode hstore hfits fun e he c hc => by
      have := hwithin a (List.mem_singleton.mpr rfl) c ⟨e, he, hc⟩
      rwa [hsize, Int.toNat_natCast, ← hlength] at this
    refine hafter.mono fun τ hτ => ?_
    obtain ⟨hpc, hap, hfp, hmem, hstored⟩ := hτ
    refine ⟨branch, _, _, ty.info.size.toInt, hbranch, rfl, rfl, ?_⟩
    have hap' : τ.ap = V.ap + Felt.ofInt ty.info.size.toInt := by
      rw [hap, hsize, hlength, Felt.ofInt_eq_cast, Int.cast_natCast]
    refine ⟨.known _, by omega, ?_, hap', hfp, hmem,
      fun {after} hcounts _ => .cons ⟨xs.map some, hencodes.mono hmem, ?_⟩ .nil⟩
    · rw [htarget branch hbranch, statementAddress_succ hblock, hpc]
      rfl
    · rw [hap', hsize, hlength]
      refine fits_pushedAll (by rw [← hsize]; exact hcounts) ?_ hstored
      have := ty.info.size.toInt_lt
      omega

/-- The block of an invocation that is no call takes the branch that the operation takes. -/
theorem Enters.exits (h : Enters r m blocks V n i lib inv args values lowered)
    (hcall : ∀ callee, lib.operation ≠ .functionCall callee) :
    Exits r blocks V i lib inv args values lowered := by
  cases hemits : emitsCode lib.operation with
  | false => exact h.exits_pure hemits
  | true =>
    cases h.specialized with
    | storeTemp hty hstorable => exact h.exits_storeTemp rfl hty hstorable
    | jump => exact h.exits_jump rfl
    | felt252IsZero hfelt hnonZero => exact h.exits_felt252IsZero rfl hfelt hnonZero
    | functionCall => exact absurd rfl (hcall _)
    | withdrawGas _ hgas => exact h.exits_withdrawGas rfl hgas
    | constAsBox _ hty hshape hbox => exact h.exits_constAsBox rfl hty hshape hbox
    | _ => cases hemits

end libfuncs

end SierraCasm.Lowering
