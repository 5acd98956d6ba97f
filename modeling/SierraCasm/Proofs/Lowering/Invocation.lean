import SierraCasm.Proofs.Lowering.Flow
import SierraCasm.Proofs.Lowering.Stores

/-! # What an invocation is lowered to

`Lowers` lists the ways in which an invocation is lowered.  It is read off `lowerInvocation` once
(`lowerInvocation_eq_ok`); what holds of all invocations is proved by cases on it.  First the cells
that the results read (`Lowers.has`), then the libfuncs that emit no code: they fall through, leave
`ap` where it is and bind what their operation gives (`Lowers.pure_denotes`). -/

namespace SierraCasm.Lowering

open Sierra Concrete Casm

/-! ### Inversion -/

/-- The libfunc with signature `sig`, invoked at statement `i` and position `s`, is lowered. -/
inductive Lowers (ctx : Context) (i : Nat) (s : ApState) (sig : Signature) (inv : Invocation) :
    Operation → List Ref → Lowered → Prop
  | felt252Const (v : Int) :
      Lowers ctx i s sig inv (.felt252Const v) [] (.single sig [[.immediate v]])
  | uintConst (v : Int) :
      Lowers ctx i s sig inv (.uintConst v) [] (.single sig [[.immediate v]])
  | constAsImmediate (v : Int) :
      Lowers ctx i s sig inv (.constAsImmediate v) [] (.single sig [[.immediate v]])
  | felt252Binary {op : BinaryOp} {t t' : Ident} {a b e : Expr} : arithmetic op a b = .ok e →
      Lowers ctx i s sig inv (.felt252Binary op) [⟨t, [a]⟩, ⟨t', [b]⟩] (.single sig [[e]])
  | storeTemp {a : Ref} {code : List Instruction} : storeAll s a.cells = .ok code →
      Lowers ctx i s sig inv .storeTemp [a]
        (.single sig [pushedAll s a.cells.length] (code.map .plain))
  | rename (a : Ref) : Lowers ctx i s sig inv .rename [a] (.single sig [a.cells])
  | uintToFelt252 (a : Ref) : Lowers ctx i s sig inv .uintToFelt252 [a] (.single sig [a.cells])
  | unwrapNonZero (a : Ref) : Lowers ctx i s sig inv .unwrapNonZero [a] (.single sig [a.cells])
  | dup (a : Ref) : Lowers ctx i s sig inv .dup [a] (.single sig [a.cells, a.cells])
  | drop (a : Ref) : Lowers ctx i s sig inv .drop [a] { outputs := [[]] }
  | branchAlign : Lowers ctx i s sig inv .branchAlign [] { outputs := [[]] }
  | disableApTracking : Lowers ctx i s sig inv .disableApTracking [] { outputs := [[]] }
  | enableApTracking : Lowers ctx i s sig inv .enableApTracking [] { outputs := [[]] }
  | jump {target : Nat} : branchTarget inv i 0 = .ok target →
      Lowers ctx i s sig inv .jump [] { code := [.jump target], outputs := [[]] }
  | felt252IsZero {t : Ident} {e : Expr} {condition : CellRef} {target : Nat} :
      stored e s = .ok condition → branchTarget inv i 1 = .ok target →
      Lowers ctx i s sig inv .felt252IsZero [⟨t, [e]⟩]
        { code := [.jumpNonZero target condition]
          outputs := [[], List.zipWith Ref.mk (sig.outputs 1) [[e]]] }
  | functionCall {callee : Function} {args : List Ref} {sized : List (Ident × Nat)}
      {after : ApState} : checkOnTop s .callArguments args = .ok () →
      withSizes ctx.registry (sig.outputs 0) = .ok sized →
      ctx.metadata.branchState? i 0 = some after →
      Lowers ctx i s sig inv (.functionCall callee) args
        { code := [.call callee.entry.toNat]
          outputs := [place (.ap after.epoch) (after.offset - totalCells sized) sized] }
  | withdrawGas {rangeCheck : Ref} {t : Ident} {e : Expr} {cell : CellRef} {target : Nat} :
      stored e s = .ok cell → branchTarget inv i 1 = .ok target →
      Lowers ctx i s sig inv .withdrawGas [rangeCheck, ⟨t, [e]⟩]
        { code :=
            [.plain (push top (.deref cell)),
             .plain { body := .jumpNonZero (.immediate skipJump) ⟨.ap, -1⟩ },
             .jump target]
          outputs := [[rangeCheck, ⟨t, [pushed s]⟩], [rangeCheck, ⟨t, [pushed s]⟩]] }
  | structConstruct (args : List Ref) :
      Lowers ctx i s sig inv .structConstruct args (.single sig [cellsOf args])
  | structDeconstruct {a : Ref} {sized : List (Ident × Nat)} {refs : List Ref} :
      withSizes ctx.registry (sig.outputs 0) = .ok sized → split a.cells sized = .ok refs →
      Lowers ctx i s sig inv .structDeconstruct [a] { outputs := [refs] }
  | unbox {contents t : Ident} {c : Cell} {size : Nat} :
      cellCount ctx.registry contents = .ok size →
      Lowers ctx i s sig inv (.unbox contents) [⟨t, [.deref c]⟩]
        (.single sig [(List.range size).map fun k => .doubleDeref c (.ofNat k)])
  | constAsBox (v : Int) (segment : Nat) :
      Lowers ctx i s sig inv (.constAsBox v segment) []
        (.single sig [[pushed s]] [.constAddress segment v])

section inversion

variable {ctx : Context} {i : Nat} {s : ApState} {sig : Signature} {inv : Invocation}
  {lowered : Lowered}

theorem lowers_storeTemp {a : Ref} (h : lowerStoreTemp s sig a.cells = .ok lowered) :
    Lowers ctx i s sig inv .storeTemp [a] lowered := by
  obtain ⟨code, hcode, h⟩ := bind_eq_ok.mp h
  cases h
  exact .storeTemp (mapError_eq_ok.mp hcode)

theorem lowers_felt252IsZero {t : Ident} {e : Expr}
    (h : lowerIsZero i s sig inv e = .ok lowered) :
    Lowers ctx i s sig inv .felt252IsZero [⟨t, [e]⟩] lowered := by
  obtain ⟨condition, hcondition, h⟩ := bind_eq_ok.mp h
  obtain ⟨target, htarget, h⟩ := bind_eq_ok.mp h
  cases h
  exact .felt252IsZero (mapError_eq_ok.mp hcondition) htarget

theorem lowers_functionCall {callee : Function} {args : List Ref}
    (h : lowerCall ctx i s sig callee args = .ok lowered) :
    Lowers ctx i s sig inv (.functionCall callee) args lowered := by
  obtain ⟨⟨⟩, htop, h⟩ := bind_eq_ok.mp h
  obtain ⟨sized, hsized, h⟩ := bind_eq_ok.mp h
  obtain ⟨⟨⟩, -, h⟩ := bind_eq_ok.mp h
  split at h
  · cases h
  · rename_i after hafter
    cases h
    exact .functionCall htop hsized hafter

theorem lowers_withdrawGas {rangeCheck : Ref} {t : Ident} {e : Expr}
    (h : lowerWithdrawGas i s inv rangeCheck ⟨t, [e]⟩ e = .ok lowered) :
    Lowers ctx i s sig inv .withdrawGas [rangeCheck, ⟨t, [e]⟩] lowered := by
  obtain ⟨cell, hcell, h⟩ := bind_eq_ok.mp h
  obtain ⟨target, htarget, h⟩ := bind_eq_ok.mp h
  cases h
  exact .withdrawGas (mapError_eq_ok.mp hcell) htarget

theorem lowers_structConstruct {args : List Ref} (h : lowerConstruct sig args = .ok lowered) :
    Lowers ctx i s sig inv .structConstruct args lowered := by
  obtain ⟨⟨⟩, -, h⟩ := bind_eq_ok.mp h
  cases h
  exact .structConstruct args

theorem lowers_structDeconstruct {a : Ref}
    (h : lowerDeconstruct ctx.registry sig a.cells = .ok lowered) :
    Lowers ctx i s sig inv .structDeconstruct [a] lowered := by
  obtain ⟨sized, hsized, h⟩ := bind_eq_ok.mp h
  obtain ⟨refs, hrefs, h⟩ := bind_eq_ok.mp h
  cases h
  exact .structDeconstruct hsized hrefs

theorem lowers_unbox {contents t : Ident} {e : Expr}
    (h : lowerUnbox ctx.registry s sig contents e = .ok lowered) :
    Lowers ctx i s sig inv (.unbox contents) [⟨t, [e]⟩] lowered := by
  obtain ⟨-, -, h⟩ := bind_eq_ok.mp h
  obtain ⟨size, hsize, h⟩ := bind_eq_ok.mp h
  obtain ⟨⟨⟩, -, h⟩ := bind_eq_ok.mp h
  split at h
  · cases h
    exact .unbox hsize
  · cases h

/-- Invocations are lowered in the listed ways only. -/
theorem lowerInvocation_eq_ok {lib : ConcreteLibfunc} {args : List Ref}
    (h : lowerInvocation ctx i s lib inv args = .ok lowered) :
    Lowers ctx i s lib.signature inv lib.operation args lowered := by
  unfold lowerInvocation at h
  dsimp only at h
  split at h <;> rename_i hop <;> first | rw [hop] | skip
  · cases h; exact .felt252Const _
  · cases h; exact .uintConst _
  · cases h; exact .constAsImmediate _
  · obtain ⟨e, he, h⟩ := bind_eq_ok.mp h
    cases h
    exact .felt252Binary (mapError_eq_ok.mp he)
  · exact lowers_storeTemp h
  · cases h; exact .rename _
  · cases h; exact .uintToFelt252 _
  · cases h; exact .unwrapNonZero _
  · cases h; exact .dup _
  · cases h; exact .drop _
  · cases h; exact .branchAlign
  · cases h; exact .disableApTracking
  · cases h; exact .enableApTracking
  · obtain ⟨target, htarget, h⟩ := bind_eq_ok.mp h
    cases h
    exact .jump htarget
  · exact lowers_felt252IsZero h
  · exact lowers_functionCall h
  · exact lowers_withdrawGas h
  · exact lowers_structConstruct h
  · exact lowers_structDeconstruct h
  · exact lowers_unbox h
  · cases h; exact .constAsBox _ _
  · cases h

end inversion

/-! ### The cells that results read -/

theorem has_of_mem_zipWith {types : List Ident} {cells : List (List Expr)} {ref : Ref} {c : Cell}
    (href : ref ∈ List.zipWith Ref.mk types cells) (hc : ref.Has c) :
    ∃ es ∈ cells, ∃ e ∈ es, c ∈ e.locations := by
  obtain ⟨k, hk⟩ := List.getElem?_of_mem href
  rw [List.getElem?_zipWith_eq_some] at hk
  obtain ⟨type, es, -, hes, rfl⟩ := hk
  exact ⟨es, List.mem_of_getElem? hes, hc⟩

theorem has_of_mem_split {cells : List Expr} {sized : List (Ident × Nat)} {refs : List Ref}
    (h : split cells sized = .ok refs) : ∀ ref ∈ refs, ∀ e ∈ ref.cells, e ∈ cells := by
  induction sized generalizing cells refs with
  | nil =>
    cases h
    simp
  | cons x sized ih =>
    unfold split at h
    split at h
    · obtain ⟨refs', hsplit, h⟩ := bind_eq_ok.mp h
      cases h
      intro ref href e he
      rcases List.mem_cons.mp href with rfl | href
      · exact List.mem_of_mem_take he
      · exact List.mem_of_mem_drop (ih hsplit ref href e he)
    · cases h

theorem has_of_mem_place {cell : Int64 → Cell} {position : Int64} {sized : List (Ident × Nat)}
    {ref : Ref} {c : Cell} (href : ref ∈ place cell position sized) (hc : ref.Has c) :
    ∃ k < sized.foldr (·.2 + ·) 0, c = cell (position + .ofNat k) := by
  induction sized generalizing position with
  | nil => cases href
  | cons x sized ih =>
    rw [List.foldr_cons]
    rcases List.mem_cons.mp href with rfl | href
    · obtain ⟨e, he, hc⟩ := hc
      obtain ⟨k, hk, rfl⟩ := List.mem_map.mp he
      rw [List.mem_range] at hk
      exact ⟨k, by omega, List.mem_singleton.mp hc⟩
    · obtain ⟨k, hk, rfl⟩ := ih href
      refine ⟨x.2 + k, by omega, ?_⟩
      rw [Int64.ofNat_add, Int64.add_assoc]

/-- The libfuncs that emit code. -/
def emitsCode : Operation → Bool
  | .storeTemp | .jump | .felt252IsZero | .functionCall _ | .withdrawGas | .constAsBox _ _ => true
  | _ => false

/-- The number of cells that a libfunc pushes. -/
def pushCount : Operation → List Ref → Nat
  | .storeTemp, [a] => a.cells.length
  | .withdrawGas, _ | .constAsBox _ _, _ => 1
  | _, _ => 0

/-- The stack cells that an invocation at statement `i` and position `s` writes for its branch `b`:
those that it pushes, or, after a call, the cells right below `ap`. -/
inductive Fresh (ctx : Context) (i b : Nat) (s : ApState) (sig : Signature) (op : Operation)
    (args : List Ref) : Cell → Prop
  | pushed {k : Nat} : k < pushCount op args →
      Fresh ctx i b s sig op args (.ap s.epoch (s.offset + .ofNat k))
  | result {callee : Function} {sized : List (Ident × Nat)} {after : ApState} {k : Nat} :
      op = .functionCall callee → withSizes ctx.registry (sig.outputs 0) = .ok sized →
      ctx.metadata.branchState? i b = some after → k < sized.foldr (·.2 + ·) 0 →
      Fresh ctx i b s sig op args (.ap after.epoch (after.offset - totalCells sized + .ofNat k))

namespace Lowers

variable {ctx : Context} {i : Nat} {s : ApState} {sig : Signature} {inv : Invocation}
  {op : Operation} {args : List Ref} {lowered : Lowered} {refs : List Ref} {ref : Ref} {c : Cell}

/-- The results of a libfunc without code read cells of its arguments. -/
theorem pure_has (h : Lowers ctx i s sig inv op args lowered) (hpure : emitsCode op = false)
    (hrefs : refs ∈ lowered.outputs) (href : ref ∈ refs) (hc : ref.Has c) :
    ∃ arg ∈ args, arg.Has c := by
  cases h with
  | storeTemp | jump | felt252IsZero | functionCall | withdrawGas | constAsBox => cases hpure
  | drop | branchAlign | disableApTracking | enableApTracking =>
    cases List.mem_singleton.mp hrefs
    cases href
  | structDeconstruct _ hsplit =>
    cases List.mem_singleton.mp hrefs
    obtain ⟨e, he, hc⟩ := hc
    exact ⟨_, List.mem_singleton.mpr rfl, e, has_of_mem_split hsplit ref href e he, hc⟩
  | felt252Const | uintConst | constAsImmediate =>
    cases List.mem_singleton.mp hrefs
    obtain ⟨es, hes, e, he, hc⟩ := has_of_mem_zipWith href hc
    cases List.mem_singleton.mp hes
    cases List.mem_singleton.mp he
    cases hc
  | felt252Binary harithmetic =>
    cases List.mem_singleton.mp hrefs
    obtain ⟨es, hes, e, he, hc⟩ := has_of_mem_zipWith href hc
    cases List.mem_singleton.mp hes
    cases List.mem_singleton.mp he
    rcases arithmetic_locations harithmetic c hc with hc | hc
    · exact ⟨_, List.mem_cons_self, _, List.mem_singleton.mpr rfl, hc⟩
    · exact ⟨_, List.mem_cons_of_mem _ List.mem_cons_self, _, List.mem_singleton.mpr rfl, hc⟩
  | rename a | uintToFelt252 a | unwrapNonZero a =>
    cases List.mem_singleton.mp hrefs
    obtain ⟨es, hes, hc⟩ := has_of_mem_zipWith href hc
    cases List.mem_singleton.mp hes
    exact ⟨a, List.mem_singleton.mpr rfl, hc⟩
  | dup a =>
    cases List.mem_singleton.mp hrefs
    obtain ⟨es, hes, hc⟩ := has_of_mem_zipWith href hc
    obtain rfl : es = a.cells := by simpa using hes
    exact ⟨a, List.mem_singleton.mpr rfl, hc⟩
  | structConstruct =>
    cases List.mem_singleton.mp hrefs
    obtain ⟨es, hes, e, he, hc⟩ := has_of_mem_zipWith href hc
    cases List.mem_singleton.mp hes
    obtain ⟨arg, harg, he⟩ := List.mem_flatMap.mp he
    exact ⟨arg, harg, e, he, hc⟩
  | unbox =>
    cases List.mem_singleton.mp hrefs
    obtain ⟨es, hes, e, he, hc⟩ := has_of_mem_zipWith href hc
    cases List.mem_singleton.mp hes
    obtain ⟨k, -, rfl⟩ := List.mem_map.mp he
    exact ⟨_, List.mem_singleton.mpr rfl, _, List.mem_singleton.mpr rfl, hc⟩

/-- The results of an invocation read cells of its arguments or cells that it writes. -/
theorem has {b : Nat} (h : Lowers ctx i s sig inv op args lowered)
    (hrefs : lowered.outputs[b]? = some refs) (href : ref ∈ refs) (hc : ref.Has c) :
    (∃ arg ∈ args, arg.Has c) ∨ Fresh ctx i b s sig op args c := by
  have hmem := List.mem_of_getElem? hrefs
  have hpushed : 0 < pushCount op args → c ∈ (pushed s).locations →
      Fresh ctx i b s sig op args c := by
    intro hpos hc
    have hzero : s.offset + .ofNat 0 = s.offset := Int64.add_zero _
    rw [List.mem_singleton.mp hc, ← hzero]
    exact .pushed hpos
  cases hop : emitsCode op with
  | false => exact .inl (h.pure_has hop hmem href hc)
  | true =>
    cases h with
    | jump =>
      cases List.mem_singleton.mp hmem
      cases href
    | storeTemp =>
      cases List.mem_singleton.mp hmem
      obtain ⟨es, hes, e, he, hc⟩ := has_of_mem_zipWith href hc
      cases List.mem_singleton.mp hes
      obtain ⟨k, hk, rfl⟩ := List.mem_map.mp he
      rw [List.mem_singleton.mp hc]
      exact .inr (.pushed (List.mem_range.mp hk))
    | constAsBox =>
      cases List.mem_singleton.mp hmem
      obtain ⟨es, hes, e, he, hc⟩ := has_of_mem_zipWith href hc
      cases List.mem_singleton.mp hes
      cases List.mem_singleton.mp he
      exact .inr (hpushed Nat.one_pos hc)
    | felt252IsZero =>
      rcases List.mem_cons.mp hmem with rfl | hmem
      · cases href
      · cases List.mem_singleton.mp hmem
        obtain ⟨es, hes, hc⟩ := has_of_mem_zipWith href hc
        cases List.mem_singleton.mp hes
        exact .inl ⟨_, List.mem_singleton.mpr rfl, hc⟩
    | functionCall _ hsized hafter =>
      obtain ⟨hb, hget⟩ := List.getElem?_eq_some_iff.mp hrefs
      obtain rfl : b = 0 := by simpa using hb
      cases hget
      obtain ⟨k, hk, rfl⟩ := has_of_mem_place href hc
      exact .inr (.result rfl hsized hafter hk)
    | @withdrawGas rangeCheck t =>
      have href : ref = rangeCheck ∨ ref = ⟨t, [pushed s]⟩ := by
        simp only [List.mem_cons, List.not_mem_nil, or_false, or_self] at hmem
        subst hmem
        simpa using href
      rcases href with rfl | rfl
      · exact .inl ⟨ref, List.mem_cons_self, hc⟩
      · obtain ⟨e, he, hc⟩ := hc
        cases List.mem_singleton.mp he
        exact .inr (hpushed Nat.one_pos hc)
    | _ => cases hop

end Lowers

/-! ### Values by type -/

section values

variable {r : Registry} {V : View}

theorem fits_some {e : Expr} {x : Felt} : e.Fits V (some x) ↔ e.Denotes V x :=
  ⟨fun h => h rfl, fun h _ hx => by cases hx; exact h⟩

theorem denotes_one {a : Ref} {id : Ident} {values : List Value}
    (hparams : List.Forall₂ (fun (ref : Ref) (type : Ident) => ref.type.id = type.id) [a] [id])
    (hargs : List.Forall₂ (Ref.Denotes r V) [a] values) :
    ∃ v, values = [v] ∧ a.type.id = id.id ∧ a.Denotes r V v := by
  obtain ⟨v, rest, ha, hrest, rfl⟩ := List.forall₂_cons_left_iff.mp hargs
  obtain rfl := List.forall₂_nil_left_iff.mp hrest
  exact ⟨v, rfl, (List.forall₂_cons.mp hparams).1, ha⟩

theorem denotes_two {a b : Ref} {id id' : Ident} {values : List Value}
    (hparams : List.Forall₂ (fun (ref : Ref) (type : Ident) => ref.type.id = type.id) [a, b]
      [id, id'])
    (hargs : List.Forall₂ (Ref.Denotes r V) [a, b] values) :
    ∃ v w, values = [v, w] ∧ a.type.id = id.id ∧ b.type.id = id'.id ∧ a.Denotes r V v ∧
      b.Denotes r V w := by
  obtain ⟨v, rest, ha, hrest, rfl⟩ := List.forall₂_cons_left_iff.mp hargs
  obtain ⟨hta, hparams⟩ := List.forall₂_cons.mp hparams
  obtain ⟨w, rfl, htb, hb⟩ := denotes_one hparams hrest
  exact ⟨v, w, rfl, hta, htb, ha, hb⟩

theorem Ref.Denotes.retype {ref : Ref} {v : Value} {id : Ident} (hid : ref.type.id = id.id)
    (h : ref.Denotes r V v) : Ref.Denotes r V ⟨id, ref.cells⟩ v := by
  obtain ⟨ws, hencodes, hfits⟩ := h
  exact ⟨ws, hencodes.congr hid, hfits⟩

theorem denotes_word {id : Ident} {e : Expr} {x : Felt}
    (hid : ∃ ty, r.type? id = some ty ∧ ty.shape.isWord = true) (he : e.Denotes V x) :
    Ref.Denotes r V ⟨id, [e]⟩ (.word x) := by
  obtain ⟨ty, hty, hshape⟩ := hid
  exact ⟨[some x], .word x hty hshape, .cons (fits_some.mpr he) .nil⟩

theorem Ref.Denotes.word {ref : Ref} {v : Value} {id : Ident} (h : ref.Denotes r V v)
    (htype : ref.type.id = id.id) (hid : ∃ ty, r.type? id = some ty ∧ ty.shape.isWord = true) :
    ∃ x e, v = .word x ∧ ref.cells = [e] ∧ e.Denotes V x := by
  obtain ⟨ty, hty, hshape⟩ := hid
  obtain ⟨ws, hencodes, hfits⟩ := h
  obtain ⟨x, rfl, rfl⟩ := (hencodes.congr htype).of_isWord hty hshape
  obtain ⟨e, l, he, hl, hcells⟩ := List.forall₂_cons_right_iff.mp hfits
  rw [List.forall₂_nil_right_iff.mp hl] at hcells
  exact ⟨x, e, rfl, hcells, fits_some.mp he⟩

theorem Ref.Denotes.unbox (htypes : r.TypesValid) (hsizes : r.SizesExact) {t id box : Ident}
    {c : Cell} {v : Value} {size : Nat} (h : Ref.Denotes r V ⟨t, [.deref c]⟩ v)
    (htype : t.id = box.id) (hbox : r.lookupType? ⟨"Box", [.type id]⟩ = some box)
    (hsize : cellCount r id = .ok size) :
    ∃ v', v = .box v' ∧
      Ref.Denotes r V ⟨id, (List.range size).map fun k => .doubleDeref c (.ofNat k)⟩ v' := by
  obtain ⟨ty, inner, hty, hshape, hinner⟩ := htypes.box hbox
  obtain ⟨ws, hencodes, hfits⟩ := h
  obtain ⟨v', ws', a, rfl, rfl, hcontents, hstored⟩ := (hencodes.congr htype).of_box hty hshape
  rw [List.forall₂_cons] at hfits
  have ha : c.Reads V a := fits_some.mp hfits.1
  have hcells : r.cells id = size := cellCount_eq_ok hsize
  have hlength : ws'.length = size := by
    have hlength := (hcontents.congr hinner).size htypes hsizes
    omega
  refine ⟨v', rfl, ws', hcontents.congr hinner, ?_⟩
  refine List.forall₂_of_length_eq_of_get (by simp [hlength]) fun k hk hk' x hx => ?_
  simp only [List.get_eq_getElem, List.getElem_map, List.getElem_range] at hx ⊢
  refine ⟨a, ha, ?_⟩
  have hlt : size < 2 ^ 63 := by
    have hle : ((r.size? id).map Int64.toInt).getD 0 < 2 ^ 63 := by
      cases r.size? id with
      | none => simp
      | some n => exact n.toInt_lt
    rw [Registry.cells] at hcells
    omega
  rw [← Int64.ofInt_eq_ofNat, Int64.toInt_ofInt_of_le (by omega) (by omega)]
  exact hstored (by rw [List.getElem?_eq_getElem hk', hx])

end values

/-! ### Libfuncs without code -/

/-- A libfunc without code binds what its operation gives. -/
theorem Lowers.pure_denotes {r : Registry} {m : Metadata} {V : View} {i : Nat} {s : ApState}
    {lib : ConcreteLibfunc} {inv : Invocation} {args : List Ref} {values : List Value}
    {lowered : Lowered} (htypes : r.TypesValid) (hsizes : r.SizesExact)
    (hlib : Specialized r.libfuncContext lib)
    (h : Lowers ⟨r, m⟩ i s lib.signature inv lib.operation args lowered)
    (hpure : emitsCode lib.operation = false)
    (hparams : List.Forall₂ (fun (ref : Ref) (type : Ident) => ref.type.id = type.id) args
      lib.signature.params)
    (hargs : List.Forall₂ (Ref.Denotes r V) args values) :
    ∃ refs results, lowered.code = [] ∧ lowered.outputs = [refs] ∧
      lib.operation.eval values = some (0, results) ∧
      List.Forall₂ (Ref.Denotes r V) refs results := by
  cases hlib with
  | storeTemp | jump | felt252IsZero | functionCall | withdrawGas | constAsBox => cases hpure
  | branchAlign | disableApTracking | enableApTracking =>
    cases h
    cases hargs
    exact ⟨_, _, rfl, rfl, rfl, .nil⟩
  | felt252Const _ hfelt =>
    cases h
    cases hargs
    exact ⟨_, _, rfl, rfl, rfl, .cons (denotes_word (htypes.felt252 hfelt) rfl) .nil⟩
  | uintConst hbits _ huint =>
    cases h
    cases hargs
    exact ⟨_, _, rfl, rfl, rfl, .cons (denotes_word (htypes.uint hbits huint) rfl) .nil⟩
  | constAsImmediate hty hshape =>
    cases h
    cases hargs
    exact ⟨_, _, rfl, rfl, rfl, .cons (denotes_word (htypes.const hty hshape) rfl) .nil⟩
  | felt252Binary op hfelt =>
    cases h with
    | felt252Binary harithmetic =>
      obtain ⟨v, w, rfl, hta, htb, ha, hb⟩ := denotes_two hparams hargs
      obtain ⟨x, a, rfl, hcells, hx⟩ := ha.word hta (htypes.felt252 hfelt)
      obtain ⟨y, b, rfl, hcells', hy⟩ := hb.word htb (htypes.felt252 hfelt)
      cases hcells
      cases hcells'
      exact ⟨_, _, rfl, rfl, rfl,
        .cons (denotes_word (htypes.felt252 hfelt) (arithmetic_denotes harithmetic hx hy)) .nil⟩
  | rename =>
    cases h with
    | rename a =>
      obtain ⟨v, rfl, hta, ha⟩ := denotes_one hparams hargs
      exact ⟨_, _, rfl, rfl, rfl, .cons (ha.retype hta) .nil⟩
  | uintToFelt252 hbits huint hfelt =>
    cases h with
    | uintToFelt252 a =>
      obtain ⟨v, rfl, hta, ha⟩ := denotes_one hparams hargs
      obtain ⟨x, e, rfl, hcells, hx⟩ := ha.word hta (htypes.uint hbits huint)
      refine ⟨_, _, rfl, rfl, rfl, .cons ?_ .nil⟩
      rw [hcells]
      exact denotes_word (htypes.felt252 hfelt) hx
  | drop =>
    cases h with
    | drop a =>
      obtain ⟨v, rfl, -, -⟩ := denotes_one hparams hargs
      exact ⟨_, _, rfl, rfl, rfl, .nil⟩
  | dup =>
    cases h with
    | dup a =>
      obtain ⟨v, rfl, hta, ha⟩ := denotes_one hparams hargs
      exact ⟨_, _, rfl, rfl, rfl, .cons (ha.retype hta) (.cons (ha.retype hta) .nil)⟩
  | structConstruct hty hshape =>
    cases h
    obtain ⟨ws, hencodes, hfits⟩ := encodesAll_of_denotes hparams hargs
    exact ⟨_, _, rfl, rfl, rfl, .cons ⟨ws, .struct hty hshape hencodes, hfits⟩ .nil⟩
  | structDeconstruct hty hshape =>
    cases h with
    | structDeconstruct hsized hsplit =>
      obtain ⟨v, rfl, hta, ws, hencodes, hfits⟩ := denotes_one hparams hargs
      obtain ⟨vs, rfl, hall⟩ := (hencodes.congr hta).of_struct hty hshape
      exact ⟨_, vs, rfl, rfl, rfl,
        split_denotes htypes hsizes (withSizes_eq_ok hsized) hall hfits hsplit⟩
  | unbox hty hbox =>
    cases h with
    | unbox hsize =>
      obtain ⟨_, rfl, hta, ha⟩ := denotes_one hparams hargs
      obtain ⟨v, rfl, hv⟩ := ha.unbox htypes hsizes hta hbox hsize
      exact ⟨_, _, rfl, rfl, rfl, .cons hv .nil⟩
  | unwrapNonZero hty hnonZero =>
    cases h with
    | unwrapNonZero a =>
      obtain ⟨v, rfl, hta, ws, hencodes, hfits⟩ := denotes_one hparams hargs
      obtain ⟨ty', inner, hty', hshape, hinner⟩ := htypes.nonZero hnonZero
      have hinside := ((hencodes.congr hta).of_nonZero hty' hshape).congr hinner
      exact ⟨_, _, rfl, rfl, rfl, .cons ⟨ws, hinside, hfits⟩ .nil⟩

end SierraCasm.Lowering
