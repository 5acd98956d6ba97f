import Mathlib.Data.Option.Basic
import SierraCasm.Proofs.Lowering.Bindings
import SierraCasm.Proofs.Lowering.Encoding

/-! # What references mean

At a moment of a run (a `View`: a position of `ap`, the registers and memory) an expression denotes
an element of the field, a reference a value and an environment a store.  A cell of an epoch that is
over says nothing.  Two things make what an environment denotes last: memory only grows, and a cell
keeps its address, or loses its epoch, when `ap` moves (`Cell.Carries`). -/

namespace SierraCasm.Lowering

open Sierra Concrete Casm

/-! ### Expressions -/

/-- A moment of a run. -/
structure View where
  state : ApState
  ap : Felt
  fp : Felt
  mem : Memory

/-- A stack cell can be addressed within its epoch, by its distance from `ap`. -/
theorem Cell.at?_ap_eq_some {epoch : Nat} {position : Int64} {s : ApState} {ref : CellRef} :
    (Cell.ap epoch position).at? s = some ref ↔
      epoch = s.epoch ∧ ref = ⟨.ap, position - s.offset⟩ := by
  rw [Cell.at?, Option.ite_none_right_eq_some, Option.some.injEq]
  exact and_congr_right fun _ => eq_comm

/-- The cell, unless its epoch is over, holds `x`. -/
def Cell.Reads (V : View) (c : Cell) (x : Felt) : Prop :=
  ∀ ⦃ref : CellRef⦄, c.at? V.state = some ref → V.mem (ref.address V.ap V.fp) = some x

def Operand.Reads (V : View) : Operand → Felt → Prop
  | .cell c, x => c.Reads V x
  | .immediate v, x => Felt.ofInt v = x

namespace Expr

/-- The value of an expression is `x`. -/
def Denotes (V : View) : Expr → Felt → Prop
  | .deref c, x => c.Reads V x
  | .doubleDeref c offset, x => ∃ a, c.Reads V a ∧ V.mem (a + Felt.ofInt offset.toInt) = some x
  | .immediate v, x => Felt.ofInt v = x
  | .binary op left right, x => ∃ y z, left.Reads V y ∧ right.Reads V z ∧ op.apply y z = x
  | .lost, _ => True

/-- The expression has the value of a word, if the word has one. -/
def Fits (V : View) (e : Expr) (w : Option Felt) : Prop := ∀ ⦃x : Felt⦄, w = some x → e.Denotes V x

/-- The cells that an expression reads. -/
def locations : Expr → List Cell
  | .deref c => [c]
  | .doubleDeref c _ => [c]
  | .immediate _ => []
  | .binary _ left (.cell right) => [left, right]
  | .binary _ left (.immediate _) => [left]
  | .lost => []

end Expr

/-! ### From one moment to the next -/

/-- What a cell holds at `V` it holds at `V'`. -/
def Cell.Carries (V V' : View) (c : Cell) : Prop := ∀ ⦃x : Felt⦄, c.Reads V x → c.Reads V' x

section carries

variable {V V' : View}

theorem Expr.Denotes.carry {e : Expr} {x : Felt} (hmem : V.mem.Keeps V'.mem)
    (hcells : ∀ c ∈ e.locations, c.Carries V V') (h : e.Denotes V x) : e.Denotes V' x := by
  cases e with
  | deref c => exact hcells c (List.mem_singleton.mpr rfl) h
  | doubleDeref c offset =>
    obtain ⟨a, ha, hx⟩ := h
    exact ⟨a, hcells c (List.mem_singleton.mpr rfl) ha, hmem hx⟩
  | immediate v => exact h
  | binary op left right =>
    obtain ⟨y, z, hy, hz, hx⟩ := h
    cases right with
    | cell right =>
      exact ⟨y, z, hcells left (by simp [Expr.locations]) hy,
        hcells right (by simp [Expr.locations]) hz, hx⟩
    | immediate v => exact ⟨y, z, hcells left (by simp [Expr.locations]) hy, hz, hx⟩
  | lost => trivial

theorem Cell.carries_of_keeps {c : Cell} (hstate : V'.state = V.state) (hap : V'.ap = V.ap)
    (hfp : V'.fp = V.fp) (hmem : V.mem.Keeps V'.mem) : c.Carries V V' := by
  intro x h ref href
  rw [hstate] at href
  rw [hap, hfp]
  exact hmem (h href)

theorem Cell.carries_fp {offset : Int64} (hfp : V'.fp = V.fp) (hmem : V.mem.Keeps V'.mem) :
    Cell.Carries V V' (.fp offset) := by
  intro x h ref href
  cases href
  have := hmem (h rfl)
  simpa only [CellRef.address, hfp] using this

theorem Cell.carries_of_epoch {epoch : Nat} {position : Int64} (hepoch : epoch ≠ V'.state.epoch) :
    Cell.Carries V V' (.ap epoch position) := by
  intro x h ref href
  exact absurd (Cell.at?_ap_eq_some.mp href).1 hepoch

/-- A cell keeps its address where `ap` moves by `d` within an epoch. -/
theorem Cell.carries_of_move {epoch : Nat} {position : Int64} {d : Int}
    (hmem : V.mem.Keeps V'.mem) (hepoch : V'.state.epoch = V.state.epoch)
    (hap : V'.ap = V.ap + Felt.ofInt d)
    (hdistance : epoch = V.state.epoch →
      (position - V'.state.offset).toInt = (position - V.state.offset).toInt - d) :
    Cell.Carries V V' (.ap epoch position) := by
  intro x h ref href
  obtain ⟨heq, rfl⟩ := Cell.at?_ap_eq_some.mp href
  rw [hepoch] at heq
  have hread := hmem (h (Cell.at?_ap_eq_some.mpr ⟨heq, rfl⟩))
  simp only [CellRef.address] at hread ⊢
  rw [hap, hdistance heq, ← hread]
  congr 1
  simp only [Felt.ofInt_eq_cast, Int.cast_sub]
  ring

end carries

/-! ### References and environments -/

/-- A reference has a cell. -/
def Ref.Has (ref : Ref) (c : Cell) : Prop := ∃ e ∈ ref.cells, c ∈ e.locations

def Env.Has (env : Env) (c : Cell) : Prop := ∃ v ref, env.find? v = some ref ∧ ref.Has c

/-- The value of a reference is `v`. -/
def Ref.Denotes (r : Registry) (V : View) (ref : Ref) (v : Value) : Prop :=
  ∃ ws, Encodes r V.mem ref.type v ws ∧ List.Forall₂ (Expr.Fits V) ref.cells ws

/-- The variables of an environment are those of a store, with their values. -/
def Env.Denotes (r : Registry) (V : View) (env : Env) (store : Store) : Prop :=
  ∀ v, Option.Rel (Ref.Denotes r V) (env.find? v) (store v)

variable {r : Registry} {V V' : View}

theorem fits_carry {cells : List Expr} {ws : List (Option Felt)} (hmem : V.mem.Keeps V'.mem)
    (hcells : ∀ e ∈ cells, ∀ c ∈ e.locations, c.Carries V V')
    (h : List.Forall₂ (Expr.Fits V) cells ws) : List.Forall₂ (Expr.Fits V') cells ws := by
  induction h with
  | nil => exact .nil
  | cons hfirst _ ih =>
    exact .cons (fun _ hw => (hfirst hw).carry hmem (hcells _ List.mem_cons_self))
      (ih fun e he => hcells e (List.mem_cons_of_mem _ he))

theorem Ref.Denotes.carry {ref : Ref} {v : Value} (hmem : V.mem.Keeps V'.mem)
    (hcells : ∀ c, ref.Has c → c.Carries V V') (h : ref.Denotes r V v) : ref.Denotes r V' v := by
  obtain ⟨ws, hencodes, hfits⟩ := h
  exact ⟨ws, hencodes.mono hmem, fits_carry hmem (fun e he c hc => hcells c ⟨e, he, hc⟩) hfits⟩

theorem Env.Denotes.carry {env : Env} {store : Store} (hmem : V.mem.Keeps V'.mem)
    (hcells : ∀ c, env.Has c → c.Carries V V') (h : env.Denotes r V store) :
    env.Denotes r V' store := by
  intro v
  have hv := h v
  cases href : env.find? v with
  | none =>
    rw [href] at hv
    cases hstore : store v <;> rw [hstore] at hv <;> cases hv
    exact .none
  | some ref =>
    rw [href] at hv
    cases hstore : store v <;> rw [hstore] at hv <;> cases hv
    rename_i hdenotes
    exact .some (hdenotes.carry hmem fun c hc => hcells c ⟨v, ref, href, hc⟩)

theorem Ref.Denotes.of_same {ref ref' : Ref} {v : Value} (hsame : ref'.same ref = true)
    (h : ref.Denotes r V v) : ref'.Denotes r V v := by
  rw [Ref.same, Bool.and_eq_true, Ident.same_iff, beq_iff_eq] at hsame
  obtain ⟨ws, hencodes, hfits⟩ := h
  exact ⟨ws, hencodes.congr hsame.1.symm, by rw [hsame.2]; exact hfits⟩

/-- A value that can no longer be addressed still is the value. -/
theorem Ref.Denotes.invalidateAp {ref : Ref} {v : Value} (h : ref.Denotes r V v) :
    ref.invalidateAp.Denotes r V v := by
  obtain ⟨ws, hencodes, hfits⟩ := h
  refine ⟨ws, hencodes, ?_⟩
  rw [Ref.invalidateAp, List.forall₂_map_left_iff]
  refine hfits.imp fun e w hfit x hx => ?_
  rw [Expr.invalidateAp]
  split
  · trivial
  · exact hfit hx

/-! ### Operations on environments -/

theorem Env.find?_invalidateAp (env : Env) (v : VarId) :
    env.invalidateAp.find? v = (env.find? v).map Ref.invalidateAp := by
  simp only [Env.find?, Env.invalidateAp, List.find?_map, Option.map_map]
  rfl

theorem Env.find?_of_same {env env' : Env} (h : env'.same env = true) (v : VarId) :
    Option.Rel (fun ref' ref : Ref => ref'.same ref = true) (env'.find? v) (env.find? v) := by
  obtain ⟨bindings⟩ := env
  obtain ⟨bindings'⟩ := env'
  rw [Env.same, Bool.and_eq_true, beq_iff_eq] at h
  obtain ⟨hvars, hrefs⟩ := h
  simp only [Env.vars] at hvars
  simp only [Env.find?]
  induction bindings' generalizing bindings with
  | nil =>
    rw [List.map_nil, eq_comm, List.map_eq_nil_iff] at hvars
    subst hvars
    exact .none
  | cons b' bs' ih =>
    cases bindings with
    | nil => cases hvars
    | cons b bs =>
      rw [List.map_cons, List.map_cons, List.cons.injEq] at hvars
      rw [List.zip_cons_cons, List.all_cons, Bool.and_eq_true] at hrefs
      rw [List.find?_cons, List.find?_cons, hvars.1]
      cases b.1 == v with
      | true => exact .some hrefs.1
      | false => exact ih bs hvars.2 hrefs.2

theorem Env.Denotes.of_same {env env' : Env} {store : Store} (hsame : env'.same env = true)
    (h : env.Denotes r V store) : env'.Denotes r V store := by
  intro v
  have hfind := Env.find?_of_same hsame v
  have hv := h v
  cases href : env.find? v with
  | none =>
    rw [href] at hv hfind
    cases href' : env'.find? v with
    | none => exact hv
    | some ref' => rw [href'] at hfind; cases hfind
  | some ref =>
    rw [href] at hv hfind
    cases href' : env'.find? v with
    | none => rw [href'] at hfind; cases hfind
    | some ref' =>
      rw [href'] at hfind
      cases hfind with
      | some hsame =>
        cases hstore : store v <;> rw [hstore] at hv <;> cases hv
        rename_i hdenotes
        exact .some (hdenotes.of_same hsame)

theorem Env.Denotes.invalidateAp {env : Env} {store : Store} (h : env.Denotes r V store) :
    env.invalidateAp.Denotes r V store := by
  intro v
  rw [Env.find?_invalidateAp]
  have hv := h v
  cases href : env.find? v <;> cases hstore : store v <;> rw [href, hstore] at hv <;> cases hv
  · exact .none
  · rename_i hdenotes
    exact .some hdenotes.invalidateAp

theorem Env.Denotes.erase {env : Env} {store : Store} (h : env.Denotes r V store) (v : VarId) :
    (env.erase v).Denotes r V (store.erase v) := by
  intro w
  by_cases hw : w = v
  · subst hw
    rw [Env.find?_erase_self, Store.erase, if_pos rfl]
    exact .none
  · rw [Env.find?_erase_of_ne env hw, Store.erase, if_neg hw]
    exact h w

theorem Env.Denotes.insert {env : Env} {store : Store} {ref : Ref} {x : Value}
    (h : env.Denotes r V store) (v : VarId) (href : ref.Denotes r V x) :
    (env.insert v ref).Denotes r V (store.set v x) := by
  intro w
  by_cases hw : w = v
  · subst hw
    rw [Env.find?_insert_self, Store.set, if_pos rfl]
    exact .some href
  · rw [Env.find?_insert_of_ne env hw, Store.set, if_neg hw]
    exact h w

theorem Env.Denotes.takeArgs {env rest : Env} {vars : List VarId} {types : List Ident}
    {refs : List Ref} {store : Store} (hdenotes : env.Denotes r V store)
    (h : Lowering.takeArgs env vars types = .ok (refs, rest)) :
    ∃ values store', store.take vars = some (values, store') ∧
      List.Forall₂ (Ref.Denotes r V) refs values ∧ rest.Denotes r V store' := by
  rw [takeArgs_eq_ok_iff] at h
  induction h generalizing store with
  | nil => exact ⟨[], store, rfl, .nil, hdenotes⟩
  | @cons env rest v vars type types ref refs hfind _ _ ih =>
    have hv := hdenotes v
    rw [hfind] at hv
    cases hstore : store v <;> rw [hstore] at hv <;> cases hv
    rename_i x hx
    obtain ⟨values, store', htake, hrefs, hrest⟩ := ih (hdenotes.erase v)
    exact ⟨x :: values, store', by simp [Store.take, hstore, htake], .cons hx hrefs, hrest⟩

theorem Env.Denotes.bindResults {env next : Env} {vars : List VarId} {refs : List Ref}
    {store : Store} {values : List Value} (hdenotes : env.Denotes r V store)
    (hrefs : List.Forall₂ (Ref.Denotes r V) refs values)
    (h : Lowering.bindResults env vars refs = .ok next) :
    ∃ store', store.bind vars values = some store' ∧ next.Denotes r V store' := by
  rw [bindResults_eq_ok_iff] at h
  induction h generalizing store values with
  | nil =>
    cases hrefs
    exact ⟨store, rfl, hdenotes⟩
  | @cons env next v vars ref refs hfresh _ ih =>
    obtain ⟨x, more, hx, hmore, rfl⟩ := List.forall₂_cons_left_iff.mp hrefs
    obtain ⟨store', hbind, hnext⟩ := ih (hdenotes.insert v hx) hmore
    refine ⟨store', ?_, hnext⟩
    have hv := hdenotes v
    rw [hfresh] at hv
    cases hstore : store v <;> rw [hstore] at hv <;> cases hv
    rw [Store.bind, hstore, if_neg (by simp), hbind]

/-! ### Consecutive values -/

/-- The cells of some references together take the words of their values together. -/
theorem encodesAll_of_denotes {refs : List Ref} {values : List Value} {types : List Ident}
    (htypes : List.Forall₂ (fun (ref : Ref) (type : Ident) => ref.type.id = type.id) refs types)
    (h : List.Forall₂ (Ref.Denotes r V) refs values) :
    ∃ ws, EncodesAll r V.mem types values ws ∧ List.Forall₂ (Expr.Fits V) (cellsOf refs) ws := by
  induction htypes generalizing values with
  | nil =>
    cases h
    exact ⟨[], .nil, .nil⟩
  | cons htype _ ih =>
    cases h with
    | cons hfirst hrest =>
      obtain ⟨ws, hencodes, hfits⟩ := hfirst
      obtain ⟨ws', hencodes', hfits'⟩ := ih hrest
      exact ⟨ws ++ ws', .cons (hencodes.congr htype) hencodes', List.rel_append hfits hfits'⟩

theorem cellCount_eq_ok {type : Ident} {n : Nat} (h : cellCount r type = .ok n) :
    r.cells type = n := by
  unfold cellCount at h
  split at h
  · rename_i size hsize
    split at h
    · rename_i hnonneg
      cases h
      rw [Registry.cells, hsize, Option.map_some, Option.getD_some,
        Int64.cast_toNatClampNeg size hnonneg]
    · cases h
  · cases h

theorem cellCount_of_withSizes {types : List Ident} {sized : List (Ident × Nat)}
    (h : withSizes r types = .ok sized) :
    List.Forall₂ (fun (type : Ident) (x : Ident × Nat) =>
      x.1 = type ∧ cellCount r type = .ok x.2) types sized := by
  unfold withSizes at h
  induction types generalizing sized with
  | nil =>
    rw [List.mapM_nil] at h
    cases h
    exact .nil
  | cons type types ih =>
    rw [List.mapM_cons] at h
    obtain ⟨x, hx, h⟩ := bind_eq_ok.mp h
    obtain ⟨xs, hxs, h⟩ := bind_eq_ok.mp h
    obtain ⟨n, hn, hx⟩ := bind_eq_ok.mp hx
    cases h
    cases hx
    exact .cons ⟨rfl, hn⟩ (ih hxs)

theorem withSizes_eq_ok {types : List Ident} {sized : List (Ident × Nat)}
    (h : withSizes r types = .ok sized) :
    List.Forall₂ (fun (type : Ident) (x : Ident × Nat) => x.1 = type ∧ r.cells type = x.2)
      types sized :=
  (cellCount_of_withSizes h).imp fun _ _ hx => ⟨hx.1, cellCount_eq_ok hx.2⟩

section consecutive

variable (htypes : r.TypesValid) (hsizes : r.SizesExact)
include htypes hsizes

/-- The cells of some values, cut by their sizes, are references to the values. -/
theorem split_denotes {types : List Ident} {sized : List (Ident × Nat)} {cells : List Expr}
    {refs : List Ref} {values : List Value} {ws : List (Option Felt)}
    (hsized : List.Forall₂ (fun (type : Ident) (x : Ident × Nat) =>
      x.1 = type ∧ r.cells type = x.2) types sized)
    (hencodes : EncodesAll r V.mem types values ws)
    (hfits : List.Forall₂ (Expr.Fits V) cells ws) (h : split cells sized = .ok refs) :
    List.Forall₂ (Ref.Denotes r V) refs values := by
  induction hsized generalizing cells refs values ws with
  | nil =>
    cases hencodes
    cases h
    exact .nil
  | @cons type x types sized hx _ ih =>
    obtain ⟨_, n⟩ := x
    obtain ⟨rfl, hn⟩ := hx
    cases hencodes with
    | @cons _ _ _ _ ws ws' hfirst hrest =>
      unfold split at h
      split at h
      · obtain ⟨refs', hsplit, h⟩ := bind_eq_ok.mp h
        cases h
        have hlength : ws.length = n := by
          have hsize : (n : Int) = ws.length := hn.symm.trans (hfirst.size htypes hsizes)
          omega
        have htake := List.forall₂_take n hfits
        have hdrop := List.forall₂_drop n hfits
        rw [List.take_left' hlength] at htake
        rw [List.drop_left' hlength] at hdrop
        exact .cons ⟨ws, hfirst, htake⟩ (ih hrest hdrop hsplit)
      · cases h

/-- Cells in a row that hold the words of some values are references to the values. -/
theorem place_denotes {types : List Ident} {sized : List (Ident × Nat)} {cell : Int64 → Cell}
    {position : Int64} {values : List Value} {ws : List (Option Felt)}
    (hsized : List.Forall₂ (fun (type : Ident) (x : Ident × Nat) =>
      x.1 = type ∧ r.cells type = x.2) types sized)
    (hencodes : EncodesAll r V.mem types values ws)
    (hreads : ∀ {k x}, ws[k]? = some (some x) → (cell (position + .ofNat k)).Reads V x) :
    List.Forall₂ (Ref.Denotes r V) (place cell position sized) values := by
  induction hsized generalizing position values ws with
  | nil =>
    cases hencodes
    exact .nil
  | @cons type x types sized hx _ ih =>
    obtain ⟨_, n⟩ := x
    obtain ⟨rfl, hn⟩ := hx
    cases hencodes with
    | @cons _ _ _ _ ws ws' hfirst hrest =>
      have hlength : ws.length = n := by
        have hsize : (n : Int) = ws.length := hn.symm.trans (hfirst.size htypes hsizes)
        omega
      refine .cons ⟨ws, hfirst, ?_⟩ (ih hrest fun {k x} hk => ?_)
      · refine List.forall₂_of_length_eq_of_get (by simp [hlength]) fun k hk hk' x hx => ?_
        simp only [List.get_eq_getElem, List.getElem_map, List.getElem_range] at hx ⊢
        refine hreads ?_
        rw [List.getElem?_append_left hk', List.getElem?_eq_getElem hk', hx]
      · have hread := hreads (k := n + k) (x := x) (by
          rw [List.getElem?_append_right (by omega), ← hlength, Nat.add_sub_cancel_left, hk])
        rwa [Int64.ofNat_add, ← Int64.add_assoc] at hread

end consecutive

/-! ### The top of the stack -/

theorem firstMisplaced_eq_none {s : ApState} {position : Int64} {n : Nat} {cells : List Expr}
    (h : firstMisplaced s position n cells = none) :
    ∀ {k : Nat} {e : Expr}, cells[k]? = some e →
      e = .deref (.ap s.epoch (position + .ofNat k)) := by
  induction cells generalizing position n with
  | nil => simp
  | cons e cells ih =>
    unfold firstMisplaced at h
    split at h
    · rename_i heq
      intro k e' hk
      cases k with
      | zero =>
        cases Option.some.inj hk
        simpa using heq
      | succ k =>
        rw [ih h hk, Nat.add_comm k 1, Int64.ofNat_add, ← Int64.add_assoc]
        rfl
    · cases h

theorem checkOnTop_eq_ok {s : ApState} {what : Stacked} {refs : List Ref}
    (h : checkOnTop s what refs = .ok ()) {k : Nat} {e : Expr} (hk : (cellsOf refs)[k]? = some e) :
    e = .deref (.ap s.epoch (s.offset - .ofNat (cellsOf refs).length + .ofNat k)) := by
  obtain ⟨⟨⟩, -, h⟩ := bind_eq_ok.mp h
  split at h
  · cases h
  · rename_i hplaced
    exact firstMisplaced_eq_none hplaced hk

/-- A position `n` cells below another is `n` cells away, if that does not wrap. -/
theorem toInt_distance (x : Int64) {k n : Nat} (hk : k < n) (hn : n < 2 ^ 63) :
    (x - .ofNat n + .ofNat k - x).toInt = (k : Int) - n := by
  have heq : x - .ofNat n + .ofNat k - x = .ofInt ((k : Int) - n) := by
    rw [Int64.ofInt_sub, Int64.ofInt_eq_ofNat, Int64.ofInt_eq_ofNat]
    grind
  rw [heq, Int64.toInt_ofInt_of_le (by omega) (by omega)]

/-- The address of the `k`-th of the last `n` cells below `ap`. -/
theorem address_of_distance {distance : Int64} {k n : Nat}
    (h : distance.toInt = (k : Int) - n) (ap fp : Felt) :
    CellRef.address ⟨.ap, distance⟩ ap fp = ap - (n : Nat) + (k : Nat) := by
  simp only [CellRef.address, h, Felt.ofInt_eq_cast, Int.cast_sub, Int.cast_natCast]
  ring

theorem stored_of_checkOnTop {refs : List Ref} {ws : List (Option Felt)} {what : Stacked}
    (h : checkOnTop V.state what refs = .ok ())
    (hfits : List.Forall₂ (Expr.Fits V) (cellsOf refs) ws)
    (hlength : ws.length < 2 ^ 63) : Stored V.mem (V.ap - (ws.length : Nat)) ws := by
  intro k x hk
  obtain ⟨hlt, hget⟩ := List.getElem?_eq_some_iff.mp hk
  have hlt' : k < (cellsOf refs).length := by rw [hfits.length_eq]; exact hlt
  have hfit := hfits.get hlt' hlt
  have hcell := checkOnTop_eq_ok h (List.getElem?_eq_getElem hlt')
  rw [hfits.length_eq] at hcell
  simp only [List.get_eq_getElem] at hfit
  rw [hcell] at hfit
  have hread := hfit hget (Cell.at?_ap_eq_some.mpr ⟨rfl, rfl⟩)
  rwa [address_of_distance (toInt_distance _ hlt hlength)] at hread

end SierraCasm.Lowering
