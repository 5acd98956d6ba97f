import SierraCasm.Lowering.Code
import SierraCasm.Proofs.Casm.Machine

/-! # Where the code of a program is

The blocks of the statements stand one after the other from address `0` on, and each name in them
is replaced by the address it stands for.  `CodeAt` says that a block goes on with some code at an
address; the machine fetches its instructions one by one (`CodeAt.fetch`, `CodeAt.tail`), and each
instruction of the program is in some block (`exists_codeAt`).  The address that replaces a constant
is the address of a word with its value (`mem_constant`). -/

namespace SierraCasm.Lowering

open Casm

/-! ### Fetching -/

theorem resolveAll_append (l : Layout) (pc : Nat) (a b : List Code) :
    l.resolveAll pc (a ++ b) = l.resolveAll pc a ++ l.resolveAll (pc + blockSize a) b := by
  induction a generalizing pc with
  | nil => rfl
  | cons c rest ih =>
    rw [List.cons_append, Layout.resolveAll, Layout.resolveAll, ih, blockSize_cons, Nat.add_assoc]
    rfl

theorem fetch_append (before after : List Instruction) (n : Nat) :
    fetch (before ++ after) (wordCount before + n) = fetch after n := by
  induction before with
  | nil => rw [wordCount, List.foldr_nil, Nat.zero_add, List.nil_append]
  | cons i rest ih =>
    have hpos := i.size_pos
    rw [List.cons_append, wordCount_cons, fetch, if_neg (by omega), if_neg (by omega),
      Nat.add_assoc, Nat.add_sub_cancel_left, ih]

/-! ### Statements -/

theorem getElem?_starts (offset i : Nat) (blocks : List (List Code)) :
    (starts offset blocks)[i]?.getD (offset + blockSize blocks.flatten) =
      offset + blockSize (blocks.take i).flatten := by
  induction blocks generalizing offset i with
  | nil => simp [starts, blockSize]
  | cons block rest ih =>
    cases i with
    | zero => simp [starts, blockSize]
    | succ i =>
      rw [starts, List.getElem?_cons_succ, List.take_succ_cons, List.flatten_cons,
        List.flatten_cons, blockSize_append, blockSize_append, ← Nat.add_assoc, ih, Nat.add_assoc]

theorem statementAddress_eq (blocks : List (List Code)) (i : Nat) :
    (Layout.ofBlocks blocks).statementAddress i = blockSize (blocks.take i).flatten := by
  have h := getElem?_starts 0 i blocks
  rwa [Nat.zero_add, Nat.zero_add] at h

variable {blocks : List (List Code)} {i : Nat} {block : List Code}

theorem statementAddress_succ (h : blocks[i]? = some block) :
    (Layout.ofBlocks blocks).statementAddress (i + 1) =
      (Layout.ofBlocks blocks).statementAddress i + blockSize block := by
  rw [statementAddress_eq, statementAddress_eq, List.take_add_one, h, Option.toList_some,
    List.flatten_append, blockSize_append, List.flatten_singleton]

/-! ### Code -/

/-- The block of statement `i` goes on with `code` at address `pc`. -/
def CodeAt (blocks : List (List Code)) (i pc : Nat) (code : List Code) : Prop :=
  ∃ before, blocks[i]? = some (before ++ code) ∧
    pc = (Layout.ofBlocks blocks).statementAddress i + blockSize before

theorem codeAt_statement (h : blocks[i]? = some block) :
    CodeAt blocks i ((Layout.ofBlocks blocks).statementAddress i) block :=
  ⟨[], h, rfl⟩

namespace CodeAt

variable {pc : Nat} {c : Code} {code : List Code}

theorem tail (h : CodeAt blocks i pc (c :: code)) : CodeAt blocks i (pc + c.size) code := by
  obtain ⟨before, hblock, rfl⟩ := h
  refine ⟨before ++ [c], ?_, ?_⟩
  · rw [hblock, List.append_assoc]
    rfl
  · rw [blockSize_append, Nat.add_assoc]
    rfl

theorem exists_flatten (h : CodeAt blocks i pc code) :
    ∃ before after, blocks.flatten = before ++ (code ++ after) ∧ pc = blockSize before := by
  obtain ⟨before, hblock, rfl⟩ := h
  obtain ⟨hlt, hget⟩ := List.getElem?_eq_some_iff.mp hblock
  refine ⟨(blocks.take i).flatten ++ before, (blocks.drop (i + 1)).flatten, ?_, ?_⟩
  · have hsplit : blocks.flatten =
        (blocks.take i).flatten ++ (blocks[i] ++ (blocks.drop (i + 1)).flatten) := by
      rw [← List.flatten_cons, ← List.drop_eq_getElem_cons hlt, ← List.flatten_append,
        List.take_append_drop]
    rw [hsplit, hget, List.append_assoc, List.append_assoc]
  · rw [blockSize_append, statementAddress_eq]

theorem mem (h : CodeAt blocks i pc (c :: code)) : c ∈ blocks.flatten := by
  obtain ⟨before, after, hblocks, -⟩ := h.exists_flatten
  simp [hblocks]

theorem mem_block (h : CodeAt blocks i pc code) :
    (Layout.ofBlocks blocks).statementAddress i ≤ pc ∧
      pc + blockSize code = (Layout.ofBlocks blocks).statementAddress (i + 1) := by
  obtain ⟨before, hblock, rfl⟩ := h
  rw [statementAddress_succ hblock, blockSize_append]
  omega

theorem le_codeSize (h : CodeAt blocks i pc code) :
    pc + blockSize code ≤ (assemble blocks).codeSize := by
  obtain ⟨before, after, hblocks, rfl⟩ := h.exists_flatten
  rw [codeSize_assemble, hblocks, blockSize_append, blockSize_append]
  omega

theorem fetch (h : CodeAt blocks i pc (c :: code)) :
    Casm.fetch (assemble blocks).instructions pc =
      some ((Layout.ofBlocks blocks).resolve pc c) := by
  obtain ⟨before, after, hblocks, rfl⟩ := h.exists_flatten
  simp only [assemble, hblocks]
  rw [resolveAll_append, Nat.zero_add, List.cons_append, Layout.resolveAll]
  have hfetch := fetch_append ((Layout.ofBlocks blocks).resolveAll 0 before)
    ((Layout.ofBlocks blocks).resolve (blockSize before) c ::
      (Layout.ofBlocks blocks).resolveAll (blockSize before + c.size) (code ++ after)) 0
  rw [Layout.wordCount_resolveAll] at hfetch
  exact hfetch

end CodeAt

theorem resolveAll_eq_append {l : Layout} {pc : Nat} {code : List Code}
    {before after : List Instruction} {instruction : Instruction}
    (h : l.resolveAll pc code = before ++ instruction :: after) :
    ∃ first c rest, code = first ++ c :: rest ∧ wordCount before = blockSize first ∧
      instruction = l.resolve (pc + blockSize first) c := by
  induction before generalizing pc code with
  | nil =>
    cases code with
    | nil => cases h
    | cons c rest =>
      cases h
      exact ⟨[], c, rest, rfl, rfl, rfl⟩
  | cons i before ih =>
    cases code with
    | nil => cases h
    | cons d code =>
      rw [Layout.resolveAll, List.cons_append, List.cons.injEq] at h
      obtain ⟨first, c, rest, rfl, hsize, hinstruction⟩ := ih h.2
      refine ⟨d :: first, c, rest, rfl, ?_, ?_⟩
      · rw [wordCount_cons, blockSize_cons, hsize, ← h.1, Layout.size_resolve]
      · rw [hinstruction, blockSize_cons, Nat.add_assoc]

theorem flatten_eq_append {α : Type} {blocks : List (List α)} {before after : List α} {c : α}
    (h : blocks.flatten = before ++ c :: after) :
    ∃ i first rest, blocks[i]? = some (first ++ c :: rest) ∧
      before = (blocks.take i).flatten ++ first := by
  induction blocks generalizing before with
  | nil => simp at h
  | cons block blocks ih =>
    have hlater : ∀ first, before = block ++ first → blocks.flatten = first ++ c :: after →
        ∃ i first rest, (block :: blocks)[i]? = some (first ++ c :: rest) ∧
          before = ((block :: blocks).take i).flatten ++ first := by
      rintro first rfl hrest
      obtain ⟨i, first, rest, hblock, rfl⟩ := ih hrest
      exact ⟨i + 1, first, rest, hblock, by simp⟩
    rw [List.flatten_cons, List.append_eq_append_iff] at h
    rcases h with ⟨first, hbefore, hrest⟩ | ⟨rest, hblock, hrest⟩
    · exact hlater first hbefore hrest
    · cases rest with
      | nil => exact hlater [] (by simpa using hblock.symm) hrest.symm
      | cons d rest =>
        cases hrest
        exact ⟨0, before, rest, by rw [hblock]; rfl, by simp⟩

/-- Every instruction of a program is that of code in a block, at its address. -/
theorem exists_codeAt {before after : List Instruction} {instruction : Instruction}
    (h : (assemble blocks).instructions = before ++ instruction :: after) :
    ∃ i c code, CodeAt blocks i (wordCount before) (c :: code) ∧
      instruction = (Layout.ofBlocks blocks).resolve (wordCount before) c := by
  obtain ⟨first, c, rest, hcode, hsize, hinstruction⟩ := resolveAll_eq_append h
  rw [Nat.zero_add] at hinstruction
  obtain ⟨i, first', rest', hblock, rfl⟩ := flatten_eq_append hcode
  rw [hsize]
  refine ⟨i, c, rest', ⟨first', hblock, ?_⟩, hinstruction⟩
  rw [blockSize_append, statementAddress_eq]

theorem Code.size_pos (c : Code) : 0 < c.size := by
  cases c with
  | plain i => exact i.size_pos
  | _ => exact Nat.two_pos

/-- The machine is in the block of statement `i`. -/
def InBlock (blocks : List (List Code)) (i : Nat) (σ : State) : Prop :=
  (Layout.ofBlocks blocks).statementAddress i ≤ σ.pc.rep ∧
    σ.pc.rep < (Layout.ofBlocks blocks).statementAddress (i + 1)

/-! ### Constants -/

namespace Pool

/-- A constant is in its segment. -/
def Has (pool : Pool) (segment : Nat) (v : Int) : Prop :=
  ∃ values, (segment, values) ∈ pool ∧ v ∈ values

/-- The segments ascend. -/
def Sorted (pool : Pool) : Prop := pool.Pairwise fun a b => a.1 < b.1

theorem mem_addValue {values : List Int} {v w : Int} :
    w ∈ addValue values v ↔ w = v ∨ w ∈ values := by
  unfold addValue
  split
  · rename_i hmem
    exact ⟨.inr, fun h => h.elim (fun heq => heq ▸ hmem) id⟩
  · rw [List.mem_append, List.mem_singleton, or_comm]

theorem has_add_self (pool : Pool) (segment : Nat) (v : Int) :
    Has (pool.add segment v) segment v := by
  induction pool with
  | nil => exact ⟨[v], List.mem_singleton.mpr rfl, List.mem_singleton.mpr rfl⟩
  | cons entry rest ih =>
    unfold add
    split
    · exact ⟨[v], List.mem_cons_self, List.mem_singleton.mpr rfl⟩
    · split
      · rename_i heq
        refine ⟨addValue entry.2 v, ?_, mem_addValue.mpr (.inl rfl)⟩
        rw [heq]
        exact List.mem_cons_self
      · obtain ⟨values, hmem, hv⟩ := ih
        exact ⟨values, List.mem_cons_of_mem _ hmem, hv⟩

theorem Has.add {pool : Pool} {segment : Nat} {v : Int} (h : pool.Has segment v) (i : Nat)
    (w : Int) : Has (pool.add i w) segment v := by
  obtain ⟨values, hmem, hv⟩ := h
  induction pool with
  | nil => cases hmem
  | cons entry rest ih =>
    unfold Pool.add
    split
    · exact ⟨values, List.mem_cons_of_mem _ hmem, hv⟩
    · split
      · rcases List.mem_cons.mp hmem with rfl | hrest
        · exact ⟨_, List.mem_cons_self, mem_addValue.mpr (.inr hv)⟩
        · exact ⟨values, List.mem_cons_of_mem _ hrest, hv⟩
      · rcases List.mem_cons.mp hmem with rfl | hrest
        · exact ⟨_, List.mem_cons_self, hv⟩
        · obtain ⟨values', hmem', hv'⟩ := ih hrest
          exact ⟨values', List.mem_cons_of_mem _ hmem', hv'⟩

/-- An addition keeps the other segments, and adds to that of the constant or opens it. -/
theorem mem_add {pool : Pool} {i : Nat} {v : Int} {entry : Nat × List Int}
    (h : entry ∈ pool.add i v) :
    entry ∈ pool ∨ entry = (i, [v]) ∨
      ∃ values, (i, values) ∈ pool ∧ entry = (i, addValue values v) := by
  induction pool with
  | nil => exact .inr (.inl (List.mem_singleton.mp h))
  | cons first rest ih =>
    unfold add at h
    split at h
    · rcases List.mem_cons.mp h with rfl | h
      · exact .inr (.inl rfl)
      · exact .inl h
    · split at h
      · rename_i heq
        subst heq
        rcases List.mem_cons.mp h with rfl | h
        · exact .inr (.inr ⟨first.2, List.mem_cons_self, rfl⟩)
        · exact .inl (List.mem_cons_of_mem _ h)
      · rcases List.mem_cons.mp h with rfl | h
        · exact .inl List.mem_cons_self
        · rcases ih h with hold | hnew | ⟨values, hvalues, heq⟩
          · exact .inl (List.mem_cons_of_mem _ hold)
          · exact .inr (.inl hnew)
          · exact .inr (.inr ⟨values, List.mem_cons_of_mem _ hvalues, heq⟩)

theorem index_of_mem_add {pool : Pool} {i : Nat} {v : Int} {entry : Nat × List Int}
    (h : entry ∈ pool.add i v) : entry.1 = i ∨ ∃ old ∈ pool, old.1 = entry.1 := by
  rcases mem_add h with hold | rfl | ⟨values, -, rfl⟩
  · exact .inr ⟨entry, hold, rfl⟩
  · exact .inl rfl
  · exact .inl rfl

theorem Sorted.add {pool : Pool} (h : pool.Sorted) (i : Nat) (v : Int) :
    Sorted (pool.add i v) := by
  induction pool with
  | nil => exact List.pairwise_singleton _ _
  | cons first rest ih =>
    have hfirst := List.pairwise_cons.mp h
    unfold Pool.add
    split
    · rename_i hlt
      refine List.pairwise_cons.mpr ⟨fun entry hentry => ?_, h⟩
      rcases List.mem_cons.mp hentry with rfl | hrest
      · exact hlt
      · exact Nat.lt_trans hlt (hfirst.1 entry hrest)
    · split
      · exact List.pairwise_cons.mpr hfirst
      · rename_i hlt hne
        refine List.pairwise_cons.mpr ⟨fun entry hentry => ?_, ih hfirst.2⟩
        rcases index_of_mem_add hentry with heq | ⟨old, hold, heq⟩
        · rw [heq]
          dsimp only at hlt hne ⊢
          omega
        · rw [← heq]
          exact hfirst.1 old hold

/-- The pool of some code is sorted, and has the constants whose addresses the code takes. -/
theorem ofCode_spec (code : List Code) :
    (ofCode code).Sorted ∧
      ∀ {segment v}, Code.constAddress segment v ∈ code → (ofCode code).Has segment v := by
  have hfold : ∀ (code : List Code) (pool : Pool), pool.Sorted →
      Sorted (code.foldl addFrom pool) ∧ ∀ {segment v},
        (pool.Has segment v ∨ Code.constAddress segment v ∈ code) →
        Has (code.foldl addFrom pool) segment v := by
    intro code
    induction code with
    | nil =>
      intro pool hsorted
      exact ⟨hsorted, fun h => h.elim id (by simp)⟩
    | cons c rest ih =>
      intro pool hsorted
      rw [List.foldl_cons]
      cases c with
      | constAddress i w =>
        obtain ⟨hsorted', hhas⟩ := ih (pool.add i w) (hsorted.add i w)
        refine ⟨hsorted', fun h => ?_⟩
        rcases h with h | h
        · exact hhas (.inl (h.add i w))
        · rcases List.mem_cons.mp h with heq | h
          · cases heq
            exact hhas (.inl (has_add_self pool i w))
          · exact hhas (.inr h)
      | _ =>
        obtain ⟨hsorted', hhas⟩ := ih pool hsorted
        exact ⟨hsorted', fun h => hhas (h.imp_right fun h => (List.mem_cons.mp h).resolve_left
          (by simp))⟩
  obtain ⟨hsorted, hhas⟩ := hfold code [] List.Pairwise.nil
  exact ⟨hsorted, fun h => hhas (.inr h)⟩

/-! ### Segments -/

theorem map_segments (offset : Nat) (pool : Pool) :
    (segments offset pool).map (fun s => (s.index, s.values)) =
      pool.map fun entry => ((entry.1 : Int), entry.2) := by
  induction pool generalizing offset with
  | nil => rfl
  | cons first rest ih => rw [segments, List.map_cons, List.map_cons, ih]

theorem Sorted.pairwise_index {pool : Pool} (h : pool.Sorted) (offset : Nat) :
    (segments offset pool).Pairwise fun s t => s.index < t.index := by
  have hpairs : ((segments offset pool).map fun s => (s.index, s.values)).Pairwise
      fun a b => a.1 < b.1 := by
    rw [map_segments, List.pairwise_map]
    exact h.imp Int.ofNat_lt.mpr
  simpa only [List.pairwise_map] using hpairs

theorem offset_segments {pool : Pool} {offset : Nat} {before after : List ConstSegment}
    {s : ConstSegment} (h : segments offset pool = before ++ s :: after) :
    s.offset = (offset + (before.flatMap (·.values)).length : Nat) := by
  induction pool generalizing offset before with
  | nil => simp [segments] at h
  | cons first rest ih =>
    rw [segments] at h
    cases before with
    | nil =>
      cases h
      rfl
    | cons b before =>
      rw [List.cons_append, List.cons.injEq] at h
      obtain ⟨rfl, h⟩ := h
      rw [ih h, List.flatMap_cons, List.length_append, Nat.add_assoc]

theorem address_of_mem {segs : List ConstSegment}
    (hascending : segs.Pairwise fun s t => s.index < t.index) {s : ConstSegment} (hs : s ∈ segs)
    {segment : Nat} (hindex : s.index = segment) (v : Int) :
    address segment v segs = s.offset + s.values.idxOf v := by
  induction segs with
  | nil => cases hs
  | cons first rest ih =>
    obtain ⟨hfirst, hrest⟩ := List.pairwise_cons.mp hascending
    rw [address]
    rcases List.mem_cons.mp hs with rfl | hs
    · rw [if_pos hindex]
    · have hlt := hfirst s hs
      rw [if_neg (by omega), ih hrest hs]

/-- A constant of the pool is in a segment, and its address is there. -/
theorem exists_segment {pool : Pool} (hsorted : pool.Sorted) {segment : Nat} {v : Int}
    (h : pool.Has segment v) (offset : Nat) :
    ∃ before s after, segments offset pool = before ++ s :: after ∧ s.index = (segment : Int) ∧
      v ∈ s.values ∧ address segment v (segments offset pool) = s.offset + s.values.idxOf v := by
  obtain ⟨values, hmem, hv⟩ := h
  have hpair : ((segment : Int), values) ∈
      (segments offset pool).map fun s => (s.index, s.values) := by
    rw [map_segments]
    exact List.mem_map_of_mem hmem
  obtain ⟨s, hs, heq⟩ := List.mem_map.mp hpair
  obtain ⟨hindex, rfl⟩ := Prod.mk.inj heq
  obtain ⟨before, after, hsplit⟩ := List.append_of_mem hs
  exact ⟨before, s, after, hsplit, hindex, hv,
    address_of_mem (hsorted.pairwise_index offset) hs hindex v⟩

/-- The address of a constant is that of a word with its value. -/
theorem address_segments {pool : Pool} (hsorted : pool.Sorted) {segment : Nat} {v : Int}
    (h : pool.Has segment v) (offset : Nat) :
    ∃ k : Nat, address segment v (segments offset pool) = (offset + k : Nat) ∧
      ((segments offset pool).flatMap (·.values))[k]? = some v := by
  obtain ⟨before, s, after, hsplit, -, hv, haddress⟩ := exists_segment hsorted h offset
  have hidx := List.idxOf_lt_length_of_mem hv
  refine ⟨(before.flatMap (·.values)).length + s.values.idxOf v, ?_, ?_⟩
  · rw [haddress, offset_segments hsplit]
    omega
  · rw [hsplit, List.flatMap_append, List.flatMap_cons,
      List.getElem?_append_right (Nat.le_add_right _ _), Nat.add_sub_cancel_left,
      List.getElem?_append_left hidx, List.getElem?_eq_getElem hidx, List.getElem_idxOf]

end Pool

/-- The address that replaces a constant is that of a word with its value. -/
theorem mem_constant {segment : Nat} {v : Int} {mem : Memory}
    (hmem : Code.constAddress segment v ∈ blocks.flatten) (hloaded : Loaded (assemble blocks) mem) :
    mem (Felt.ofInt (Pool.address segment v (Layout.ofBlocks blocks).segments)) =
      some (Felt.ofInt v) := by
  obtain ⟨hsorted, hhas⟩ := Pool.ofCode_spec blocks.flatten
  obtain ⟨k, haddress, hk⟩ :=
    Pool.address_segments hsorted (hhas hmem) (blockSize blocks.flatten)
  have hword := hloaded.constants hk
  rw [codeSize_assemble] at hword
  rw [show (Layout.ofBlocks blocks).segments = Pool.segments (blockSize blocks.flatten)
    (Pool.ofCode blocks.flatten) from rfl, haddress]
  exact hword

end SierraCasm.Lowering
