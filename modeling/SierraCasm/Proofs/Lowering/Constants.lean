import SierraCasm.Proofs.Lowering.Relocation
import SierraCasm.Proofs.Registry.Acceptance

/-! # Where constants are

A statement that boxes a constant (`Boxes`) is lowered to one instruction, which pushes an address.
The constants are collected in a pool, whose segments follow the code in ascending order.  The pool
holds each constant once, and only constants that a statement boxes (`Pool.Exact`).  So the address
that a statement pushes is that of a word with its constant, inside its segment
(`constantsPlaced_of_compile`). -/

namespace SierraCasm

open Sierra Concrete

/-! ### Boxed constants -/

/-- Statement `i` boxes the constant `v` in a segment: it invokes a libfunc that is declared as
`const_as_box<C, segment>`, where `C` is declared as the type of a constant `v`. -/
def Sierra.Boxes (p : Program) (i : Nat) (segment v : Int) : Prop :=
  ∃ inv d const inner, p.statements[i]? = some (.invoke inv) ∧ d ∈ p.libfuncs ∧
    d.id.id = inv.libfunc.id ∧ d.longId = ⟨"const_as_box", [.type const, .value segment]⟩ ∧
    DeclaredAs p.types const ⟨"Const", [.type inner, .value v]⟩

theorem boxes_iff {p : Program} {r : Registry} (hbuild : Registry.build p = .ok r) {i : Nat}
    {segment v : Int} :
    Boxes p i segment v ↔ ∃ inv lib, ∃ n : Nat, p.statements[i]? = some (.invoke inv) ∧
      r.libfunc? inv.libfunc = some lib ∧ segment = n ∧ lib.operation = .constAsBox v n := by
  obtain ⟨hsettled, hspecializes, hlibfunc⟩ := Registry.settled_of_build hbuild
  constructor
  · rintro ⟨inv, d, const, inner, hstatement, hd, hid, hlong, hconst⟩
    obtain ⟨lib, hlib⟩ := hspecializes d hd
    have hfound := hlibfunc.mpr ⟨d, hd, hid, hlib⟩
    rw [hlong, specializeLibfunc_constAsBox] at hlib
    obtain ⟨const', ty, inner', w, n, hargs, hty, hshape, -, box, -, rfl⟩ :=
      specializeConstAsBox_eq_ok_iff.mp hlib
    cases hargs
    obtain ⟨ty', hty', hshape'⟩ := hsettled.const_iff.mp hconst
    cases hty.symm.trans hty'
    cases hshape.symm.trans hshape'
    exact ⟨inv, _, n, hstatement, hfound, rfl, rfl⟩
  · rintro ⟨inv, lib, n, hstatement, hlib, rfl, hop⟩
    obtain ⟨d, hd, hid, hspecialized⟩ := hlibfunc.mp hlib
    obtain ⟨const, inner, ty, hlong, hty, hshape⟩ :=
      Registry.longId_of_constAsBox hspecialized hop
    exact ⟨inv, d, const, inner, hstatement, hd, hid, hlong,
      hsettled.const_iff.mpr ⟨ty, hty, hshape⟩⟩

namespace Lowering

open Casm

/-! ### The pool -/

namespace Pool

/-- A segment of the pool holds each of its constants once, and the code takes their addresses. -/
def Exact (code : List Code) (pool : Pool) : Prop :=
  ∀ entry ∈ pool, entry.2.Nodup ∧ ∀ v ∈ entry.2, Code.constAddress entry.1 v ∈ code

theorem nodup_addValue {values : List Int} (h : values.Nodup) (v : Int) :
    (addValue values v).Nodup := by
  unfold addValue
  split
  · exact h
  · rename_i hfresh
    exact List.nodup_append.mpr ⟨h, List.nodup_singleton v, fun a ha b hb hab =>
      hfresh (List.mem_singleton.mp hb ▸ hab ▸ ha)⟩

theorem Exact.add {code : List Code} {pool : Pool} (h : pool.Exact code) {i : Nat} {v : Int}
    (hmem : Code.constAddress i v ∈ code) : (pool.add i v).Exact code := by
  intro entry hentry
  rcases mem_add hentry with hold | rfl | ⟨values, hvalues, rfl⟩
  · exact h entry hold
  · exact ⟨List.nodup_singleton v, List.forall_mem_singleton.mpr hmem⟩
  · obtain ⟨hnodup, hused⟩ := h _ hvalues
    refine ⟨nodup_addValue hnodup v, fun w hw => ?_⟩
    rcases mem_addValue.mp hw with rfl | hw
    · exact hmem
    · exact hused w hw

theorem exact_ofCode (code : List Code) : (ofCode code).Exact code := by
  refine List.foldlRecOn code addFrom (fun _ hentry => absurd hentry List.not_mem_nil) ?_
  intro pool hpool c hc
  cases c with
  | constAddress i v => exact hpool.add hc
  | _ => exact hpool

end Pool

/-! ### Code of statements -/

theorem Lowers.operation_of_constAddress {ctx : Context} {i : Nat} {s : ApState} {sig : Signature}
    {inv : Invocation} {op : Operation} {args : List Ref} {lowered : Lowered}
    (h : Lowers ctx i s sig inv op args lowered) {segment : Nat} {v : Int}
    (hmem : Code.constAddress segment v ∈ lowered.code) : op = .constAsBox v segment := by
  cases h with
  | constAsBox =>
    cases List.mem_singleton.mp hmem
    rfl
  | storeTemp =>
    obtain ⟨instruction, -, heq⟩ := List.mem_map.mp hmem
    cases heq
  | jump | felt252IsZero | functionCall => cases List.mem_singleton.mp hmem
  | withdrawGas => simp at hmem
  | _ => cases hmem

theorem Lowers.code_of_constAsBox {ctx : Context} {i : Nat} {s : ApState} {sig : Signature}
    {inv : Invocation} {args : List Ref} {lowered : Lowered} {v : Int} {segment : Nat}
    (h : Lowers ctx i s sig inv (.constAsBox v segment) args lowered) :
    lowered.code = [.constAddress segment v] := by
  cases h
  rfl

section statements

variable {p : Sierra.Program} {r : Registry} {m : Metadata} {l : LoweredProgram}

/-- The constants whose addresses the code takes are boxed. -/
theorem LoweredProgram.Valid.boxes_of_mem (hbuild : Registry.build p = .ok r)
    (hl : l.Valid ⟨r, m⟩) {segment : Nat} {v : Int}
    (h : Code.constAddress segment v ∈ l.blocks.flatten) : ∃ i, Boxes p i segment v := by
  obtain ⟨block, hblock, hmem⟩ := List.mem_flatten.mp h
  obtain ⟨i, hi⟩ := List.mem_iff_getElem?.mp hblock
  obtain ⟨statement, hstatement⟩ : ∃ statement, r.program.statements[i]? = some statement := by
    have hlt := (List.getElem?_eq_some_iff.mp hi).1
    rw [hl.length_blocks] at hlt
    exact ⟨_, List.getElem?_eq_getElem hlt⟩
  cases hl.statement hi hstatement with
  | ret hreturned =>
    obtain ⟨_, _, -, -, rfl⟩ := lowerReturn_eq_ok hreturned.code_eq
    cases List.mem_singleton.mp hmem
  | invoke hinvoked hcode =>
    subst hcode
    have hop := (lowerInvocation_eq_ok hinvoked.lowered_eq).operation_of_constAddress hmem
    rw [(Registry.build_valid hbuild).1] at hstatement
    exact ⟨i, (boxes_iff hbuild).mpr ⟨_, _, segment, hstatement, hinvoked.lib_eq, rfl, hop⟩⟩

/-- The block of a statement that boxes a constant takes its address. -/
theorem LoweredProgram.Valid.block_of_boxes (hbuild : Registry.build p = .ok r)
    (hl : l.Valid ⟨r, m⟩) {i : Nat} {segment v : Int} (h : Boxes p i segment v) :
    ∃ n : Nat, segment = n ∧ l.blocks[i]? = some [.constAddress n v] := by
  obtain ⟨inv, lib, n, hstatement, hlib, hsegment, hop⟩ := (boxes_iff hbuild).mp h
  rw [← (Registry.build_valid hbuild).1] at hstatement
  have hlt : i < l.blocks.length := by
    rw [hl.length_blocks]
    exact (List.getElem?_eq_some_iff.mp hstatement).1
  have hblock := List.getElem?_eq_getElem hlt
  refine ⟨n, hsegment, ?_⟩
  cases hl.statement hblock hstatement with
  | invoke hinvoked hcode =>
    cases hlib.symm.trans hinvoked.lib_eq
    have hlowers := lowerInvocation_eq_ok hinvoked.lowered_eq
    rw [hop] at hlowers
    rw [hblock, ← hcode, hlowers.code_of_constAsBox]

end statements

/-! ### Sizes -/

/-- The instruction that stands for some code until addresses are known, with `0` in their place. -/
def Code.placeholder : Code → Instruction
  | .plain i => i
  | .jump _ => { body := .jump (.immediate 0) }
  | .jumpNonZero _ c => { body := .jumpNonZero (.immediate 0) c }
  | .call _ => { body := .call (.immediate 0) }
  | .constAddress _ _ => push top (.immediate 0)

theorem size_placeholder (c : Code) : c.placeholder.size = c.size := by
  cases c <;> rfl

theorem map_size_resolveAll (l : Layout) (pc : Nat) (code : List Code) :
    (l.resolveAll pc code).map (·.size) = code.map (·.placeholder.size) := by
  induction code generalizing pc with
  | nil => rfl
  | cons c rest ih =>
    rw [Layout.resolveAll, List.map_cons, List.map_cons, ih, Layout.size_resolve, size_placeholder]

end Lowering

/-! ### Programs -/

/-- The constant at an address behind the code. -/
def Casm.Program.constantAt? (out : Casm.Program) (address : Nat) : Option Int :=
  if address < out.codeSize then none else out.constants[address - out.codeSize]?

open Casm Lowering in
/-- The constants of a program follow its code, and the addresses in the code are theirs. -/
structure Lowering.LoweredProgram.ConstantsPlaced (p : Sierra.Program) (l : LoweredProgram)
    (out : Casm.Program) : Prop where
  /-- segments ascend, and fill the space from the end of the code to the end of the program -/
  ascending : out.segments.Pairwise fun s t => s.index < t.index
  first : ∀ {s : ConstSegment} {after : List ConstSegment}, out.segments = s :: after →
    s.offset = out.codeSize
  next : ∀ {before after : List ConstSegment} {s t : ConstSegment},
    out.segments = before ++ s :: t :: after → t.offset = s.offset + s.values.length
  last : ∀ {before : List ConstSegment} {s : ConstSegment}, out.segments = before ++ [s] →
    s.offset + s.values.length = out.bytecodeSize
  /-- a segment holds each constant once, and only constants that some statement boxes -/
  distinct : ∀ s ∈ out.segments, s.values.Nodup
  used : ∀ s ∈ out.segments, ∀ v ∈ s.values, ∃ i, Boxes p i s.index v
  /-- the instructions are those of the statements, and putting addresses in keeps their sizes -/
  instructions : out.instructions = l.code.flatten
  sizes : out.instructions.map (·.size) = l.blocks.flatten.map (·.placeholder.size)
  /-- a statement that boxes a constant pushes the address of a word with it, in its segment -/
  address : ∀ {i : Nat} {segment v : Int}, Boxes p i segment v → ∃ a : Nat,
    l.code[i]? = some [push top (.immediate a)] ∧ out.constantAt? a = some v ∧
    ∃ s ∈ out.segments, s.index = segment ∧ ∃ k : Nat, (a : Int) = s.offset + k ∧
      s.values[k]? = some v

namespace Lowering

open Casm

theorem segments_assemble (blocks : List (List Code)) : (assemble blocks).segments =
    Pool.segments (assemble blocks).codeSize (Pool.ofCode blocks.flatten) := by
  rw [codeSize_assemble]
  rfl

theorem exists_entry {blocks : List (List Code)} {s : ConstSegment}
    (h : s ∈ (assemble blocks).segments) :
    ∃ entry ∈ Pool.ofCode blocks.flatten, s.index = (entry.1 : Int) ∧ s.values = entry.2 := by
  rw [segments_assemble] at h
  have hpair := List.mem_map_of_mem (f := fun s : ConstSegment => (s.index, s.values)) h
  rw [Pool.map_segments] at hpair
  obtain ⟨entry, hentry, heq⟩ := List.mem_map.mp hpair
  obtain ⟨hindex, hvalues⟩ := Prod.mk.inj heq
  exact ⟨entry, hentry, hindex.symm, hvalues.symm⟩

theorem offset_assemble {blocks : List (List Code)} {before after : List ConstSegment}
    {s : ConstSegment} (h : (assemble blocks).segments = before ++ s :: after) :
    s.offset = ((assemble blocks).codeSize + (before.flatMap (·.values)).length : Nat) := by
  rw [segments_assemble] at h
  exact Pool.offset_segments h

/-- The address that replaces a constant is that of a word with its value, in its segment. -/
theorem exists_address {blocks : List (List Code)} {n : Nat} {v : Int}
    (h : Code.constAddress n v ∈ blocks.flatten) :
    ∃ a : Nat, Pool.address n v (Layout.ofBlocks blocks).segments = a ∧
      (assemble blocks).constantAt? a = some v ∧
      ∃ s ∈ (assemble blocks).segments, s.index = (n : Int) ∧ ∃ k : Nat, (a : Int) = s.offset + k ∧
        s.values[k]? = some v := by
  obtain ⟨hsorted, hhas⟩ := Pool.ofCode_spec blocks.flatten
  have hsegments : (Layout.ofBlocks blocks).segments =
      Pool.segments (assemble blocks).codeSize (Pool.ofCode blocks.flatten) :=
    segments_assemble blocks
  obtain ⟨k, haddress, hk⟩ := Pool.address_segments hsorted (hhas h) (assemble blocks).codeSize
  obtain ⟨before, s, after, hsplit, hindex, hv, haddress'⟩ :=
    Pool.exists_segment hsorted (hhas h) (assemble blocks).codeSize
  rw [← hsegments] at haddress hk haddress' hsplit
  have hidx := List.idxOf_lt_length_of_mem hv
  refine ⟨(assemble blocks).codeSize + k, haddress, ?_, s, ?_, hindex, s.values.idxOf v, ?_, ?_⟩
  · rw [Program.constantAt?, if_neg (by omega), Nat.add_sub_cancel_left]
    exact hk
  · change s ∈ (Layout.ofBlocks blocks).segments
    simp [hsplit]
  · rw [← haddress, haddress']
  · rw [List.getElem?_eq_getElem hidx, List.getElem_idxOf]

theorem LoweredProgram.Valid.constantsPlaced {p : Sierra.Program} {r : Registry} {m : Metadata}
    {l : LoweredProgram} (hbuild : Registry.build p = .ok r) (hl : l.Valid ⟨r, m⟩) :
    l.ConstantsPlaced p (assemble l.blocks) := by
  have hexact := Pool.exact_ofCode l.blocks.flatten
  refine
    { ascending := ?_
      first := fun h => ?_
      next := fun {before after s t} h => ?_
      last := fun {before s} h => ?_
      distinct := fun s hs => ?_
      used := fun s hs v hv => ?_
      instructions := l.flatten_code
      sizes := map_size_resolveAll _ 0 l.blocks.flatten
      address := fun {i segment v} h => ?_ }
  · rw [segments_assemble]
    exact (Pool.ofCode_spec l.blocks.flatten).1.pairwise_index _
  · exact @offset_assemble l.blocks [] _ _ h
  · have ht : (assemble l.blocks).segments = (before ++ [s]) ++ t :: after := by
      rw [h, List.append_assoc]
      rfl
    rw [offset_assemble ht, offset_assemble h, List.flatMap_append, List.length_append,
      List.flatMap_singleton]
    omega
  · rw [offset_assemble h, Program.bytecodeSize, Program.constants, h, List.flatMap_append,
      List.length_append, List.flatMap_singleton]
    omega
  · obtain ⟨entry, hentry, -, hvalues⟩ := exists_entry hs
    rw [hvalues]
    exact (hexact entry hentry).1
  · obtain ⟨entry, hentry, hindex, hvalues⟩ := exists_entry hs
    rw [hvalues] at hv
    rw [hindex]
    exact hl.boxes_of_mem hbuild ((hexact entry hentry).2 v hv)
  · obtain ⟨n, rfl, hblock⟩ := hl.block_of_boxes hbuild h
    have hmem : Code.constAddress n v ∈ l.blocks.flatten :=
      List.mem_flatten.mpr ⟨_, List.mem_of_getElem? hblock, List.mem_singleton.mpr rfl⟩
    obtain ⟨a, ha, hword⟩ := exists_address hmem
    refine ⟨a, ?_, hword⟩
    rw [LoweredProgram.code, getElem?_resolveBlocks, hblock, Option.map_some, ← ha]
    rfl

end Lowering

open Lowering in
/-- In a compiled program the constants follow the code, segment by segment, each once and none
that is not used; the instruction of a statement that boxes a constant pushes the address of a word
with this constant, inside the segment that the statement names. -/
theorem constantsPlaced_of_compile {p : Sierra.Program} {r : Registry} {m : Metadata}
    {config : CompileConfig} {out : Casm.Program}
    (hbuild : Registry.build p = .ok r) (hanalyze : analyze r = .ok m)
    (hcompile : compile r m config = .ok out) :
    ∃ l, lowerProgram ⟨r, m⟩ = .ok l ∧ l.ConstantsPlaced p out := by
  obtain ⟨l, hlower, rfl⟩ := compile_eq_ok hcompile
  have hvalid := lowerProgram_valid (analyze_consistent hanalyze) hlower
  exact ⟨l, hlower, hvalid.constantsPlaced hbuild⟩

/-- A function boxes `7` and `-3` in segment `5`, then `7` in segment `2`, and `7` in segment `5`
once more. -/
def vault : Sierra.Program where
  types :=
    [.numbered 0 "felt252", .numbered 1 "Const" [.type { id := 0 }, .value 7],
     .numbered 2 "Const" [.type { id := 0 }, .value (-3)], .numbered 3 "Box" [.type { id := 0 }]]
  libfuncs :=
    [.numbered 0 "const_as_box" [.type { id := 1 }, .value 5],
     .numbered 1 "const_as_box" [.type { id := 2 }, .value 5],
     .numbered 2 "const_as_box" [.type { id := 1 }, .value 2],
     .numbered 3 "drop" [.type { id := 3 }]]
  statements :=
    [.numbered 0 [] [(.fallthrough, [0])],
     .numbered 1 [] [(.fallthrough, [1])],
     .numbered 2 [] [(.fallthrough, [2])],
     .numbered 0 [] [(.fallthrough, [3])],
     .numbered 3 [0] [(.fallthrough, [])],
     .numbered 3 [1] [(.fallthrough, [])],
     .numbered 3 [2] [(.fallthrough, [])],
     .numbered 3 [3] [(.fallthrough, [])],
     .ret []]
  functions := [.numbered 0 [] [] 0]

open Lowering Casm in
/-- The constants of `vault`: segment `2` comes first, and segment `5` holds `7` once. -/
theorem constantsPlaced_vault :
    ∃ r m out l, Registry.build vault = .ok r ∧ analyze r = .ok m ∧ compile r m {} = .ok out ∧
      lowerProgram ⟨r, m⟩ = .ok l ∧
      out = { instructions := [push top (.immediate 10), push top (.immediate 11),
                push top (.immediate 9), push top (.immediate 10), { body := .ret }]
              segments := [⟨2, 9, [7]⟩, ⟨5, 10, [7, -3]⟩] } ∧
      Boxes vault 1 5 (-3) ∧ l.ConstantsPlaced vault out := by
  obtain ⟨r, hbuild, hr⟩ : ∃ r, Registry.build vault = .ok r ∧
      ((analyze r).toOption.any fun m => (compile r m {}).toOption.any fun out =>
        decide (out =
          { instructions := [push top (.immediate 10), push top (.immediate 11),
              push top (.immediate 9), push top (.immediate 10), { body := .ret }]
            segments := [⟨2, 9, [7]⟩, ⟨5, 10, [7, -3]⟩] })) = true :=
    exists_of_toOption_any (by decide +kernel)
  obtain ⟨m, hanalyze, hm⟩ := exists_of_toOption_any hr
  obtain ⟨out, hcompile, hout⟩ := exists_of_toOption_any hm
  have hboxes : Boxes vault 1 5 (-3) :=
    ⟨_, .numbered 1 "const_as_box" [.type { id := 2 }, .value 5], { id := 2 }, { id := 0 }, rfl,
      by decide, rfl, rfl, .numbered 2 "Const" [.type { id := 0 }, .value (-3)], by decide, rfl,
      rfl⟩
  obtain ⟨l, hlower, hplaced⟩ := constantsPlaced_of_compile hbuild hanalyze hcompile
  exact ⟨r, m, out, l, hbuild, hanalyze, hcompile, hlower, of_decide_eq_true hout, hboxes, hplaced⟩

end SierraCasm
