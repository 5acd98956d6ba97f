import SierraCasm.Proofs.Document.Reloaded

/-! # Programs that are written and read

A program whose arguments have content is read from its text as it was, but for the absent list of
a return, which is written as an empty one.  The program that is read has the same text, debug
information included.

Unlike loading, reading a program asks for no shape: absent lists and negative indices are read
back, and so is debug information whose values conflict. -/

namespace SierraCasm.Document

open Json (Proper)
open Json.Machine (maxDepth)

/-! ### Programs with a text -/

/-- The targets of a statement. -/
def Statement.targets : Statement → List Sierra.Target
  | .invoke i => i.branches.items.map (·.target)
  | .ret _ => []

/-- The arguments of a program have content, and its indices are machine words. -/
structure Program.HasText (p : Program) : Prop where
  args : ∀ d ∈ p.types.items ++ p.libfuncs.items, ∀ arg ∈ d.longId.args.items,
    arg.wellFormed = true
  targets : ∀ s ∈ p.statements.items, ∀ i, .statement i ∈ s.targets → InRange i
  entries : ∀ f ∈ p.functions.items, InRange f.entry

/-- A statement in which the list of a return is there. -/
def Statement.listed : Statement → Statement
  | .invoke i => .invoke i
  | .ret vars => .ret (some vars.items)

/-- A program in which the lists of all returns are there. -/
def Program.listed (p : Program) : Program :=
  { p with statements := p.statements.map (List.map Statement.listed) }

theorem Program.items_listed (p : Program) :
    p.listed.statements.items = p.statements.items.map Statement.listed := by
  rw [Program.listed]
  cases p.statements <;> rfl

theorem writeStatement_listed (s : Statement) : writeStatement s.listed = writeStatement s := by
  cases s <;> rfl

theorem writeListing_listed (l : Listing Statement) :
    writeListing writeStatement (l.map (List.map Statement.listed)) =
      writeListing writeStatement l := by
  cases l with
  | none => rfl
  | some items =>
    refine congrArg Json.array ?_
    rw [List.map_map]
    exact List.map_congr_left fun s _ => writeStatement_listed s

/-! ### The forms of its records -/

theorem exists_writeDeclaration {d : Declaration}
    (h : ∀ arg ∈ d.longId.args.items, arg.wellFormed = true) :
    ∃ j, writeDeclaration d = .ok j ∧ Format.declaration.Writes d j := by
  obtain ⟨args, hwrite, hargs⟩ := exists_tryWriteListing fun arg harg => writes_arg (h arg harg)
  exact ⟨_, writeDeclaration_eq_ok (writeLongId_eq_ok hwrite),
    writes_declaration (writes_longId hargs)⟩

theorem writes_statement {s : Statement} (h : ∀ i, .statement i ∈ s.targets → InRange i) :
    Format.statement.Writes s.listed (writeStatement s.listed) := by
  have hvars : ∀ l : Listing Sierra.VarId, Format.var.list.Writes l (writeListing writeVar l) :=
    fun _ => writes_listing fun v _ => writes_var v
  cases s with
  | invoke i =>
    refine writes_invoke (writes_invocation (hvars _) (writes_listing fun b hb => ?_))
    refine writes_branch (writes_target fun n hn => h n ?_) (hvars _)
    exact List.mem_map.mpr ⟨b, hb, hn⟩
  | ret vars => exact writes_ret vars.items

theorem writes_functionOfEntry {f : Function} (h : InRange f.entry) :
    Format.function.Writes f (writeFunction f) := by
  have hidents : ∀ l : Listing Sierra.Ident,
      Format.ident.list.Writes l (writeListing writeIdent l) :=
    fun _ => writes_listing fun i _ => writes_ident i
  exact writes_function (writes_signature (hidents _) (hidents _))
    (writes_listing fun p _ => writes_param p) (writes_index h)

/-! ### Artifacts -/

section artifact

variable {p : Program} {types libfuncs statements functions : Json} {debugInfo : Option Json}

theorem areKeys_artifactMembers :
    AreKeys ((artifactMembers types libfuncs statements functions debugInfo).map Prod.fst) := by
  cases debugInfo with
  | none =>
    exact (by decide : AreKeys
      ["type_declarations", "libfunc_declarations", "statements", "funcs"])
  | some j =>
    exact (by decide : AreKeys
      ["type_declarations", "libfunc_declarations", "statements", "funcs", "debug_info"])

variable (hdebug : ∀ j ∈ debugInfo, Proper (fun _ => True) (maxDepth - 1) j)
include hdebug

theorem render_artifactMembers :
    (Json.object (artifactMembers types libfuncs statements functions
        (debugInfo.map (Json.rendered true)))).render =
      (Json.object (artifactMembers types libfuncs statements functions debugInfo)).render := by
  cases debugInfo with
  | none => rfl
  | some d =>
    have hinfo : Json.writeMember true ("debug_info", d.rendered true) =
        Json.writeMember true ("debug_info", d) :=
      congrArg (Json.writeString true "debug_info" ++ ":" ++ ·)
        (Json.write_rendered (hdebug d rfl) true)
    simp only [Json.render, Json.object, Json.write, Json.writeMembers_eq_intercalate,
      artifactMembers, Option.map_some, Option.toList_some, List.map_append, List.map_cons,
      List.map_nil, hinfo]

variable (htypes : Format.declaration.list.Writes p.types types)
  (hlibfuncs : Format.declaration.list.Writes p.libfuncs libfuncs)
  (hstatements : Format.statement.list.Writes p.statements statements)
  (hfunctions : Format.function.list.Writes p.functions functions)
include htypes hlibfuncs hstatements hfunctions

/-- A program is read from its text, with its debug information as it is written. -/
theorem run_artifactMembers :
    ∃ tree, Json.parse? (Json.object
        (artifactMembers types libfuncs statements functions debugInfo)).render = some tree ∧
      Reader.artifact.run tree = .ok ⟨p, debugInfo.map (Json.rendered true)⟩ := by
  have hkeys : AreKeys
      ((artifactMembers types libfuncs statements functions debugInfo).map Prod.fst) :=
    areKeys_artifactMembers
  have hfits := fits_artifactMembers htypes hlibfuncs hstatements hfunctions hdebug
  have hproper : Proper (fun _ => True) maxDepth
      (.object (artifactMembers types libfuncs statements functions debugInfo)) :=
    proper_object (n := maxDepth - 1)
      (fun m hm => Text.isKeyword_of_plain (plain_of_areKeys hkeys m hm)) fun m hm => (hfits m hm).1
  have habsent : debugInfo = none → "debug_info" ∉
      (artifactMembers types libfuncs statements functions debugInfo).map Prod.fst := by
    rintro rfl
    simp [artifactMembers]
  exact ⟨_, Json.parse?_write hproper true, run_artifact htypes hlibfuncs hstatements hfunctions
    hkeys (fun _ hm => hm) habsent fun m hm => (hfits m hm).2⟩

end artifact

theorem Program.HasText.exists_forms {p : Program} (h : p.HasText) : ∃ types libfuncs,
    tryWriteListing writeDeclaration p.types = .ok types ∧
      tryWriteListing writeDeclaration p.libfuncs = .ok libfuncs ∧
      Format.declaration.list.Writes p.types types ∧
      Format.declaration.list.Writes p.libfuncs libfuncs := by
  obtain ⟨types, hwriteTypes, htypes⟩ := exists_tryWriteListing (l := p.types) fun d hd =>
    exists_writeDeclaration (h.args d (List.mem_append_left _ hd))
  obtain ⟨libfuncs, hwriteLibfuncs, hlibfuncs⟩ := exists_tryWriteListing (l := p.libfuncs)
    fun d hd => exists_writeDeclaration (h.args d (List.mem_append_right _ hd))
  exact ⟨types, libfuncs, hwriteTypes, hwriteLibfuncs, htypes, hlibfuncs⟩

theorem Program.HasText.writes_statements {p : Program} (h : p.HasText) :
    Format.statement.list.Writes p.listed.statements
      (writeListing writeStatement p.statements) := by
  rw [← writeListing_listed p.statements]
  refine writes_listing fun s hs => ?_
  rw [p.items_listed] at hs
  obtain ⟨s, hmem, rfl⟩ := List.mem_map.mp hs
  exact writes_statement (h.targets s hmem)

/-- What is written for a program is read as that program, and written again as the same text.
Only the absent list of a return is there when it is read.  Debug information may be any tree, but
the parser has to find room for it within the artifact. -/
theorem run_parse_writeArtifact {a : Artifact} (hprogram : a.program.HasText)
    (hdebug : ∀ d ∈ a.debugInfo, Proper (fun _ => True) (maxDepth - 1) d) :
    ∃ j, writeArtifact a = .ok j ∧ ∃ tree, Json.parse? j.render = some tree ∧
      ∃ b, Reader.artifact.run tree = .ok b ∧ b.program = a.program.listed ∧
        ∃ again, writeArtifact b = .ok again ∧ again.render = j.render := by
  obtain ⟨types, libfuncs, hwriteTypes, hwriteLibfuncs, htypes, hlibfuncs⟩ :=
    hprogram.exists_forms
  have hfunctions : Format.function.list.Writes a.program.functions
      (writeListing writeFunction a.program.functions) :=
    writes_listing fun f hf => writes_functionOfEntry (hprogram.entries f hf)
  obtain ⟨tree, hparse, hrun⟩ := run_artifactMembers (p := a.program.listed) hdebug htypes
    hlibfuncs hprogram.writes_statements hfunctions
  have hwrite := programMembers_eq_ok hwriteTypes hwriteLibfuncs
  have hagain : programMembers a.program.listed = programMembers a.program := by
    rw [hwrite, programMembers_eq_ok (p := a.program.listed) hwriteTypes hwriteLibfuncs]
    simp only [Program.listed, writeListing_listed]
  refine ⟨_, writeArtifact_eq_ok hwrite, tree, hparse, _, hrun, rfl, _,
    writeArtifact_eq_ok (hagain.trans hwrite), ?_⟩
  exact render_artifactMembers hdebug

/-- A type with an argument of each kind, the largest id, and a name that is written with
escapes. -/
def widestType : Declaration :=
  ⟨⟨.ofNat (UInt64.size - 1), "Struct<\"&\u2028\x01\">"⟩,
    ⟨"Struct", some [.type ⟨0, ""⟩, .userType ⟨1, "ut@"⟩, .value (-123456789012345678901234567890),
      .libfunc ⟨2, "f"⟩, .userFunc ⟨3, "main"⟩]⟩⟩

/-- An invocation without arguments, which goes on or jumps to a statement that cannot exist. -/
def widestInvocation : Invocation :=
  ⟨⟨0, ""⟩, none, some [⟨.fallthrough, none⟩, ⟨.statement (-1), some []⟩]⟩

/-- A program with absent and empty lists and statements that return an absent and an empty list. -/
def widestProgram : Program :=
  ⟨some [widestType], none, some [.invoke widestInvocation, .ret none, .ret (some [])],
    some [⟨⟨0, "main"⟩, ⟨none, some []⟩, none, -7⟩]⟩

/-- Debug information with a repeated key, half of a surrogate pair and a number that is not an
integer. -/
def widestInfo : Json :=
  .obj "" [("a<", .arr "" [.num "1.50e+5", .null]), ("a<", .str "\\ud800>")]

theorem run_parse_widestProgram :
    widestProgram.HasText ∧ Proper (fun _ => True) (maxDepth - 1) widestInfo ∧
      ∃ j, writeArtifact ⟨widestProgram, some widestInfo⟩ = .ok j ∧
        ∃ tree, Json.parse? j.render = some tree ∧
          ∃ b, Reader.artifact.run tree = .ok b ∧
            b.program = { widestProgram with
              statements := some [.invoke widestInvocation, .ret (some []), .ret (some [])] } ∧
            ∃ again, writeArtifact b = .ok again ∧ again.render = j.render := by
  have hprogram : widestProgram.HasText := by
    refine ⟨by decide, ?_, ?_⟩
    · intro s hs i hi
      have htargets : ∀ s ∈ widestProgram.statements.items, ∀ t ∈ s.targets,
          t = .fallthrough ∨ t = .statement (-1) := by decide
      rcases htargets s hs _ hi with h | h
      · cases h
      · obtain rfl := Sierra.Target.statement.inj h
        exact ⟨by decide, by decide⟩
    · intro f hf
      obtain rfl := List.mem_singleton.mp hf
      exact ⟨by decide, by decide⟩
  have hinfo : Proper (fun _ => True) (maxDepth - 1) widestInfo := by
    have hkey : Json.Spells (fun _ => True) "a<" :=
      ⟨.char (by decide) (by decide) (by decide) (.char (by decide) (by decide) (by decide) .nil),
        fun _ _ => trivial⟩
    have htext : Json.Spells (fun _ => True) "\\ud800>" :=
      ⟨.unicode (List.all_eq_true.mp (by decide)) (.char (by decide) (by decide) (by decide) .nil),
        fun _ _ => trivial⟩
    have hitems : ∀ j ∈ [Json.num "1.50e+5", .null], Proper (fun _ => True) 0 j := by
      simp only [List.forall_mem_cons]
      exact ⟨.num (by decide), .null, List.forall_mem_nil _⟩
    have hproper : Proper (fun _ => True) 2 widestInfo := by
      refine .obj ?_ ?_
      · simpa using hkey
      · simp only [List.forall_mem_cons]
        exact ⟨.arr hitems, .str htext, List.forall_mem_nil _⟩
    exact hproper.mono (fun _ h => h) (by decide)
  refine ⟨hprogram, hinfo, run_parse_writeArtifact hprogram fun d hd => ?_⟩
  obtain rfl := Option.mem_some_iff.mp hd
  exact hinfo

end SierraCasm.Document
