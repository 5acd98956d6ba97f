import SierraCasm.Proofs.Document.Loading
import SierraCasm.Proofs.Document.Records
import SierraCasm.Proofs.Document.Unification

/-! # Reloaded documents

A program that was loaded can be written, and what is written can be loaded as the same program if
nothing in it is absent or negative and no name holds a byte order mark.  Otherwise it is refused.
Where the version stands among the members does not matter. -/

namespace SierraCasm.Document

open Json (Proper)
open Json.Machine (maxDepth)
open Text (isKeyword)

/-! ### The text of a tree -/

section text

variable {c : Checker} (hc : c.Lawful)
include hc

/-- A tree is parsed from its text as it is written, unless that holds a byte order mark. -/
theorem Checker.Lawful.parse_render {P : Char → Prop} {j : Json} (h : Proper P maxDepth j)
    (hmark : ¬ IsMarked j) : c.parse j.render.toUTF8 = .ok (j.rendered true) :=
  Checker.parse_toUTF8 (hc.compact h hmark) (Json.parse?_write h true)

theorem Checker.Lawful.parses_of_isMarked {j : Json} (hmark : IsMarked j) :
    c.parses j.render = false :=
  Bool.eq_false_iff.mpr fun h => hc.unmarked h hmark

end text

/-- A tree of integers, truth values, arrays, and objects with keywords as keys, nested at most `n`
deep. -/
inductive Simple : Nat → Json → Prop
  | int {n : Nat} (i : Int) : Simple n (.int i)
  | bool {n : Nat} (b : Bool) : Simple n (.bool b)
  | array {n : Nat} {items : List Json} : (∀ j ∈ items, Simple n j) → Simple (n + 1) (.array items)
  | object {n : Nat} {members : List (String × Json)} :
      (∀ m ∈ members, isKeyword m.1 = true) → (∀ m ∈ members, Simple n m.2) →
      Simple (n + 1) (.object members)

theorem Simple.proper {n : Nat} {j : Json} (h : Simple n j) : Proper (· ≠ byteOrderMark) n j := by
  induction h with
  | int i => exact proper_int i
  | bool b => exact .bool
  | array _ ih => exact .arr ih
  | object hkeys _ ih =>
    refine .obj (fun m hm => ⟨isSpelling_of_isKeyword (hkeys m hm), fun c hc => ?_⟩) ih
    exact Text.ne_of_isLetterCode (Text.isLetterCode_of_mem (hkeys m hm) c hc) _ (by decide)

theorem Simple.rendered_eq {n : Nat} {j : Json} (h : Simple n j) : j.rendered true = j := by
  induction h with
  | int i => rfl
  | bool b => rfl
  | array _ ih =>
    rw [Json.array, Json.rendered, Json.renderedItems_eq_map, List.map_congr_left ih, List.map_id']
    rfl
  | object hkeys _ ih =>
    rw [rendered_object hkeys, List.map_congr_left fun m hm => by rw [ih m hm], List.map_id']
    rfl

theorem Simple.parse_eq {c : Checker} (hc : c.Lawful) {j : Json} (h : Simple maxDepth j) :
    c.parse j.render.toUTF8 = .ok j := by
  rw [hc.parse_render h.proper (not_isMarked_of_proper h.proper), h.rendered_eq]

/-! ### Debug information -/

/-- A letter is not taken for another one, but for its case, if it is neither `s` nor `k`. -/
theorem isLetterCode_of_foldChar {c : Char} (h : Text.isPlain (foldChar c).toNat = true)
    (hs : foldChar c ≠ 's') (hk : foldChar c ≠ 'k') : Text.isLetterCode c.toNat = true := by
  unfold foldChar at h hs hk
  split at h
  · exact absurd rfl hs
  · exact absurd rfl hk
  · rename_i hlong hsign
    rw [Text.isLetterCode]
    by_cases hupper : c.val ≥ 'A'.val ∧ c.val ≤ 'Z'.val
    · have hfirst : 65 ≤ c.toNat := UInt32.le_iff_toNat_le.mp hupper.1
      have hlast : c.toNat ≤ 90 := UInt32.le_iff_toNat_le.mp hupper.2
      have hne : c.toNat ≠ 75 := by
        intro hcode
        obtain rfl : c = 'K' := Char.toNat_inj.mp hcode
        exact hk (by decide)
      simp [hfirst, hlast, hne]
    · have hsame : c.toLower = c := dif_neg hupper
      rw [hsame] at h
      rw [h, Bool.or_true]

theorem isKeyword_of_foldKey {key : String} (h : foldKey key = "debug_info") :
    isKeyword key = true := by
  have hplain : ("debug_info".toList.all fun d =>
      Text.isPlain d.toNat && d != 's' && d != 'k') = true := by decide
  refine List.all_eq_true.mpr fun c hc => ?_
  have hmem : foldChar c ∈ "debug_info".toList := by
    rw [← h, foldKey, String.toList_ofList]
    exact List.mem_map_of_mem hc
  have hd := List.all_eq_true.mp hplain _ hmem
  simp only [Bool.and_eq_true, bne_iff_ne] at hd
  exact isLetterCode_of_foldChar hd.1.1 hd.1.2 hd.2

theorem proper_of_mem {P : Char → Prop} {n : Nat} {text : String} {members : List (String × Json)}
    (h : Proper P n (.obj text members)) : ∀ m ∈ members, Proper P (n - 1) m.2 := by
  cases h with
  | obj _ h => exact h

/-- A tree that can be the debug information of a document. -/
structure IsInner (c : Checker) (j : Json) : Prop where
  proper : Proper (· ≠ byteOrderMark) (maxDepth - 1) j
  agrees : c.agrees [j] = true

theorem Checker.Lawful.isInner_of_mem {c : Checker} (hc : c.Lawful) {j : Json}
    (hproper : Proper (· ≠ byteOrderMark) maxDepth j) (hagrees : c.agrees [j] = true) :
    ∀ d ∈ Given.member [j] "debug_info", IsInner c d := by
  intro d hd
  cases j with
  | obj text members =>
    have hnamed : d ∈ named "debug_info" members := by simpa [Given.member] using hd
    obtain ⟨m, hm, rfl⟩ := List.mem_map.mp hnamed
    obtain ⟨hmem, hkey⟩ := List.mem_filter.mp hm
    have hlabel := (hc.label_eq_field (isKeyword_of_foldKey (beq_iff_eq.mp hkey))).mpr rfl
    have hvalue : m.2 ∈ c.values (Json.content m.1) [.obj text members] := by
      rw [Checker.values_cons, Checker.valuesIn]
      refine List.mem_append_left _ (List.mem_map.mpr ⟨m, List.mem_filter.mpr ⟨hmem, ?_⟩, rfl⟩)
      exact decide_eq_true hlabel
    refine ⟨proper_of_mem hproper m hmem, ?_⟩
    exact hc.agrees_of_mem (hc.agrees_values hagrees (List.ne_nil_of_mem hvalue)) hvalue
  | _ => exact absurd hd List.not_mem_nil

/-! ### Documents -/

/-- The lists of a program and their checks. -/
def programChecks : List (String × (Json → Except ReadFault Unit)) :=
  [("type_declarations", (Reader.list Reader.declaration).check),
    ("libfunc_declarations", (Reader.list Reader.declaration).check),
    ("statements", (Reader.list Reader.statement).check),
    ("funcs", (Reader.list Reader.function).check)]

theorem check_artifact : Reader.artifact.check = Reader.checkRecord programChecks := by
  rw [programChecks]
  rfl

/-- The members of a program with its debug information. -/
def artifactMembers (types libfuncs statements functions : Json) (debugInfo : Option Json) :
    List (String × Json) :=
  [("type_declarations", types), ("libfunc_declarations", libfuncs), ("statements", statements),
    ("funcs", functions)] ++ (debugInfo.map fun j => ("debug_info", j)).toList

theorem areKeys_documentMembers (types libfuncs statements functions : Json)
    (debugInfo : Option Json) : AreKeys ((("version", .int 1) ::
      artifactMembers types libfuncs statements functions debugInfo).map Prod.fst) := by
  cases debugInfo with
  | none =>
    exact (by decide : AreKeys
      ["version", "type_declarations", "libfunc_declarations", "statements", "funcs"])
  | some j =>
    exact (by decide : AreKeys
      ["version", "type_declarations", "libfunc_declarations", "statements", "funcs", "debug_info"])

section document

variable {p : Program} {types libfuncs statements functions : Json} {debugInfo : Option Json}

variable (htypes : Format.declaration.list.Writes p.types types)
  (hlibfuncs : Format.declaration.list.Writes p.libfuncs libfuncs)
  (hstatements : Format.statement.list.Writes p.statements statements)
  (hfunctions : Format.function.list.Writes p.functions functions)
include htypes hlibfuncs hstatements hfunctions

/-- Each member is nested less deep than a text may be, and the lists pass their checks. -/
theorem fits_artifactMembers
    (hdebug : ∀ j ∈ debugInfo, Proper (fun _ => True) (maxDepth - 1) j) :
    ∀ m ∈ artifactMembers types libfuncs statements functions debugInfo,
      Proper (fun _ => True) (maxDepth - 1) m.2 ∧
        ∀ check, programChecks.lookup m.1 = some check → check (m.2.rendered true) = .ok () := by
  have hfits : ∀ {m : String × Json}, Fits (maxDepth - 1) programChecks m →
      Proper (fun _ => True) (maxDepth - 1) m.2 ∧
        ∀ check, programChecks.lookup m.1 = some check → check (m.2.rendered true) = .ok () :=
    fun h => ⟨h.proper, h.check⟩
  simp only [artifactMembers, List.cons_append, List.nil_append, List.forall_mem_cons]
  refine ⟨hfits (htypes.fits (by decide) rfl), hfits (hlibfuncs.fits (by decide) rfl),
    hfits (hstatements.fits (by decide) rfl), hfits (hfunctions.fits (by decide) rfl),
    fun m hm => ?_⟩
  rw [Option.mem_toList] at hm
  obtain ⟨d, hd, rfl⟩ := Option.map_eq_some_iff.mp hm
  refine ⟨hdebug d hd, fun check h => ?_⟩
  have hunchecked : programChecks.lookup "debug_info" = none := by simp [programChecks]
  rw [hunchecked] at h
  cases h

/-- What is read from an object with the members of a program, and none else that is checked. -/
theorem run_artifact {members : List (String × Json)} (hkeys : AreKeys (members.map Prod.fst))
    (hmem : ∀ m ∈ artifactMembers types libfuncs statements functions debugInfo, m ∈ members)
    (habsent : debugInfo = none → "debug_info" ∉ members.map Prod.fst)
    (hchecks : ∀ m ∈ members, ∀ check, programChecks.lookup m.1 = some check →
      check (m.2.rendered true) = .ok ()) :
    Reader.artifact.run ((Json.object members).rendered true) =
      .ok ⟨p, debugInfo.map (Json.rendered true)⟩ := by
  have hgiven := gives_rendered hkeys
  refine Reader.run_eq_ok.mpr ⟨?_, ?_⟩
  · rw [check_artifact]
    exact checkRecord_rendered hkeys hchecks
  · have hinfo : (Given.member [(Json.object members).rendered true] "debug_info").getLast? =
        debugInfo.map (Json.rendered true) := by
      cases debugInfo with
      | none =>
        rw [hgiven.absent (habsent rfl)]
        rfl
      | some j =>
        rw [hgiven.present (j := j) (hmem _ (by simp [artifactMembers]))]
        rfl
    show Artifact.mk (Program.mk
        ((Reader.list Reader.declaration).read (Given.member _ "type_declarations"))
        ((Reader.list Reader.declaration).read (Given.member _ "libfunc_declarations"))
        ((Reader.list Reader.statement).read (Given.member _ "statements"))
        ((Reader.list Reader.function).read (Given.member _ "funcs"))) _ =
          Artifact.mk (Program.mk p.types p.libfuncs p.statements p.functions) _
    rw [hgiven.present (j := types) (hmem _ (by simp [artifactMembers])),
      hgiven.present (j := libfuncs) (hmem _ (by simp [artifactMembers])),
      hgiven.present (j := statements) (hmem _ (by simp [artifactMembers])),
      hgiven.present (j := functions) (hmem _ (by simp [artifactMembers])), hinfo]
    exact congrArg (Artifact.mk · _) (congr (congr (congrArg₂ Program.mk htypes.read
      hlibfuncs.read) hstatements.read) hfunctions.read)

variable {c : Checker} (hc : c.Lawful) (hdebug : ∀ j ∈ debugInfo, IsInner c j)
include hdebug

theorem isMarked_artifactMembers :
    (∃ m ∈ artifactMembers types libfuncs statements functions debugInfo, IsMarked m.2) ↔
      HoldsMark p.names := by
  have hunmarked : ¬ ∃ m ∈ (debugInfo.map fun j => ("debug_info", j)).toList, IsMarked m.2 := by
    rintro ⟨m, hm, hmark⟩
    rw [Option.mem_toList] at hm
    obtain ⟨j, hj, rfl⟩ := Option.map_eq_some_iff.mp hm
    exact not_isMarked_of_proper (hdebug j hj).proper hmark
  simp only [artifactMembers, List.cons_append, List.nil_append, List.exists_mem_cons_iff,
    hunmarked, htypes.marked, hlibfuncs.marked, hstatements.marked, hfunctions.marked]
  simp [Program.names, Format.list, Format.declaration, Format.statement, Format.function]

include hc

theorem agrees_artifactMembers :
    ∀ m ∈ artifactMembers types libfuncs statements functions debugInfo,
      c.agrees [m.2] = true := by
  simp only [artifactMembers, List.cons_append, List.nil_append, List.forall_mem_cons]
  refine ⟨htypes.shapes.agrees hc, hlibfuncs.shapes.agrees hc, hstatements.shapes.agrees hc,
    hfunctions.shapes.agrees hc, fun m hm => ?_⟩
  rw [Option.mem_toList] at hm
  obtain ⟨j, hj, rfl⟩ := Option.map_eq_some_iff.mp hm
  exact (hdebug j hj).agrees

section members

variable {document : List (String × Json)} (hkeys : AreKeys (document.map Prod.fst))
  (hversion : ("version", .int 1) ∈ document)
  (hmem : ∀ m ∈ artifactMembers types libfuncs statements functions debugInfo, m ∈ document)
  (habsent : debugInfo = none → "debug_info" ∉ document.map Prod.fst)
  (hagrees : ∀ m ∈ document, c.agrees [m.2] = true)
include hkeys hversion hagrees

omit htypes hlibfuncs hstatements hfunctions hdebug in
theorem conforms_envelope : c.conforms Schema.envelope [.object document] = true := by
  have haccepts : Schema.Scalar.integerOrText.accepts (.int 1) = true := by decide +kernel
  refine hc.conforms_object hkeys hagrees (fun given hholds => ?_) _
  exact congrArg₂ and (hholds.present hversion ((hc.scalar_int _ 1).trans haccepts)) rfl

omit htypes hlibfuncs hstatements hfunctions hdebug hagrees in
theorem version?_rendered :
    c.version? ((Json.object document).rendered true) = some supportedVersion := by
  have hkeys' : AreKeys ((document.map fun m => (m.1, m.2.rendered true)).map Prod.fst) := by
    rw [List.map_map]
    exact hkeys
  have hmem' : ("version", .int 1) ∈ document.map fun m => (m.1, m.2.rendered true) :=
    List.mem_map.mpr ⟨_, hversion, rfl⟩
  rw [Checker.version?, rendered_record hkeys, hc.values_object hkeys',
    filter_eq_singleton hkeys'.2 hmem']
  decide +kernel

include hmem habsent in
theorem conforms_program :
    c.conforms Schema.program [.object document] = p.isComplete := by
  have haccepts : Schema.Scalar.version.accepts (.int 1) = true := by decide +kernel
  refine hc.conforms_object hkeys hagrees (fun given hholds => ?_) _
  have hinfo : c.holds given (Schema.optional "debug_info" .any) = true := by
    cases debugInfo with
    | none => exact hholds.absent (habsent rfl)
    | some j =>
      exact hholds.present (j := j) (hmem _ (by simp [artifactMembers])) (hdebug j rfl).agrees
  have hlists : Schema.programFields.all (c.holds given) =
      (Format.declaration.list.isComplete p.types &&
        (Format.declaration.list.isComplete p.libfuncs &&
          (Format.statement.list.isComplete p.statements &&
            (Format.function.list.isComplete p.functions && true)))) :=
    congrArg₂ and
      (hholds.present (hmem _ (by simp [artifactMembers])) (htypes.shapes.conforms hc))
      (congrArg₂ and
        (hholds.present (hmem _ (by simp [artifactMembers])) (hlibfuncs.shapes.conforms hc))
        (congrArg₂ and
          (hholds.present (hmem _ (by simp [artifactMembers])) (hstatements.shapes.conforms hc))
          (congrArg₂ and
            (hholds.present (hmem _ (by simp [artifactMembers])) (hfunctions.shapes.conforms hc))
            rfl)))
  refine (congrArg₂ and (hholds.present hversion ((hc.scalar_int _ 1).trans haccepts))
    (congrArg₂ and hinfo hlists)).trans ?_
  simp [Program.isComplete, Format.list, Format.declaration, Format.statement, Format.function,
    Bool.and_assoc]

end members

section order

variable {document : List (String × Json)} (hperm : document.Perm (("version", .int 1) ::
  artifactMembers types libfuncs statements functions debugInfo))
include hperm

omit htypes hlibfuncs hstatements hfunctions hdebug hc

theorem areKeys_document : AreKeys (document.map Prod.fst) :=
  (areKeys_documentMembers _ _ _ _ _).perm (hperm.map Prod.fst)

theorem isKeyword_of_mem_document : ∀ m ∈ document, isKeyword m.1 = true :=
  fun m hm => Text.isKeyword_of_plain (plain_of_areKeys (areKeys_document hperm) m hm)

theorem mem_document : ∀ m ∈ artifactMembers types libfuncs statements functions debugInfo,
    m ∈ document := fun _ hm => hperm.mem_iff.mpr (List.mem_cons_of_mem _ hm)

theorem forall_mem_document {Q : String × Json → Prop} (hversion : Q ("version", .int 1))
    (h : ∀ m ∈ artifactMembers types libfuncs statements functions debugInfo, Q m) :
    ∀ m ∈ document, Q m := by
  intro m hm
  rcases List.mem_cons.mp (hperm.mem_iff.mp hm) with rfl | hm
  · exact hversion
  · exact h m hm

theorem debugInfo_absent : debugInfo = none → "debug_info" ∉ document.map Prod.fst := by
  rintro rfl
  rw [(hperm.map Prod.fst).mem_iff]
  simp [artifactMembers]

include htypes hlibfuncs hstatements hfunctions hdebug

theorem isMarked_document : IsMarked (.object document) ↔ HoldsMark p.names := by
  rw [isMarked_object (isKeyword_of_mem_document hperm),
    ← isMarked_artifactMembers htypes hlibfuncs hstatements hfunctions hdebug]
  simp only [hperm.mem_iff, List.exists_mem_cons_iff, not_isMarked_int, false_or]

/-- A document is nested no deeper than a text may be, and the program it holds is read from it. -/
theorem run_document : Proper (fun _ => True) maxDepth (.object document) ∧
    Reader.artifact.run ((Json.object document).rendered true) =
      .ok ⟨p, debugInfo.map (Json.rendered true)⟩ := by
  have hdepth : ∀ j ∈ debugInfo, Proper (fun _ => True) (maxDepth - 1) j :=
    fun j hj => (hdebug j hj).proper.mono (fun _ _ => trivial) (Nat.le_refl _)
  have hfits := fits_artifactMembers htypes hlibfuncs hstatements hfunctions hdepth
  have hunchecked : ∀ check, programChecks.lookup "version" = some check →
      check ((Json.int 1).rendered true) = .ok () := by
    intro check h
    rw [show programChecks.lookup "version" = none by simp [programChecks]] at h
    cases h
  constructor
  · exact proper_object (n := maxDepth - 1) (isKeyword_of_mem_document hperm)
      (forall_mem_document hperm (proper_int 1) fun m hm => (hfits m hm).1)
  · exact run_artifact htypes hlibfuncs hstatements hfunctions (areKeys_document hperm)
      (mem_document hperm) (debugInfo_absent hperm)
      (forall_mem_document hperm hunchecked fun m hm => (hfits m hm).2)

include hc

/-- A document is loaded as the program it holds, in whichever order its members stand. -/
theorem load_document : c.load (Json.object document).render.toUTF8 =
    if HoldsMark p.names then .error .notJson
    else if p.isComplete then
      .ok ⟨supportedVersion, some ⟨p, debugInfo.map (Json.rendered true)⟩⟩
    else .error .shape := by
  have hmarked := isMarked_document htypes hlibfuncs hstatements hfunctions hdebug hperm
  by_cases hmark : HoldsMark p.names
  · rw [if_pos hmark]
    exact Checker.load_of_not_parses (hc.parses_of_isMarked (hmarked.mpr hmark))
  · have hkeys := areKeys_document hperm
    have hversion : ("version", .int 1) ∈ document := hperm.mem_iff.mpr List.mem_cons_self
    have hagrees : ∀ m ∈ document, c.agrees [m.2] = true :=
      forall_mem_document hperm (hc.agrees_int 1)
        (agrees_artifactMembers htypes hlibfuncs hstatements hfunctions hc hdebug)
    obtain ⟨hproper, hrun⟩ := run_document htypes hlibfuncs hstatements hfunctions hdebug hperm
    have henvelope := conforms_envelope hc hkeys hversion hagrees
    have hprogram := conforms_program htypes hlibfuncs hstatements hfunctions hc hdebug hkeys
      hversion (mem_document hperm) (debugInfo_absent hperm) hagrees
    rw [← hc.respelled _ hproper] at henvelope hprogram
    rw [if_neg hmark, Checker.load_eq (hc.parse_render hproper fun hj => hmark (hmarked.mp hj)),
      Checker.loadJson_eq ((hc.respelled .any hproper).trans (hc.agrees_object hkeys hagrees _))
        henvelope (version?_rendered hc hkeys hversion), hprogram, hrun]
    rfl

end order

end document

/-! ### Writing what was read -/

theorem programMembers_eq_ok {p : Program} {types libfuncs : Json}
    (htypes : tryWriteListing writeDeclaration p.types = .ok types)
    (hlibfuncs : tryWriteListing writeDeclaration p.libfuncs = .ok libfuncs) : programMembers p =
      .ok [("type_declarations", types), ("libfunc_declarations", libfuncs),
        ("statements", writeListing writeStatement p.statements),
        ("funcs", writeListing writeFunction p.functions)] := by
  rw [programMembers, htypes, hlibfuncs]
  rfl

theorem exists_programMembers (given : Given) : ∃ types libfuncs,
    programMembers (Reader.program.read given) = .ok
      [("type_declarations", types), ("libfunc_declarations", libfuncs),
        ("statements", writeListing writeStatement (Reader.program.read given).statements),
        ("funcs", writeListing writeFunction (Reader.program.read given).functions)] ∧
      Format.declaration.list.Writes (Reader.program.read given).types types ∧
      Format.declaration.list.Writes (Reader.program.read given).libfuncs libfuncs := by
  obtain ⟨types, hwriteTypes, htypes⟩ :=
    stores_declaration.list (given.member "type_declarations")
  obtain ⟨libfuncs, hwriteLibfuncs, hlibfuncs⟩ :=
    stores_declaration.list (given.member "libfunc_declarations")
  exact ⟨types, libfuncs, programMembers_eq_ok hwriteTypes hwriteLibfuncs, htypes, hlibfuncs⟩

theorem writeArtifact_eq_ok {a : Artifact} {members : List (String × Json)}
    (h : programMembers a.program = .ok members) : writeArtifact a =
      .ok (.object (members ++ (a.debugInfo.map fun j => ("debug_info", j)).toList)) := by
  rw [writeArtifact, h]
  rfl

/-- What was loaded can be written, and the document that is written, with its version put in at
any place, is loaded as the same program, unless one of its names holds a byte order mark or it is
not complete.  This is so whichever lawful checker parses and checks documents. -/
theorem load_writeArtifact {c : Checker} (hc : c.Lawful) {bytes : ByteArray} {a : Artifact}
    (hload : c.load bytes = .ok ⟨supportedVersion, some a⟩) :
    ∃ members, writeArtifact a = .ok (.object members) ∧ ∀ i ≤ members.length,
      c.load (Json.object (members.insertIdx i ("version", .int 1))).render.toUTF8 =
        if HoldsMark a.program.names then .error .notJson
        else if a.program.isComplete then
          .ok ⟨supportedVersion, some ⟨a.program, a.debugInfo.map (Json.rendered true)⟩⟩
        else .error .shape := by
  obtain ⟨j, hparse, hj⟩ := bind_eq_ok.mp hload
  obtain ⟨hagrees, -, -, -, hrun⟩ := Checker.loadJson_eq_ok.mp hj
  obtain ⟨-, rfl⟩ := Reader.run_eq_ok.mp hrun
  obtain ⟨s, -, hparses, hs⟩ := Checker.parse_eq_ok.mp hparse
  have hproper : Proper (· ≠ byteOrderMark) maxDepth j := by
    refine Json.proper_of_parse? (fun c hmem => ?_) hs
    rintro rfl
    exact hc.unmarked hparses hmem
  have hdebug : ∀ d ∈ (Given.member [j] "debug_info").getLast?, IsInner c d :=
    fun d hd => hc.isInner_of_mem hproper hagrees d (List.mem_of_mem_getLast? hd)
  obtain ⟨types, libfuncs, hmembers, htypes, hlibfuncs⟩ := exists_programMembers [j]
  have hstatements := stores_statement.listing.writes (Given.member [j] "statements")
  have hfunctions := stores_function.listing.writes (Given.member [j] "funcs")
  refine ⟨_, writeArtifact_eq_ok hmembers, fun i hi => ?_⟩
  exact load_document htypes hlibfuncs hstatements hfunctions hc hdebug
    (List.perm_insertIdx ("version", Json.int 1) _ hi)

/-- A type whose name is written with escapes. -/
def boxType : Declaration := ⟨⟨0, "Box<felt252>"⟩, ⟨"Box", some []⟩⟩

/-- A statement that may jump. -/
def boxInvocation : Invocation := ⟨⟨0, "jump"⟩, some [⟨0⟩], some [⟨.statement 1, some [⟨0⟩]⟩]⟩

/-- A function without parameters. -/
def boxFunction : Function := ⟨⟨0, "main"⟩, ⟨some [], some []⟩, some [], 0⟩

/-- A program that is complete. -/
def boxProgram : Program :=
  ⟨some [boxType], some [], some [.invoke boxInvocation, .ret (some [⟨0⟩])], some [boxFunction]⟩

/-- Its document, with debug information and with the members in reverse order. -/
def boxDocument : List (String × Json) :=
  (("version", .int 1) :: artifactMembers
    (.array [.object [("id", writeIdent boxType.id),
      ("long_id", .object [("generic_id", .string "Box"), ("generic_args", .array [])])]])
    (.array [])
    (.array [writeStatement (.invoke boxInvocation), writeStatement (.ret (some [⟨0⟩]))])
    (.array [writeFunction boxFunction]) (some (.int 7))).reverse

theorem load_boxDocument : unification.load (Json.object boxDocument).render.toUTF8 =
    .ok ⟨supportedVersion, some ⟨boxProgram, some (.int 7)⟩⟩ := by
  have htype : Format.declaration.Writes boxType (.object [("id", writeIdent boxType.id),
      ("long_id", .object [("generic_id", .string "Box"), ("generic_args", .array [])])]) :=
    writes_declaration (writes_longId (writes_array .nil))
  have hvars : Format.var.list.Writes (some [⟨0⟩]) (.array [writeVar ⟨0⟩]) :=
    writes_array (.cons (writes_var _) .nil)
  have htarget : Format.target.Writes (.statement 1) (writeTarget (.statement 1)) :=
    stores_target.writes [writeTarget (.statement 1)]
  have hinvocation : Format.invocation.Writes boxInvocation (writeInvocation boxInvocation) :=
    writes_invocation hvars (writes_array (.cons (writes_branch htarget hvars) .nil))
  have hfunction : Format.function.Writes boxFunction (writeFunction boxFunction) :=
    writes_function (writes_signature (writes_array .nil) (writes_array .nil)) (writes_array .nil)
      (writes_index ⟨by decide, by decide⟩)
  have hinner : ∀ j ∈ some (Json.int 7), IsInner unification j := by
    intro j hj
    obtain rfl := Option.mem_some_iff.mp hj
    exact ⟨proper_int 7, lawful_unification.agrees_int 7⟩
  exact load_document (p := boxProgram) (writes_array (.cons htype .nil)) (writes_array .nil)
    (writes_array (.cons (writes_invoke hinvocation) (.cons (writes_ret [⟨0⟩]) .nil)))
    (writes_array (.cons hfunction .nil)) lawful_unification hinner (List.reverse_perm _)

theorem load_writeArtifact_boxDocument :
    load (Json.object boxDocument).render.toUTF8 =
        .ok ⟨supportedVersion, some ⟨boxProgram, some (.int 7)⟩⟩ ∧
      ∃ members, writeArtifact ⟨boxProgram, some (.int 7)⟩ = .ok (.object members) ∧
        ∀ i ≤ members.length,
          load (Json.object (members.insertIdx i ("version", .int 1))).render.toUTF8 =
            .ok ⟨supportedVersion, some ⟨boxProgram, some (.int 7)⟩⟩ :=
  ⟨load_boxDocument, load_writeArtifact lawful_unification load_boxDocument⟩

/-- The lists of a program in which all are absent. -/
def absentLists : List (String × Json) :=
  [("type_declarations", .null), ("libfunc_declarations", .null), ("statements", .null),
    ("funcs", .null)]

/-- A document without lists is loaded, but absent lists are written as `null`, which is refused. -/
theorem load_absentLists :
    ∃ a, load (Json.object [("version", .int 1)]).render.toUTF8 =
        .ok ⟨supportedVersion, some a⟩ ∧
      writeArtifact a = .ok (.object absentLists) ∧
      load (Json.object (("version", .int 1) :: absentLists)).render.toUTF8 = .error .shape := by
  have hloaded : unification.IsLoaded (.object [("version", .int 1)]) fun a =>
      decide (a.program = {}) && decide (a.debugInfo = none) := by decide +kernel
  obtain ⟨⟨program, debugInfo⟩, hload, htest⟩ :=
    Checker.exists_load_of_isLoaded (Checker.parse_of_any (by decide +kernel)) hloaded
  simp only [Bool.and_eq_true, decide_eq_true_eq] at htest
  obtain ⟨rfl, rfl⟩ := htest
  have hinner : ∀ j ∈ (none : Option Json), IsInner unification j := by simp
  exact ⟨_, hload, rfl, load_document (p := {}) (writes_null _) (writes_null _) (writes_null _)
    (writes_null _) lawful_unification hinner (.refl _)⟩

end SierraCasm.Document
