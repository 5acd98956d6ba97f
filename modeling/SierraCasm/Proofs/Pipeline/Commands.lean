import SierraCasm.Pipeline.Stages
import SierraCasm.Proofs.Host.Effects

/-! # What the commands leave behind

The commands run on the model of a file system.  The stages before writing keep all files
(`KeepsFiles`) and fail in ways that do not depend on the log, so a compilation that fails in one
of them changes nothing, and it fails early exactly where validation does. -/

namespace SierraCasm.Pipeline

open Sierra

/-! ### Running in a world -/

/-- What a computation results in, and the world behind it. -/
def runIn {α : Type} (x : ExceptT Failure (StateM World) α) (w : World) :
    Except Failure α × World := StateT.run (ExceptT.run x) w

section run

variable {α β : Type} {x : ExceptT Failure (StateM World) α}
  {f : α → ExceptT Failure (StateM World) β} {w w₁ : World}

@[simp] theorem runIn_pure (a : α) (w : World) : runIn (pure a) w = (.ok a, w) := rfl

@[simp] theorem runIn_mk_pure (result : Except Failure α) (w : World) :
    runIn (ExceptT.mk (pure result)) w = (result, w) := rfl

theorem runIn_bind_of_ok {a : α} (h : runIn x w = (.ok a, w₁)) :
    runIn (x >>= f) w = runIn (f a) w₁ := by
  unfold runIn at h ⊢
  rw [ExceptT.run_bind, StateT.run_bind, h]
  rfl

theorem runIn_bind_of_error {e : Failure} (h : runIn x w = (.error e, w₁)) :
    runIn (x >>= f) w = (.error e, w₁) := by
  unfold runIn at h ⊢
  rw [ExceptT.run_bind, StateT.run_bind, h]
  rfl

theorem runIn_bind_eq_error {e : Failure} {w' : World} (h : runIn (x >>= f) w = (.error e, w')) :
    runIn x w = (.error e, w') ∨
      ∃ a w₁, runIn x w = (.ok a, w₁) ∧ runIn (f a) w₁ = (.error e, w') := by
  rcases hx : runIn x w with ⟨result, w₁⟩
  cases result with
  | error e' =>
    rw [runIn_bind_of_error hx] at h
    cases h
    exact .inl rfl
  | ok a =>
    rw [runIn_bind_of_ok hx] at h
    exact .inr ⟨a, w₁, rfl, h⟩

theorem runIn_bind_eq_ok {b : β} {w' : World} (h : runIn (x >>= f) w = (.ok b, w')) :
    ∃ a w₁, runIn x w = (.ok a, w₁) ∧ runIn (f a) w₁ = (.ok b, w') := by
  rcases hx : runIn x w with ⟨result, w₁⟩
  cases result with
  | error e =>
    rw [runIn_bind_of_error hx] at h
    cases (Prod.mk.inj h).1
  | ok a =>
    rw [runIn_bind_of_ok hx] at h
    exact ⟨a, w₁, rfl, h⟩

/-- A computation that leaves the files as they are. -/
def KeepsFiles (x : ExceptT Failure (StateM World) α) : Prop := ∀ w, (runIn x w).2.files = w.files

theorem KeepsFiles.files (h : KeepsFiles x) {result : Except Failure α}
    (hrun : runIn x w = (result, w₁)) : w₁.files = w.files := by
  rw [← h w, hrun]

theorem KeepsFiles.pure (a : α) : KeepsFiles (pure a) := fun _ => rfl

theorem KeepsFiles.mk_pure (result : Except Failure α) :
    KeepsFiles (ExceptT.mk (Pure.pure result)) := fun _ => rfl

theorem KeepsFiles.bind (hx : KeepsFiles x) (hf : ∀ a, KeepsFiles (f a)) :
    KeepsFiles (x >>= f) := by
  intro w
  rcases hrun : runIn x w with ⟨result, w₁⟩
  cases result with
  | error e => rw [runIn_bind_of_error hrun, hx.files hrun]
  | ok a => rw [runIn_bind_of_ok hrun, hf a w₁, hx.files hrun]

end run

/-! ### The stages -/

theorem runIn_logAll (entries : List Log.Entry) (w : World) :
    runIn (logAll FileSystem.host entries) w = (.ok (), { w with log := w.log ++ entries }) := by
  induction entries generalizing w with
  | nil => simp [logAll]
  | cons entry rest ih =>
    have hlog : runIn (ExceptT.lift (FileSystem.host.log entry)) w =
        (.ok (), { w with log := w.log ++ [entry] }) := rfl
    rw [logAll, runIn_bind_of_ok hlog, ih]
    simp

theorem keepsFiles_logAll (entries : List Log.Entry) :
    KeepsFiles (logAll FileSystem.host entries) := fun w => by rw [runIn_logAll]

theorem keepsFiles_loadProgram (path : String) : KeepsFiles (loadProgram FileSystem.host path) := by
  refine .bind (fun _ => rfl) fun contents => ?_
  cases contents with
  | error f => exact .mk_pure _
  | ok bytes =>
    exact .bind (.mk_pure _) fun p => .bind (keepsFiles_logAll _) fun _ => .pure p

theorem keepsFiles_computeMetadata (r : Registry) :
    KeepsFiles (computeMetadata FileSystem.host r) :=
  .bind (.mk_pure _) fun _ => .bind (keepsFiles_logAll _) fun _ => .pure _

theorem keepsFiles_compileProgram (r : Registry) (positions : Metadata) (gasCheck : Bool) :
    KeepsFiles (compileProgram FileSystem.host r positions gasCheck) :=
  .bind (.mk_pure _) fun _ => .bind (keepsFiles_logAll _) fun _ => .pure _

theorem runIn_lift {α : Type} (x : StateM World α) (w : World) :
    runIn (ExceptT.lift x) w = (.ok (x w).1, (x w).2) := rfl

theorem host_makeDirs (path : String) (w : World) :
    FileSystem.host.makeDirs path w =
      ((w.files.makeDirs path).1, { w with files := (w.files.makeDirs path).2 }) := rfl

theorem host_writeFile_eq_ok {path text : String} {w w' : World}
    (h : FileSystem.host.writeFile path text w = (.ok (), w')) :
    w.files.writeFile path text = .ok w'.files := by
  simp only [FileSystem.host, modifyGet, MonadStateOf.modifyGet, StateT.modifyGet] at h
  cases hfile : w.files.writeFile path text with
  | error f =>
    rw [hfile] at h
    cases h
  | ok files =>
    rw [hfile] at h
    cases h
    rfl

theorem deposit_of_writeCasm {path : String} {out : Casm.Program} {w w' : World}
    (h : runIn (writeCasm FileSystem.host path out) w = (.ok (), w')) :
    ∃ location, w.files.Deposit w'.files path (out.render ++ "\n") location := by
  unfold writeCasm at h
  obtain ⟨made, w₁, hmake, h⟩ := runIn_bind_eq_ok h
  rcases hdirs : w.files.makeDirs (Path.directory path) with ⟨result, fs₁⟩
  rw [runIn_lift, host_makeDirs, hdirs] at hmake
  cases hmake
  cases result with
  | error f => cases (Prod.mk.inj h).1
  | ok =>
    dsimp only at h
    obtain ⟨written, w₂, hwrite, h⟩ := runIn_bind_eq_ok h
    rcases hfile : FileSystem.host.writeFile path (out.render ++ "\n")
      { w with files := fs₁ } with ⟨result, w₃⟩
    rw [runIn_lift, hfile] at hwrite
    cases hwrite
    cases result with
    | error f => cases (Prod.mk.inj h).1
    | ok =>
      dsimp only at h
      rw [(keepsFiles_logAll [writtenEntry path]).files h]
      exact FileSystem.deposit_of_writeFile hdirs (host_writeFile_eq_ok hfile)

/-! ### Failures -/

/-- Two failures with one cause, kind and file, which passed through stages that said different
things. -/
def DifferInContexts (e e' : Failure) : Prop :=
  ∃ kind path contexts contexts' c,
    e = .staged kind path contexts (.cause c) ∧ e' = .staged kind path contexts' (.cause c)

theorem failOn_eq {α : Type} (path context : String) (c : Cause) :
    (failOn path context c : Except Failure α) =
      .error (.staged c.kind path [context] (.cause c)) := rfl

theorem decodeProgram_eq_error {path : String} {bytes : ByteArray} {e : Failure}
    (h : decodeProgram path bytes = .error e) :
    ∃ context c, e = .staged c.kind path [context] (.cause c) := by
  unfold decodeProgram at h
  split at h
  · rw [failOn_eq] at h
    exact ⟨_, _, (Except.error.inj h).symm⟩
  · split at h
    · rw [failOn_eq] at h
      exact ⟨_, _, (Except.error.inj h).symm⟩
    · cases h

theorem loadProgram_eq_error {path : String} {w w' : World} {e : Failure}
    (h : runIn (loadProgram FileSystem.host path) w = (.error e, w')) :
    ∃ context c, e = .staged c.kind path [context] (.cause c) := by
  rcases runIn_bind_eq_error h with hread | ⟨contents, w₁, -, h⟩
  · cases hread
  · cases contents with
    | error f =>
      simp only [runIn_mk_pure, failOn_eq] at h
      exact ⟨_, _, (Except.error.inj (Prod.mk.inj h).1).symm⟩
    | ok bytes =>
      rcases runIn_bind_eq_error h with hdecode | ⟨p, w₂, -, h⟩
      · exact decodeProgram_eq_error (Prod.mk.inj hdecode).1
      · rw [runIn_bind_of_ok (runIn_logAll _ w₂)] at h
        cases h

theorem validated_eq_error {context : String} {p : Program} {e : Failure} :
    validated context p = .error e ↔ ∃ v, Registry.build p = .error v ∧
      e = .staged .registry "" [context] (.cause (.ofViolation v)) := by
  unfold validated
  cases hbuild : Registry.build p with
  | ok r => simp
  | error v =>
    constructor
    · intro h
      cases h
      exact ⟨v, rfl, rfl⟩
    · rintro ⟨v', hv, rfl⟩
      cases hv
      rfl

theorem buildRegistry_eq_error {p : Program} {w : World} {e : Failure} :
    (∃ w', runIn (buildRegistry FileSystem.host p) w = (.error e, w')) ↔
      validated "ProgramRegistry validation failed" p = .error e := by
  constructor
  · rintro ⟨w', h⟩
    rcases runIn_bind_eq_error h with hvalidated | ⟨r, w₁, -, h⟩
    · exact (Prod.mk.inj hvalidated).1
    · rw [runIn_bind_of_ok (runIn_logAll _ w₁)] at h
      cases h
  · intro h
    exact ⟨w, runIn_bind_of_error (by rw [runIn_mk_pure, h])⟩

/-! ### Results -/

theorem decodeProgram_eq_ok {path : String} {bytes : ByteArray} {p : Program} :
    decodeProgram path bytes = .ok p ↔ ∃ envelope artifact, Document.load bytes = .ok envelope ∧
      envelope.program = .ok artifact ∧ artifact.program.toProgram = p := by
  unfold decodeProgram
  cases hload : Document.load bytes with
  | error f => simp [failOn_eq]
  | ok envelope => cases henvelope : envelope.program <;> simp [failOn_eq, henvelope]

theorem validated_eq_ok {context : String} {p : Program} {r : Registry} :
    validated context p = .ok r ↔ Registry.build p = .ok r := by
  unfold validated
  cases Registry.build p <;> simp [failIn]

theorem analyzed_eq_ok {r : Registry} {positions : Metadata} :
    analyzed r = .ok positions ↔ analyze r = .ok positions := by
  unfold analyzed
  cases analyze r <;> simp [failIn]

theorem compiled_eq_ok {r : Registry} {positions : Metadata} {gasCheck : Bool}
    {out : Casm.Program} : compiled r positions gasCheck = .ok out ↔
      compile r positions { gasCheck := gasCheck, maxSize := unlimited } = .ok out := by
  unfold compiled
  cases compile r positions { gasCheck := gasCheck, maxSize := unlimited } <;> simp [failIn]

/-- A stage that logs its result has the result that it computes. -/
theorem eq_ok_of_runIn_logAll {α : Type} {result : Except Failure α}
    {entries : α → List Log.Entry} {a : α} {w w' : World}
    (h : runIn (do
      let b ← ExceptT.mk (pure result)
      logAll FileSystem.host (entries b)
      return b) w = (.ok a, w')) : result = .ok a := by
  obtain ⟨b, w₁, hresult, h⟩ := runIn_bind_eq_ok h
  rw [runIn_bind_of_ok (runIn_logAll _ w₁)] at h
  cases h
  exact (Prod.mk.inj hresult).1

theorem loadProgram_eq_ok {path : String} {p : Program} {w w' : World}
    (h : runIn (loadProgram FileSystem.host path) w = (.ok p, w')) :
    ∃ bytes, w.files.readFile path = .ok bytes ∧ decodeProgram path bytes = .ok p := by
  obtain ⟨contents, w₁, hread, h⟩ := runIn_bind_eq_ok h
  have hcontents : w.files.readFile path = contents := Except.ok.inj (Prod.mk.inj hread).1
  cases contents with
  | error f => cases (Prod.mk.inj h).1
  | ok bytes => exact ⟨bytes, hcontents, eq_ok_of_runIn_logAll h⟩

/-! ### Compiling and validating a file -/

/-- The stages of a compilation before its result is written. -/
inductive Stage where
  | load
  | sizes
  | metadata
  | compile
deriving DecidableEq, Repr

/-- The stages before one succeed in a world, and that one fails. -/
inductive FailsAt (w : World) (input : String) (gasCheck : Bool) : Stage → Failure → Prop
  | load {e : Failure} {w₁ : World} :
      runIn (loadProgram FileSystem.host input) w = (.error e, w₁) →
      FailsAt w input gasCheck .load e
  | sizes {p : Program} {e : Failure} {w₁ w₂ : World} :
      runIn (loadProgram FileSystem.host input) w = (.ok p, w₁) →
      runIn (deriveSizes p) w₁ = (.error e, w₂) →
      FailsAt w input gasCheck .sizes e
  | metadata {p : Program} {r : Registry} {e : Failure} {w₁ w₂ w₃ : World} :
      runIn (loadProgram FileSystem.host input) w = (.ok p, w₁) →
      runIn (deriveSizes p) w₁ = (.ok r, w₂) →
      runIn (computeMetadata FileSystem.host r) w₂ = (.error e, w₃) →
      FailsAt w input gasCheck .metadata e
  | compile {p : Program} {r : Registry} {positions : Metadata} {e : Failure}
      {w₁ w₂ w₃ w₄ : World} :
      runIn (loadProgram FileSystem.host input) w = (.ok p, w₁) →
      runIn (deriveSizes p) w₁ = (.ok r, w₂) →
      runIn (computeMetadata FileSystem.host r) w₂ = (.ok positions, w₃) →
      runIn (compileProgram FileSystem.host r positions gasCheck) w₃ = (.error e, w₄) →
      FailsAt w input gasCheck .compile e

/-- All stages before writing succeed in a world, and the last one results in a program. -/
def Yields (w : World) (input : String) (gasCheck : Bool) (out : Casm.Program) : Prop :=
  ∃ p r positions w₁ w₂ w₃ w₄,
    runIn (loadProgram FileSystem.host input) w = (.ok p, w₁) ∧
    runIn (deriveSizes p) w₁ = (.ok r, w₂) ∧
    runIn (computeMetadata FileSystem.host r) w₂ = (.ok positions, w₃) ∧
    runIn (compileProgram FileSystem.host r positions gasCheck) w₃ = (.ok out, w₄)

/-- The input holds a program that is valid and compiles without a limit on its size. -/
def Compiles (w : World) (input : String) (gasCheck : Bool) (out : Casm.Program) : Prop :=
  ∃ bytes envelope artifact r positions,
    w.files.readFile input = .ok bytes ∧
    Document.load bytes = .ok envelope ∧
    envelope.program = .ok artifact ∧
    Registry.build artifact.program.toProgram = .ok r ∧
    analyze r = .ok positions ∧
    compile r positions { gasCheck := gasCheck, maxSize := unlimited } = .ok out

section commands

variable {w w' : World} {input output : String} {gasCheck : Bool}

theorem Yields.compiles {out : Casm.Program} (h : Yields w input gasCheck out) :
    Compiles w input gasCheck out := by
  obtain ⟨p, r, positions, w₁, w₂, w₃, w₄, hload, hsizes, hmetadata, hcompile⟩ := h
  obtain ⟨bytes, hread, hdecode⟩ := loadProgram_eq_ok hload
  obtain ⟨envelope, artifact, hdocument, henvelope, rfl⟩ := decodeProgram_eq_ok.mp hdecode
  exact ⟨bytes, envelope, artifact, r, positions, hread, hdocument, henvelope,
    validated_eq_ok.mp (Prod.mk.inj hsizes).1,
    analyzed_eq_ok.mp (eq_ok_of_runIn_logAll hmetadata),
    compiled_eq_ok.mp (eq_ok_of_runIn_logAll hcompile)⟩

section files

variable {p : Program} {r : Registry} {positions : Metadata} {w₁ w₂ w₃ w₄ : World}
  {sizes : Except Failure Registry} {metadata : Except Failure Metadata}
  {compiled : Except Failure Casm.Program}
  (hload : runIn (loadProgram FileSystem.host input) w = (.ok p, w₁))
include hload

theorem files_of_deriveSizes (hsizes : runIn (deriveSizes p) w₁ = (sizes, w₂)) :
    w₂.files = w.files := by
  rw [(KeepsFiles.mk_pure _).files hsizes, (keepsFiles_loadProgram input).files hload]

theorem files_of_computeMetadata (hsizes : runIn (deriveSizes p) w₁ = (.ok r, w₂))
    (hmetadata : runIn (computeMetadata FileSystem.host r) w₂ = (metadata, w₃)) :
    w₃.files = w.files := by
  rw [(keepsFiles_computeMetadata r).files hmetadata, files_of_deriveSizes hload hsizes]

theorem files_of_compileProgram (hsizes : runIn (deriveSizes p) w₁ = (.ok r, w₂))
    (hmetadata : runIn (computeMetadata FileSystem.host r) w₂ = (.ok positions, w₃))
    (hcompile : runIn (compileProgram FileSystem.host r positions gasCheck) w₃ = (compiled, w₄)) :
    w₄.files = w.files := by
  rw [(keepsFiles_compileProgram r positions gasCheck).files hcompile,
    files_of_computeMetadata hload hsizes hmetadata]

end files

/-- A compilation stops with the failure of its stage and has changed no files. -/
theorem FailsAt.compileFile {stage : Stage} {e : Failure} (h : FailsAt w input gasCheck stage e)
    (output : String) : ∃ w', w'.files = w.files ∧
      runIn (compileFile FileSystem.host input output gasCheck) w = (.error e, w') := by
  unfold Pipeline.compileFile
  cases h with
  | @load _ w₁ hload =>
    exact ⟨w₁, (keepsFiles_loadProgram input).files hload, runIn_bind_of_error hload⟩
  | @sizes p _ w₁ w₂ hload hsizes =>
    refine ⟨w₂, files_of_deriveSizes hload hsizes, ?_⟩
    rw [runIn_bind_of_ok hload, runIn_bind_of_error hsizes]
  | @metadata p r _ w₁ w₂ w₃ hload hsizes hmetadata =>
    refine ⟨w₃, files_of_computeMetadata hload hsizes hmetadata, ?_⟩
    rw [runIn_bind_of_ok hload, runIn_bind_of_ok hsizes, runIn_bind_of_error hmetadata]
  | @compile p r positions _ w₁ w₂ w₃ w₄ hload hsizes hmetadata hcompile =>
    refine ⟨w₄, files_of_compileProgram hload hsizes hmetadata hcompile, ?_⟩
    rw [runIn_bind_of_ok hload, runIn_bind_of_ok hsizes, runIn_bind_of_ok hmetadata,
      runIn_bind_of_error hcompile]

/-- A compilation that succeeds leaves its result in the output. -/
theorem deposit_of_compileFile {summary : CompileSummary}
    (h : runIn (compileFile FileSystem.host input output gasCheck) w = (.ok summary, w')) :
    ∃ out location, Yields w input gasCheck out ∧ Compiles w input gasCheck out ∧
      w.files.Deposit w'.files output (out.render ++ "\n") location := by
  unfold Pipeline.compileFile at h
  obtain ⟨p, w₁, hload, h⟩ := runIn_bind_eq_ok h
  obtain ⟨r, w₂, hsizes, h⟩ := runIn_bind_eq_ok h
  obtain ⟨positions, w₃, hmetadata, h⟩ := runIn_bind_eq_ok h
  obtain ⟨out, w₄, hcompile, h⟩ := runIn_bind_eq_ok h
  obtain ⟨_, w₅, hwrite, h⟩ := runIn_bind_eq_ok h
  obtain rfl : w₅ = w' := (Prod.mk.inj h).2
  obtain ⟨location, hdeposit⟩ := deposit_of_writeCasm hwrite
  rw [files_of_compileProgram hload hsizes hmetadata hcompile] at hdeposit
  have hyields : Yields w input gasCheck out :=
    ⟨p, r, positions, w₁, w₂, w₃, w₄, hload, hsizes, hmetadata, hcompile⟩
  exact ⟨out, location, hyields, hyields.compiles, hdeposit⟩

/-- Validation fails where the program is loaded, or with its first violation. -/
theorem validateFile_eq_error {e : Failure} :
    (∃ w', runIn (validateFile FileSystem.host input) w = (.error e, w')) ↔
      (∃ w', runIn (loadProgram FileSystem.host input) w = (.error e, w')) ∨
      ∃ p w₁, runIn (loadProgram FileSystem.host input) w = (.ok p, w₁) ∧
        validated "ProgramRegistry validation failed" p = .error e := by
  unfold validateFile
  constructor
  · rintro ⟨w', h⟩
    rcases runIn_bind_eq_error h with hload | ⟨p, w₁, hload, h⟩
    · exact .inl ⟨w', hload⟩
    · rcases runIn_bind_eq_error h with hbuild | ⟨r, w₂, -, h⟩
      · exact .inr ⟨p, w₁, hload, buildRegistry_eq_error.mp ⟨w', hbuild⟩⟩
      · cases h
  · rintro (⟨w', hload⟩ | ⟨p, w₁, hload, hvalidated⟩)
    · exact ⟨w', runIn_bind_of_error hload⟩
    · obtain ⟨w₂, hbuild⟩ := buildRegistry_eq_error (w := w₁).mpr hvalidated
      exact ⟨w₂, by rw [runIn_bind_of_ok hload, runIn_bind_of_error hbuild]⟩

/-- What validation fails with, a compilation fails with in one of its first two stages, up to
contexts. -/
theorem failsAt_of_validateFile {e : Failure}
    (h : runIn (validateFile FileSystem.host input) w = (.error e, w')) (gasCheck : Bool) :
    ∃ stage e', (stage = .load ∨ stage = .sizes) ∧ FailsAt w input gasCheck stage e' ∧
      DifferInContexts e e' := by
  rcases validateFile_eq_error.mp ⟨w', h⟩ with ⟨w₁, hload⟩ | ⟨p, w₁, hload, hvalidated⟩
  · obtain ⟨context, c, rfl⟩ := loadProgram_eq_error hload
    exact ⟨.load, _, .inl rfl, .load hload, _, _, _, _, c, rfl, rfl⟩
  · obtain ⟨v, hbuild, rfl⟩ := validated_eq_error.mp hvalidated
    have hsizes : validated "failed creating ProgramRegistryInfo" p = .error _ :=
      validated_eq_error.mpr ⟨v, hbuild, rfl⟩
    exact ⟨.sizes, _, .inr rfl, .sizes hload (Prod.ext hsizes rfl), _, _, _, _, _, rfl, rfl⟩

theorem FailsAt.unique {stage stage' : Stage} {e e' : Failure}
    (h : FailsAt w input gasCheck stage e) (h' : FailsAt w input gasCheck stage' e') : e = e' := by
  obtain ⟨_, -, hrun⟩ := h.compileFile ""
  obtain ⟨_, -, hrun'⟩ := h'.compileFile ""
  rw [hrun] at hrun'
  exact Except.error.inj (Prod.mk.inj hrun').1

theorem validateFile_of_failsAt {stage : Stage} {e : Failure}
    (hstage : stage = .load ∨ stage = .sizes) (h : FailsAt w input gasCheck stage e) :
    ∃ e' w', runIn (validateFile FileSystem.host input) w = (.error e', w') := by
  cases h with
  | load hload =>
    obtain ⟨w', hrun⟩ := validateFile_eq_error.mpr (.inl ⟨_, hload⟩)
    exact ⟨_, w', hrun⟩
  | sizes hload hsizes =>
    obtain ⟨v, hbuild, -⟩ := validated_eq_error.mp (Prod.mk.inj hsizes).1
    obtain ⟨w', hrun⟩ := validateFile_eq_error.mpr
      (.inr ⟨_, _, hload, validated_eq_error.mpr ⟨v, hbuild, rfl⟩⟩)
    exact ⟨_, w', hrun⟩
  | metadata => simp at hstage
  | compile => simp at hstage

theorem DifferInContexts.kind_eq {e e' : Failure} (h : DifferInContexts e e') :
    e.kind = e'.kind := by
  obtain ⟨_, _, _, _, _, rfl, rfl⟩ := h
  rfl

theorem DifferInContexts.cause_eq {e e' : Failure} (h : DifferInContexts e e') :
    ∃ c, e.cause? = some c ∧ e'.cause? = some c := by
  obtain ⟨_, _, _, _, c, rfl, rfl⟩ := h
  exact ⟨c, rfl, rfl⟩

end commands

/-- A compilation that fails before it writes returns the failure of its stage and leaves the file
system alone.  Validation fails exactly if the first two stages do, with the same kind, code and
cause: only contexts differ.  A compilation that succeeds changes the output file, which holds the
text of what `compile` makes of the program in the input and a line break, and makes missing
directories on the way to it. -/
theorem commands_agree (w : World) (input output : String) (gasCheck : Bool) :
    (∀ stage e, FailsAt w input gasCheck stage e → ∃ w', w'.files = w.files ∧
      runIn (compileFile FileSystem.host input output gasCheck) w = (.error e, w')) ∧
    ((∃ e w', runIn (validateFile FileSystem.host input) w = (.error e, w')) ↔
      ∃ stage e, (stage = .load ∨ stage = .sizes) ∧ FailsAt w input gasCheck stage e) ∧
    (∀ e w' stage e', runIn (validateFile FileSystem.host input) w = (.error e, w') →
      FailsAt w input gasCheck stage e' →
      e.kind = e'.kind ∧ e.kind.code = e'.kind.code ∧
        (∃ c, e.cause? = some c ∧ e'.cause? = some c) ∧ DifferInContexts e e') ∧
    (∀ summary w',
      runIn (compileFile FileSystem.host input output gasCheck) w = (.ok summary, w') →
      ∃ out location, Yields w input gasCheck out ∧ Compiles w input gasCheck out ∧
        w.files.Deposit w'.files output (out.render ++ "\n") location) := by
  refine ⟨fun stage e h => h.compileFile output, ⟨?_, ?_⟩, ?_,
    fun summary w' h => deposit_of_compileFile h⟩
  · rintro ⟨e, w', h⟩
    obtain ⟨stage, e', hstage, hfails, -⟩ := failsAt_of_validateFile h gasCheck
    exact ⟨stage, e', hstage, hfails⟩
  · rintro ⟨stage, e, hstage, h⟩
    exact validateFile_of_failsAt hstage h
  · intro e w' stage e' h hfails
    obtain ⟨stage₀, e₀, -, hfails₀, hdiffer⟩ := failsAt_of_validateFile h gasCheck
    rw [hfails₀.unique hfails] at hdiffer
    exact ⟨hdiffer.kind_eq, by rw [hdiffer.kind_eq], hdiffer.cause_eq, hdiffer⟩

/-- A directory with a program that compiles and one that is not valid. -/
def twoPrograms : World where
  files :=
    { entries :=
        [(["home"], .directory), (["home", "valid.json"], .file validText.toUTF8),
         (["home", "invalid.json"], .file invalidText.toUTF8)]
      workingDirectory := ["home"] }
where
  /-- a function that returns at once -/
  validText : String :=
    "\x7b\"version\":1,\"statements\":[\x7b\"Return\":[]\x7d],\"funcs\":[\x7b\"id" ++
    "\":\x7b\"id\":0\x7d,\"signature\":\x7b\"param_types\":[],\"ret_types\":[]\x7d,\"pa" ++
    "rams\":[],\"entry_point\":0\x7d]\x7d"
  /-- a type that is not known -/
  invalidText : String :=
    "\x7b\"version\":1,\"type_declarations\":[\x7b\"id\":\x7b\"id\":0\x7d,\"long_id" ++
    "\":\x7b\"generic_id\":\"Nope\",\"generic_args\":[]\x7d\x7d]\x7d"

/-- The valid program is compiled to one instruction, in a directory that is made for it, and the
other one is refused by both commands, which say different things about it. -/
theorem commands_agree_twoPrograms :
    (∃ summary w', runIn (compileFile FileSystem.host "valid.json" "../out/./a.casm" false)
        twoPrograms = (.ok summary, w') ∧
      ∃ out location, Yields twoPrograms "valid.json" false out ∧
        Compiles twoPrograms "valid.json" false out ∧ out.render ++ "\n" = "ret;\n\n" ∧
        twoPrograms.files.Deposit w'.files "../out/./a.casm" "ret;\n\n" location) ∧
    (∃ stage e e' w₁ w₂, FailsAt twoPrograms "invalid.json" false stage e' ∧
      runIn (validateFile FileSystem.host "invalid.json") twoPrograms = (.error e, w₁) ∧
      runIn (compileFile FileSystem.host "invalid.json" "../out/./a.casm" false) twoPrograms =
        (.error e', w₂) ∧
      w₂.files = twoPrograms.files ∧ e.kind = e'.kind ∧
      (∃ c, e.cause? = some c ∧ e'.cause? = some c) ∧ DifferInContexts e e') := by
  constructor
  · obtain ⟨hok, htext⟩ : (runIn (compileFile FileSystem.host "valid.json" "../out/./a.casm" false)
          twoPrograms).1.toOption.isSome = true ∧
        ((runIn (compileFile FileSystem.host "valid.json" "../out/./a.casm" false)
          twoPrograms).2.files.readFile "../out/./a.casm").toOption =
            some "ret;\n\n".toUTF8 := by decide +kernel
    rcases hrun : runIn (compileFile FileSystem.host "valid.json" "../out/./a.casm" false)
      twoPrograms with ⟨result, w'⟩
    rw [hrun] at hok htext
    cases result with
    | error e => cases hok
    | ok summary =>
      obtain ⟨out, location, hyields, hcompiles, hdeposit⟩ :=
        (commands_agree _ _ _ _).2.2.2 summary w' hrun
      rw [hdeposit.read] at htext
      have hrender : out.render ++ "\n" = "ret;\n\n" :=
        String.toByteArray_inj.mp (Option.some.inj htext)
      exact ⟨summary, w', rfl, out, location, hyields, hcompiles, hrender, hrender ▸ hdeposit⟩
  · have herror : (runIn (validateFile FileSystem.host "invalid.json")
        twoPrograms).1.toOption.isSome = false := by decide +kernel
    rcases hrun : runIn (validateFile FileSystem.host "invalid.json") twoPrograms with ⟨result, w₁⟩
    rw [hrun] at herror
    cases result with
    | ok summary => cases herror
    | error e =>
      obtain ⟨hstages, hearly, halike, -⟩ :=
        commands_agree twoPrograms "invalid.json" "../out/./a.casm" false
      obtain ⟨stage, e', -, hfails⟩ := hearly.mp ⟨e, w₁, hrun⟩
      obtain ⟨w₂, hfiles, hcompile⟩ := hstages stage e' hfails
      obtain ⟨hkind, -, hcause, hdiffer⟩ := halike e w₁ stage e' hrun hfails
      exact ⟨stage, e, e', w₁, w₂, hfails, rfl, hcompile, hfiles, hkind, hcause, hdiffer⟩

end SierraCasm.Pipeline
