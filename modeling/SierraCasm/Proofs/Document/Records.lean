import SierraCasm.Proofs.Document.Written

/-! # The formats of the records of a program

Each kind of record that can be read has a JSON form, and that form is loaded as the record it was
written from. -/

namespace SierraCasm.Document

open Sierra
open Text (isKeyword)

/-! ### Complete records -/

/-- The arguments are there. -/
def LongId.isComplete (l : LongId) : Bool := l.args.isWhole fun _ => true

/-- No target is negative. -/
def isNatural : Target → Bool
  | .fallthrough => true
  | .statement i => decide (0 ≤ i)

/-- The results are there, and the target is not negative. -/
def Branch.isComplete (b : Branch) : Bool :=
  isNatural b.target && b.results.isWhole fun _ => true

/-- All lists are there, and no target is negative. -/
def Statement.isComplete : Statement → Bool
  | .invoke i => (i.args.isWhole fun _ => true) && i.branches.isWhole Branch.isComplete
  | .ret _ => true

/-- All types are there. -/
def Signature.isComplete (s : Signature) : Bool :=
  (s.paramTypes.isWhole fun _ => true) && s.retTypes.isWhole fun _ => true

/-- All lists are there, and the entry is not negative. -/
def Function.isComplete (f : Function) : Bool :=
  f.signature.isComplete && (f.params.isWhole fun _ => true) && decide (0 ≤ f.entry)

/-- No list of a program is absent, and neither an entry nor a target is negative. -/
def Program.isComplete (p : Program) : Bool :=
  (p.types.isWhole fun d => d.longId.isComplete) &&
    (p.libfuncs.isWhole fun d => d.longId.isComplete) &&
    p.statements.isWhole Statement.isComplete && p.functions.isWhole Function.isComplete

/-! ### Names -/

def argNames : GenericArg → List String
  | .type id => [id.debugName]
  | .userType id => [id.debugName]
  | .libfunc id => [id.debugName]
  | .userFunc id => [id.debugName]
  | _ => []

def LongId.names (l : LongId) : List String := l.generic :: l.args.items.flatMap argNames

def Declaration.names (d : Declaration) : List String := d.id.debugName :: d.longId.names

def Statement.names : Statement → List String
  | .invoke i => [i.libfunc.debugName]
  | .ret _ => []

def Signature.names (s : Signature) : List String :=
  (s.paramTypes.items ++ s.retTypes.items).map (·.debugName)

def Function.names (f : Function) : List String :=
  f.id.debugName :: (f.signature.names ++ f.params.items.map (·.type.debugName))

/-- The generic and debug names in a program. -/
def Program.names (p : Program) : List String :=
  p.types.items.flatMap Declaration.names ++ p.libfuncs.items.flatMap Declaration.names ++
    p.statements.items.flatMap Statement.names ++ p.functions.items.flatMap Function.names

/-! ### Identifiers and variables -/

def Format.ident : Format Ident :=
  ⟨Schema.ident, Reader.ident, 1, fun _ => true, fun i => [i.debugName]⟩

def Format.var : Format VarId := ⟨Schema.varId, Reader.var, 1, fun _ => true, fun _ => []⟩

theorem writes_var (v : VarId) : Format.var.Writes v (writeVar v) := by
  have hid := writes_number v.id
  have hcheck : Format.var.reader.check = Reader.checkRecord [("id", Reader.number.check)] := rfl
  refine writes_object hcheck rfl rfl rfl (by decide : AreKeys ["id"]) ?_ ?_ ?_ ?_
  · simp only [List.forall_mem_cons]
    exact ⟨hid.fits (by decide) rfl, List.forall_mem_nil _⟩
  · intro c hc given hholds
    exact congrArg₂ and (hholds.present (by simp) (hid.shapes.conforms hc)) rfl
  · intro given hgiven
    show VarId.mk (Reader.number.read (given.member "id")) = v
    rw [hgiven.present List.mem_cons_self]
    exact congrArg VarId.mk hid.read
  · simpa [Format.var] using not_isMarked_int _

theorem stores_var : Format.var.Stores fun v => .ok (writeVar v) :=
  fun _ => ⟨_, rfl, writes_var _⟩

theorem writes_ident (i : Ident) : Format.ident.Writes i (writeIdent i) := by
  have hid := writes_number i.id
  have hname := writes_text i.debugName
  have hcheck : Format.ident.reader.check =
      Reader.checkRecord [("id", Reader.number.check), ("debug_name", Reader.text.check)] := rfl
  by_cases hempty : i.debugName = ""
  · have habsent : "debug_name" ∉ ["id"] := by decide
    rw [writeIdent, if_pos hempty]
    refine writes_object hcheck rfl rfl rfl (by decide : AreKeys ["id"]) ?_ ?_ ?_ ?_
    · simp only [List.forall_mem_cons]
      exact ⟨hid.fits (by decide) rfl, List.forall_mem_nil _⟩
    · intro c hc given hholds
      exact congrArg₂ and (hholds.present List.mem_cons_self (hid.shapes.conforms hc))
        (congrArg₂ and (hholds.absent habsent) rfl)
    · intro given hgiven
      show Ident.mk (Reader.number.read (given.member "id"))
        (Reader.text.read (given.member "debug_name")) = Ident.mk i.id i.debugName
      rw [hgiven.present List.mem_cons_self, hgiven.absent habsent]
      exact congrArg₂ Ident.mk hid.read hempty.symm
    · simpa [Format.ident, hempty] using not_isMarked_int _
  · rw [writeIdent, if_neg hempty]
    refine writes_object hcheck rfl rfl rfl (by decide : AreKeys ["id", "debug_name"]) ?_ ?_ ?_ ?_
    · simp only [List.forall_mem_cons]
      exact ⟨hid.fits (by decide) rfl, hname.fits (by decide) rfl, List.forall_mem_nil _⟩
    · intro c hc given hholds
      have hshape : Shapes (.scalar .textOrNull) (.string i.debugName) true := shapes_string rfl
      exact congrArg₂ and (hholds.present (by simp) (hid.shapes.conforms hc))
        (congrArg₂ and (hholds.present (by simp) (hshape.conforms hc)) rfl)
    · intro given hgiven
      show Ident.mk (Reader.number.read (given.member "id"))
        (Reader.text.read (given.member "debug_name")) = Ident.mk i.id i.debugName
      rw [hgiven.present (j := .int i.id.toNat) (by simp),
        hgiven.present (j := .string i.debugName) (by simp)]
      exact congrArg₂ Ident.mk hid.read hname.read
    · simpa [Format.ident, not_isMarked_int] using isMarked_string

theorem stores_ident : Format.ident.Stores fun i => .ok (writeIdent i) :=
  fun _ => ⟨_, rfl, writes_ident _⟩

/-! ### Declarations -/

def Format.arg : Format GenericArg :=
  ⟨Schema.genericArg, Reader.arg, 2, fun _ => true, argNames⟩

/-- The content of an argument that is a value. -/
def Format.value : Format Unit :=
  ⟨.scalar .integerOrText, Reader.wholeInteger, 0, fun _ => true, fun _ => []⟩

theorem writes_value (v : Int) : Format.value.Writes () (.int v) := by
  have haccepts : Schema.Scalar.integerOrText.accepts (.int v) = true := by
    rw [Json.int, Schema.Scalar.accepts, intOfString?_toString]
    rfl
  refine ⟨proper_int v, shapes_int haccepts, ?_, rfl, ?_⟩
  · show require (Text.intOfString? (toString v)).isSome _ = _
    rw [intOfString?_toString]
    rfl
  · simpa [Format.value] using not_isMarked_int v

theorem shape_arg : Format.arg.shape = .oneOf []
    [("Type", Schema.ident), ("UserType", Schema.ident), ("Value", .scalar .integerOrText),
      ("Libfunc", Schema.ident), ("UserFunc", Schema.ident)] := rfl

theorem check_arg (text : String) (members : List (String × Json)) :
    Format.arg.reader.check (.obj text members) = Reader.checkForms .genericArg
      [("Type", Reader.ident.check), ("UserType", Reader.ident.check),
        ("Value", Reader.checkInteger), ("Libfunc", Reader.ident.check),
        ("UserFunc", Reader.ident.check)] (.obj text members) := rfl

theorem writes_identArg {tag : String} (htag : tag ∈ ["Type", "UserType", "Libfunc", "UserFunc"])
    {make : Ident → GenericArg} (hnames : ∀ id, argNames (make id) = [id.debugName])
    (hread : ∀ given payload, Given.form? given = some (tag, payload) →
      Reader.arg.read given = make (Reader.ident.read (given.payloads tag))) (id : Ident) :
    Format.arg.Writes (make id) (tagged tag (writeIdent id)) := by
  have hid := writes_ident id
  have hkeywords : ∀ tag ∈ ["Type", "UserType", "Libfunc", "UserFunc"], isKeyword tag = true := by
    decide
  have hkeyword := hkeywords tag htag
  refine writes_tagged hid hkeyword (by decide) shape_arg (by decide) check_arg ?_ ?_
    rfl ?_ (hnames id)
  · simp only [List.mem_cons, List.not_mem_nil, or_false] at htag
    rcases htag with rfl | rfl | rfl | rfl <;> rfl
  · simp only [List.mem_cons, List.not_mem_nil, or_false] at htag
    rcases htag with rfl | rfl | rfl | rfl <;> rfl
  · have hreader : Format.arg.reader = Reader.arg := rfl
    rw [hreader, hread _ _ (form?_rendered hkeyword _), payloads_rendered hkeyword]
    exact congrArg make hid.read

theorem writes_arg {a : GenericArg} (ha : a.wellFormed = true) :
    ∃ j, writeArg a = .ok j ∧ Format.arg.Writes a j := by
  cases a with
  | type id =>
    refine ⟨_, rfl, writes_identArg (by decide) (fun _ => rfl) (fun given payload h => ?_) id⟩
    simp [Reader.arg, h]
  | userType id =>
    refine ⟨_, rfl, writes_identArg (by decide) (fun _ => rfl) (fun given payload h => ?_) id⟩
    simp only [Reader.arg, h]
  | value v =>
    have hkeyword : isKeyword "Value" = true := by decide
    refine ⟨_, rfl, writes_tagged (writes_value v) hkeyword (by decide) shape_arg
      (by decide) check_arg rfl rfl rfl ?_ rfl⟩
    simp only [Format.arg, Reader.arg, form?_rendered hkeyword]
    show GenericArg.value ((Text.intOfString? (toString v)).getD 0) = _
    rw [intOfString?_toString]
    rfl
  | libfunc id =>
    refine ⟨_, rfl, writes_identArg (by decide) (fun _ => rfl) (fun given payload h => ?_) id⟩
    simp only [Reader.arg, h]
  | userFunc id =>
    refine ⟨_, rfl, writes_identArg (by decide) (fun _ => rfl) (fun given payload h => ?_) id⟩
    simp only [Reader.arg, h]
  | blank n => cases ha

theorem stores_arg : Format.arg.Stores writeArg := by
  intro given
  refine writes_arg ?_
  simp only [Format.arg, Reader.arg]
  split <;> rfl

def Format.longId : Format LongId :=
  ⟨Schema.longId, Reader.longId, 4, LongId.isComplete, LongId.names⟩

theorem writes_longId {l : LongId} {args : Json} (hargs : Format.arg.list.Writes l.args args) :
    Format.longId.Writes l
      (.object [("generic_id", .string l.generic), ("generic_args", args)]) := by
  have hgeneric := writes_text l.generic
  have hcheck : Format.longId.reader.check = Reader.checkRecord
      [("generic_id", Reader.text.check), ("generic_args", (Reader.list Reader.arg).check)] := rfl
  refine writes_object hcheck rfl rfl rfl
    (by decide : AreKeys ["generic_id", "generic_args"]) ?_ ?_ ?_ ?_
  · simp only [List.forall_mem_cons]
    exact ⟨hgeneric.fits (by decide) rfl, hargs.fits (by decide) rfl, List.forall_mem_nil _⟩
  · intro c hc given hholds
    exact congrArg₂ and (hholds.present (by simp) (hgeneric.shapes.conforms hc))
      ((congrArg₂ and (hholds.present (by simp) (hargs.shapes.conforms hc)) rfl).trans
        (Bool.and_true _))
  · intro given hgiven
    show LongId.mk (Reader.text.read (given.member "generic_id"))
      ((Reader.list Reader.arg).read (given.member "generic_args")) = LongId.mk l.generic l.args
    rw [hgiven.present (j := .string l.generic) (by simp), hgiven.present (j := args) (by simp)]
    exact congrArg₂ LongId.mk hgeneric.read hargs.read
  · simp [hgeneric.marked, hargs.marked, Format.longId, LongId.names, Format.text, Format.list,
      Format.arg]

theorem writeLongId_eq_ok {l : LongId} {args : Json}
    (h : tryWriteListing writeArg l.args = .ok args) : writeLongId l =
      .ok (.object [("generic_id", .string l.generic), ("generic_args", args)]) := by
  rw [writeLongId, h]
  rfl

theorem stores_longId : Format.longId.Stores writeLongId := by
  intro given
  obtain ⟨args, hwrite, hargs⟩ := stores_arg.list (given.member "generic_args")
  exact ⟨_, writeLongId_eq_ok hwrite, writes_longId hargs⟩

def Format.declaration : Format Declaration :=
  ⟨Schema.declaration, Reader.declaration, 5, fun d => d.longId.isComplete, Declaration.names⟩

theorem writes_declaration {d : Declaration} {longId : Json}
    (hlong : Format.longId.Writes d.longId longId) :
    Format.declaration.Writes d (.object [("id", writeIdent d.id), ("long_id", longId)]) := by
  have hid := writes_ident d.id
  have hcheck : Format.declaration.reader.check = Reader.checkRecord
      [("id", Reader.ident.check), ("long_id", Reader.longId.check)] := rfl
  refine writes_object hcheck rfl rfl rfl (by decide : AreKeys ["id", "long_id"]) ?_ ?_ ?_ ?_
  · simp only [List.forall_mem_cons]
    exact ⟨hid.fits (by decide) rfl, hlong.fits (by decide) rfl, List.forall_mem_nil _⟩
  · intro c hc given hholds
    exact congrArg₂ and (hholds.present (by simp) (hid.shapes.conforms hc))
      ((congrArg₂ and (hholds.present (by simp) (hlong.shapes.conforms hc)) rfl).trans
        (Bool.and_true _))
  · intro given hgiven
    show Declaration.mk (Reader.ident.read (given.member "id"))
      (Reader.longId.read (given.member "long_id")) = Declaration.mk d.id d.longId
    rw [hgiven.present (j := writeIdent d.id) (by simp), hgiven.present (j := longId) (by simp)]
    exact congrArg₂ Declaration.mk hid.read hlong.read
  · simp [hid.marked, hlong.marked, Format.declaration, Declaration.names, Format.ident,
      Format.longId]

theorem writeDeclaration_eq_ok {d : Declaration} {longId : Json}
    (h : writeLongId d.longId = .ok longId) : writeDeclaration d =
      .ok (.object [("id", writeIdent d.id), ("long_id", longId)]) := by
  rw [writeDeclaration, h]
  rfl

theorem stores_declaration : Format.declaration.Stores writeDeclaration := by
  intro given
  obtain ⟨longId, hwrite, hlong⟩ := stores_longId (given.member "long_id")
  exact ⟨_, writeDeclaration_eq_ok hwrite, writes_declaration hlong⟩

/-! ### Statements -/

def Format.target : Format Target := ⟨Schema.target, Reader.target, 1, isNatural, fun _ => []⟩

theorem writes_target {t : Target} (ht : ∀ i, t = .statement i → InRange i) :
    Format.target.Writes t (writeTarget t) := by
  cases t with
  | fallthrough =>
    have hcontent :
        Json.content (Json.escaped true (Json.spell "Fallthrough")) = "Fallthrough" := by
      rw [Json.content_escaped (Json.isSpelling_spell _), Json.content_spell]
    have hshape : Shapes Format.target.shape (writeTarget .fallthrough) true := by
      refine ⟨fun hc => hc.agrees_str (isSome_content?_spell _), fun hc => ?_⟩
      refine (hc.oneOf_str (isSome_content?_spell _)).trans ?_
      rw [Json.content_spell]
      rfl
    refine ⟨.str ⟨Json.isSpelling_spell _, fun _ _ => trivial⟩, hshape, ?_, rfl, ?_⟩
    · have hcheck : ∀ {s : String}, Json.content s = "Fallthrough" →
          Reader.checkTarget (.str s) = .ok () := by
        intro s h
        simp [Reader.checkTarget, h, require]
      rw [writeTarget, Json.string, Json.rendered]
      exact hcheck hcontent
    · exact iff_of_false (fun h => absurd (isMarked_string.mp h) (by decide))
        (by simp [Format.target])
  | statement i =>
    have hindex := writes_index (ht i rfl)
    have hkeyword : isKeyword "Statement" = true := by decide
    have hshape : Format.target.shape =
        .oneOf ["Fallthrough"] [("Statement", .scalar .natural)] := rfl
    have hcheck : ∀ text members, Format.target.reader.check (.obj text members) =
        Reader.checkForms .branchTarget [("Statement", Reader.index.check)] (.obj text members) :=
      fun _ _ => rfl
    refine writes_tagged hindex hkeyword (by decide) hshape (by decide) hcheck rfl rfl rfl
      ?_ rfl
    have htagged := tagged?_rendered hkeyword (Json.int i)
    rw [tagged, rendered_object (by simpa using hkeyword)] at htagged ⊢
    have hread : ∀ {text members t}, tagged? (.obj text members) = some ("Statement", t) →
        Format.target.reader.read [.obj text members] = .statement (Reader.index.read [t]) := by
      intro text members t h
      show (Option.map _ (tagged? (.obj text members))).getD _ = _
      rw [h]
      rfl
    exact (hread htagged).trans (congrArg Target.statement hindex.read)

theorem inRange_target {given : Given} {i : Int} (h : Reader.target.read given = .statement i) :
    InRange i := by
  have htarget : (given.getLast?.bind Reader.targetOf?).getD (.statement 0) = .statement i := h
  cases hgiven : given.getLast?.bind Reader.targetOf? with
  | none =>
    rw [hgiven] at htarget
    obtain rfl := Target.statement.inj htarget
    exact ⟨by decide, by decide⟩
  | some t =>
    rw [hgiven] at htarget
    obtain ⟨j, -, hj⟩ := Option.bind_eq_some_iff.mp hgiven
    have hforms : Reader.targetOf? j = some .fallthrough ∨ Reader.targetOf? j =
        (tagged? j).map fun t => .statement (Reader.index.read [t.2]) := by
      cases j with
      | str s => exact .inl rfl
      | _ => exact .inr rfl
    rcases hforms with hform | hform
    · rw [hj] at hform
      cases hform
      cases htarget
    · obtain ⟨payload, -, rfl⟩ := Option.map_eq_some_iff.mp (hform.symm.trans hj)
      obtain rfl := Target.statement.inj htarget
      exact inRange_index _

theorem stores_target : Format.target.Stores fun t => .ok (writeTarget t) :=
  fun _ => ⟨_, rfl, writes_target fun _ hi => inRange_target hi⟩

def Format.branch : Format Branch :=
  ⟨Schema.branch, Reader.branch, 3, Branch.isComplete, fun _ => []⟩

theorem writes_branch {b : Branch} (htarget : Format.target.Writes b.target (writeTarget b.target))
    (hresults : Format.var.list.Writes b.results (writeListing writeVar b.results)) :
    Format.branch.Writes b (writeBranch b) := by
  have hcheck : Format.branch.reader.check = Reader.checkRecord
      [("target", Reader.target.check), ("results", (Reader.list Reader.var).check)] := rfl
  refine writes_object hcheck rfl rfl rfl (by decide : AreKeys ["target", "results"]) ?_ ?_ ?_ ?_
  · simp only [List.forall_mem_cons]
    exact ⟨htarget.fits (by decide) rfl, hresults.fits (by decide) rfl, List.forall_mem_nil _⟩
  · intro c hc given hholds
    exact congrArg₂ and (hholds.present (by simp) (htarget.shapes.conforms hc))
      ((congrArg₂ and (hholds.present (by simp) (hresults.shapes.conforms hc)) rfl).trans
        (Bool.and_true _))
  · intro given hgiven
    show Branch.mk (Reader.target.read (given.member "target"))
      ((Reader.list Reader.var).read (given.member "results")) = Branch.mk b.target b.results
    rw [hgiven.present (j := writeTarget b.target) (by simp),
      hgiven.present (j := writeListing writeVar b.results) (by simp)]
    exact congrArg₂ Branch.mk htarget.read hresults.read
  · simp [htarget.marked, hresults.marked, Format.branch, Format.target, Format.list, Format.var]

theorem stores_branch : Format.branch.Stores fun b => .ok (writeBranch b) :=
  fun given => ⟨_, rfl, writes_branch (stores_target.writes (given.member "target"))
    (stores_var.listing.writes (given.member "results"))⟩

def Format.invocation : Format Invocation :=
  ⟨Schema.invocation, Reader.invocation, 5, fun i => Statement.isComplete (.invoke i),
    fun i => [i.libfunc.debugName]⟩

theorem writes_invocation {i : Invocation}
    (hargs : Format.var.list.Writes i.args (writeListing writeVar i.args))
    (hbranches : Format.branch.list.Writes i.branches (writeListing writeBranch i.branches)) :
    Format.invocation.Writes i (writeInvocation i) := by
  have hlibfunc := writes_ident i.libfunc
  have hcheck : Format.invocation.reader.check = Reader.checkRecord
      [("libfunc_id", Reader.ident.check), ("args", (Reader.list Reader.var).check),
        ("branches", (Reader.list Reader.branch).check)] := rfl
  refine writes_object hcheck rfl rfl rfl
    (by decide : AreKeys ["libfunc_id", "args", "branches"]) ?_ ?_ ?_ ?_
  · simp only [List.forall_mem_cons]
    exact ⟨hlibfunc.fits (by decide) rfl, hargs.fits (by decide) rfl,
      hbranches.fits (by decide) rfl, List.forall_mem_nil _⟩
  · intro c hc given hholds
    refine (congrArg₂ and (hholds.present (by simp) (hlibfunc.shapes.conforms hc))
      (congrArg₂ and (hholds.present (by simp) (hargs.shapes.conforms hc))
        (congrArg₂ and (hholds.present (by simp) (hbranches.shapes.conforms hc)) rfl))).trans ?_
    simp [Format.invocation, Statement.isComplete, Format.ident, Format.list, Format.var,
      Format.branch]
  · intro given hgiven
    show Invocation.mk (Reader.ident.read (given.member "libfunc_id"))
      ((Reader.list Reader.var).read (given.member "args"))
      ((Reader.list Reader.branch).read (given.member "branches")) =
        Invocation.mk i.libfunc i.args i.branches
    rw [hgiven.present (j := writeIdent i.libfunc) (by simp),
      hgiven.present (j := writeListing writeVar i.args) (by simp),
      hgiven.present (j := writeListing writeBranch i.branches) (by simp)]
    exact congr (congrArg₂ Invocation.mk hlibfunc.read hargs.read) hbranches.read
  · simp [hlibfunc.marked, hargs.marked, hbranches.marked, Format.invocation, Format.ident,
      Format.list, Format.var, Format.branch]

theorem stores_invocation : Format.invocation.Stores fun i => .ok (writeInvocation i) :=
  fun given => ⟨_, rfl, writes_invocation (stores_var.listing.writes (given.member "args"))
    (stores_branch.listing.writes (given.member "branches"))⟩

def Format.statement : Format Statement :=
  ⟨Schema.statement, Reader.statement, 6, Statement.isComplete, Statement.names⟩

theorem shape_statement : Format.statement.shape =
    .oneOf [] [("Invocation", Schema.invocation), ("Return", .list Schema.varId)] := rfl

theorem check_statement (text : String) (members : List (String × Json)) :
    Format.statement.reader.check (.obj text members) = Reader.checkForms .statement
      [("Invocation", Reader.invocation.check), ("Return", (Reader.list Reader.var).check)]
      (.obj text members) := rfl

theorem writes_invoke {i : Invocation} (hi : Format.invocation.Writes i (writeInvocation i)) :
    Format.statement.Writes (.invoke i) (writeStatement (.invoke i)) := by
  have hkeyword : isKeyword "Invocation" = true := by decide
  refine writes_tagged hi hkeyword (by decide) shape_statement (by decide)
    check_statement rfl rfl rfl ?_ rfl
  have hreader : Format.statement.reader = Reader.statement := rfl
  rw [hreader]
  simp only [Reader.statement, form?_rendered hkeyword, payloads_rendered hkeyword]
  exact congrArg Statement.invoke hi.read

theorem writes_ret (vars : List VarId) :
    Format.statement.Writes (.ret (some vars)) (writeStatement (.ret (some vars))) := by
  have hkeyword : isKeyword "Return" = true := by decide
  have hvars : Format.var.list.Writes (some vars) (.array (vars.map writeVar)) :=
    writes_listing fun v _ => writes_var v
  refine writes_tagged hvars hkeyword (by decide) shape_statement (by decide)
    check_statement rfl rfl ?_ ?_ ?_
  · simp [Format.statement, Statement.isComplete, Format.list, Listing.isWhole, Format.var]
  · have hreader : Format.statement.reader = Reader.statement := rfl
    rw [hreader]
    simp only [Reader.statement, form?_rendered hkeyword, payloads_rendered hkeyword]
    exact congrArg (fun l => Statement.ret (some (Listing.items l))) hvars.read
  · simp [Format.statement, Statement.names, Format.list, Format.var]

theorem stores_statement : Format.statement.Stores fun s => .ok (writeStatement s) := by
  intro given
  refine ⟨_, rfl, ?_⟩
  have hreader : Format.statement.reader = Reader.statement := rfl
  rw [hreader]
  simp only [Reader.statement]
  split
  case h_1 => exact writes_ret _
  case h_2 => exact writes_invoke (stores_invocation.writes (given.payloads "Invocation"))

/-! ### Functions -/

def Format.param : Format Param :=
  ⟨Schema.param, Reader.param, 2, fun _ => true, fun p => [p.type.debugName]⟩

theorem writes_param (p : Param) : Format.param.Writes p (writeParam p) := by
  have hvar := writes_var p.var
  have htype := writes_ident p.type
  have hcheck : Format.param.reader.check = Reader.checkRecord
      [("id", Reader.var.check), ("ty", Reader.ident.check)] := rfl
  refine writes_object hcheck rfl rfl rfl (by decide : AreKeys ["id", "ty"]) ?_ ?_ ?_ ?_
  · simp only [List.forall_mem_cons]
    exact ⟨hvar.fits (by decide) rfl, htype.fits (by decide) rfl, List.forall_mem_nil _⟩
  · intro c hc given hholds
    exact congrArg₂ and (hholds.present (by simp) (hvar.shapes.conforms hc))
      (congrArg₂ and (hholds.present (by simp) (htype.shapes.conforms hc)) rfl)
  · intro given hgiven
    show Param.mk (Reader.var.read (given.member "id")) (Reader.ident.read (given.member "ty")) =
      Param.mk p.var p.type
    rw [hgiven.present (j := writeVar p.var) (by simp),
      hgiven.present (j := writeIdent p.type) (by simp)]
    exact congrArg₂ Param.mk hvar.read htype.read
  · simp [hvar.marked, htype.marked, Format.param, Format.var, Format.ident]

theorem stores_param : Format.param.Stores fun p => .ok (writeParam p) :=
  fun _ => ⟨_, rfl, writes_param _⟩

def Format.signature : Format Signature :=
  ⟨Schema.signature, Reader.signature, 3, Signature.isComplete, Signature.names⟩

theorem writes_signature {s : Signature}
    (hparams : Format.ident.list.Writes s.paramTypes (writeListing writeIdent s.paramTypes))
    (hrets : Format.ident.list.Writes s.retTypes (writeListing writeIdent s.retTypes)) :
    Format.signature.Writes s (writeSignature s) := by
  have hcheck : Format.signature.reader.check = Reader.checkRecord
      [("param_types", (Reader.list Reader.ident).check),
        ("ret_types", (Reader.list Reader.ident).check)] := rfl
  refine writes_object hcheck rfl rfl rfl (by decide : AreKeys ["param_types", "ret_types"])
    ?_ ?_ ?_ ?_
  · simp only [List.forall_mem_cons]
    exact ⟨hparams.fits (by decide) rfl, hrets.fits (by decide) rfl, List.forall_mem_nil _⟩
  · intro c hc given hholds
    exact congrArg₂ and (hholds.present (by simp) (hparams.shapes.conforms hc))
      ((congrArg₂ and (hholds.present (by simp) (hrets.shapes.conforms hc)) rfl).trans
        (Bool.and_true _))
  · intro given hgiven
    show Signature.mk ((Reader.list Reader.ident).read (given.member "param_types"))
      ((Reader.list Reader.ident).read (given.member "ret_types")) =
        Signature.mk s.paramTypes s.retTypes
    rw [hgiven.present (j := writeListing writeIdent s.paramTypes) (by simp),
      hgiven.present (j := writeListing writeIdent s.retTypes) (by simp)]
    exact congrArg₂ Signature.mk hparams.read hrets.read
  · simp [hparams.marked, hrets.marked, Format.signature, Signature.names, Format.list,
      Format.ident, holdsMark_map]

theorem stores_signature : Format.signature.Stores fun s => .ok (writeSignature s) :=
  fun given => ⟨_, rfl, writes_signature
    (stores_ident.listing.writes (given.member "param_types"))
    (stores_ident.listing.writes (given.member "ret_types"))⟩

def Format.function : Format Function :=
  ⟨Schema.function, Reader.function, 4, Function.isComplete, Function.names⟩

theorem writes_function {f : Function}
    (hsignature : Format.signature.Writes f.signature (writeSignature f.signature))
    (hparams : Format.param.list.Writes f.params (writeListing writeParam f.params))
    (hentry : Format.index.Writes f.entry (.int f.entry)) :
    Format.function.Writes f (writeFunction f) := by
  have hid := writes_ident f.id
  have hcheck : Format.function.reader.check = Reader.checkRecord
      [("id", Reader.ident.check), ("signature", Reader.signature.check),
        ("params", (Reader.list Reader.param).check), ("entry_point", Reader.index.check)] := rfl
  refine writes_object hcheck rfl rfl rfl
    (by decide : AreKeys ["id", "signature", "params", "entry_point"]) ?_ ?_ ?_ ?_
  · simp only [List.forall_mem_cons]
    exact ⟨hid.fits (by decide) rfl, hsignature.fits (by decide) rfl,
      hparams.fits (by decide) rfl, hentry.fits (by decide) rfl, List.forall_mem_nil _⟩
  · intro c hc given hholds
    refine (congrArg₂ and (hholds.present (by simp) (hid.shapes.conforms hc))
      (congrArg₂ and (hholds.present (by simp) (hsignature.shapes.conforms hc))
        (congrArg₂ and (hholds.present (by simp) (hparams.shapes.conforms hc))
          (congrArg₂ and (hholds.present (by simp) (hentry.shapes.conforms hc)) rfl)))).trans ?_
    simp [Format.function, Function.isComplete, Format.ident, Format.signature, Format.list,
      Format.param, Format.index, Bool.and_assoc]
  · intro given hgiven
    show Function.mk (Reader.ident.read (given.member "id"))
      (Reader.signature.read (given.member "signature"))
      ((Reader.list Reader.param).read (given.member "params"))
      (Reader.index.read (given.member "entry_point")) =
        Function.mk f.id f.signature f.params f.entry
    rw [hgiven.present (j := writeIdent f.id) (by simp),
      hgiven.present (j := writeSignature f.signature) (by simp),
      hgiven.present (j := writeListing writeParam f.params) (by simp),
      hgiven.present (j := .int f.entry) (by simp)]
    exact congr (congr (congrArg₂ Function.mk hid.read hsignature.read) hparams.read) hentry.read
  · simp [hid.marked, hsignature.marked, hparams.marked, hentry.marked, Format.function,
      Function.names, Format.ident, Format.signature, Format.list, Format.param, Format.index,
      holdsMark_map]

theorem stores_function : Format.function.Stores fun f => .ok (writeFunction f) :=
  fun given => ⟨_, rfl, writes_function (stores_signature.writes (given.member "signature"))
    (stores_param.listing.writes (given.member "params"))
    (writes_index (inRange_index (given.member "entry_point")))⟩

end SierraCasm.Document
