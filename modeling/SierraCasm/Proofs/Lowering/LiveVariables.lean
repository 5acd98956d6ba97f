import SierraCasm.Proofs.Casm.Assembly
import SierraCasm.Proofs.Lowering.Defects
import SierraCasm.Proofs.Lowering.Linearity

/-! # How messages list the variables that are alive

Two messages of lowering list variables: those that a return leaves over, and those that a branch
brings to a statement where other references have arrived.  The number of a variable is an unsigned
integer of 64 bits, but the list is made from signed ones (`listedNumber`).  Below `2 ^ 63` this is
the same; a variable from there on gets a negative number and stands before the others.  So the
variables are listed by their own numbers and in the order of these if all of them are below
`2 ^ 63`, and only then (`Env.lists_ascending_iff`).  Nothing is lost: lists are the same only for
environments with the same variables (`renderLive_eq_iff`).

What a message lists are always the variables of the environment that it is about (`Reports`,
`exists_reports_of_compile`). -/

namespace SierraCasm

open Sierra Concrete

namespace Lowering

/-! ### Numbers in brackets -/

def bracketed (n : Int) : String := "[" ++ toString n ++ "]"

theorem render_eq_bracketed (v : VarId) : v.render = bracketed v.id.toNat := rfl

theorem toList_bracketed (n : Int) :
    (bracketed n).toList = '[' :: ((toString n).toList ++ [']']) := by
  simp [bracketed, String.toList_append]

theorem delimited_bracketed :
    Casm.Delimited (fun n : Int => (bracketed n).toList) Casm.Anything := by
  intro m n xs ys hxs hys h
  simp only [toList_bracketed, List.cons_append, List.cons.injEq, true_and] at h
  exact Casm.delimited_closed hxs hys h

def separated (n : Int) : List Char := ',' :: ' ' :: (bracketed n).toList

theorem delimited_separated : Casm.Delimited separated Casm.Anything := by
  intro m n xs ys hxs hys h
  simp only [separated, List.cons_append, List.cons.injEq, true_and] at h
  exact delimited_bracketed hxs hys h

theorem toList_commaSeparated (n : Int) (ns : List Int) :
    (commaSeparated ((n :: ns).map bracketed)).toList =
      (bracketed n).toList ++ ns.flatMap separated := by
  rw [commaSeparated, String.toList_intercalate, List.map_map]
  induction ns generalizing n with
  | nil => simp
  | cons k ns ih =>
    rw [List.map_cons, List.map_cons, List.intercalate_cons_cons, ← List.map_cons, ih k,
      List.flatMap_cons, separated]
    simp

theorem commaSeparated_bracketed_inj {ms ns : List Int}
    (h : commaSeparated (ms.map bracketed) = commaSeparated (ns.map bracketed)) : ms = ns := by
  have hlist := congrArg String.toList h
  cases ms with
  | nil =>
    cases ns with
    | nil => rfl
    | cons n ns =>
      rw [toList_commaSeparated, toList_bracketed] at hlist
      cases hlist
  | cons m ms =>
    cases ns with
    | nil =>
      rw [toList_commaSeparated, toList_bracketed] at hlist
      cases hlist
    | cons n ns =>
      rw [toList_commaSeparated, toList_commaSeparated] at hlist
      obtain ⟨rfl, hrest⟩ := delimited_bracketed trivial trivial hlist
      have hall : Casm.Delimited (fun ns : List Int => ns.flatMap separated) (· = []) :=
        delimited_separated.flatMap fun n xs hnil => by cases hnil
      obtain ⟨rfl, -⟩ := @hall ms ns [] [] rfl rfl (by simpa using hrest)
      rfl

/-! ### Signed numbers -/

/-- The number by which a list names a variable: its own below `2 ^ 63`, and `2 ^ 64` less from
there on. -/
def listedNumber (v : VarId) : Int :=
  if v.id.toNat < 2 ^ 63 then v.id.toNat else v.id.toNat - 2 ^ 64

theorem toInt_toInt64 (v : VarId) : v.id.toInt64.toInt = listedNumber v := by
  rw [← Int64.toInt_toBitVec, UInt64.toBitVec_toInt64, BitVec.toInt_eq_toNat_cond,
    UInt64.toNat_toBitVec, listedNumber]
  split <;> split <;> omega

theorem listedNumber_of_lt {v : VarId} (h : v.id.toNat < 2 ^ 63) :
    listedNumber v = v.id.toNat := if_pos h

theorem listedNumber_nonneg_iff {v : VarId} : 0 ≤ listedNumber v ↔ v.id.toNat < 2 ^ 63 := by
  have hlt := v.id.toNat_lt
  rw [listedNumber]
  split <;> omega

theorem listedNumber_injective : Function.Injective listedNumber := by
  rintro ⟨m⟩ ⟨n⟩ h
  have hm := m.toNat_lt
  have hn := n.toNat_lt
  have hnat : m.toNat = n.toNat := by
    simp only [listedNumber] at h
    split at h <;> split at h <;> omega
  rw [UInt64.toNat_inj.mp hnat]

theorem listedNumber_lt {v w : VarId} (hhalf : 0 ≤ listedNumber v ↔ 0 ≤ listedNumber w)
    (h : v.id < w.id) : listedNumber v < listedNumber w := by
  rw [listedNumber_nonneg_iff, listedNumber_nonneg_iff] at hhalf
  rw [UInt64.lt_iff_toNat_lt] at h
  simp only [listedNumber]
  split <;> split <;> omega

/-- The variables with negative numbers, then the others. -/
def signedOrder (vars : List VarId) : List VarId :=
  vars.filter (listedNumber · < 0) ++ vars.filter (0 ≤ listedNumber ·)

theorem renderLive_eq (vars : List VarId) :
    renderLive vars = commaSeparated (((signedOrder vars).map listedNumber).map bracketed) := by
  simp only [renderLive, List.filter_map, ← List.map_append, List.map_map, commaSeparated,
    signedOrder, Function.comp_def, Int64.lt_iff_toInt_lt, Int64.le_iff_toInt_le, Int64.toInt_zero,
    toInt_toInt64, bracketed]

theorem mem_signedOrder {vars : List VarId} {v : VarId} : v ∈ signedOrder vars ↔ v ∈ vars := by
  rw [signedOrder, List.mem_append, List.mem_filter, List.mem_filter, ← and_or_left,
    decide_eq_true_eq, decide_eq_true_eq]
  exact and_iff_left (Int.lt_or_le _ _)

/-- Two ascending runs, the negative numbers before the others, ascend. -/
theorem pairwise_signedOrder {vars : List VarId} (h : vars.Pairwise (·.id < ·.id)) :
    (signedOrder vars).Pairwise (listedNumber · < listedNumber ·) := by
  have hrun : ∀ half : VarId → Bool,
      (∀ v w, half v → half w → (0 ≤ listedNumber v ↔ 0 ≤ listedNumber w)) →
      (vars.filter half).Pairwise (listedNumber · < listedNumber ·) := by
    intro half hhalf
    refine (h.filter half).imp_of_mem fun {v w} hv hw hlt => ?_
    exact listedNumber_lt (hhalf v w (List.mem_filter.mp hv).2 (List.mem_filter.mp hw).2) hlt
  rw [signedOrder, List.pairwise_append]
  refine ⟨hrun _ fun v w hv hw => ?_, hrun _ fun v w hv hw => ?_, fun v hv w hw => ?_⟩
  · rw [decide_eq_true_eq] at hv hw
    omega
  · rw [decide_eq_true_eq] at hv hw
    omega
  · rw [List.mem_filter, decide_eq_true_eq] at hv hw
    omega

theorem signedOrder_eq_self {vars : List VarId} (h : ∀ v ∈ vars, v.id.toNat < 2 ^ 63) :
    signedOrder vars = vars := by
  have hnonneg : ∀ v ∈ vars, 0 ≤ listedNumber v :=
    fun v hv => listedNumber_nonneg_iff.mpr (h v hv)
  have hnone : vars.filter (listedNumber · < 0) = [] :=
    List.filter_eq_nil_iff.mpr fun v hv => by simpa using hnonneg v hv
  have hall : vars.filter (0 ≤ listedNumber ·) = vars :=
    List.filter_eq_self.mpr fun v hv => by simpa using hnonneg v hv
  rw [signedOrder, hnone, hall, List.nil_append]

/-! ### Lists of variables -/

/-- A text lists the variables that are bound: exactly these, in an order, each in its spelling, and
separated by commas. -/
def Env.Lists (e : Env) (before : VarId → VarId → Prop) (spell : VarId → String)
    (text : String) : Prop :=
  ∃ vars : List VarId, (∀ v, v ∈ vars ↔ (e.find? v).isSome) ∧ vars.Pairwise before ∧
    text = commaSeparated (vars.map spell)

theorem Env.mem_vars_iff {e : Env} {v : VarId} : v ∈ e.vars ↔ (e.find? v).isSome := by
  rw [Env.vars, Env.find?, Option.isSome_map, List.find?_isSome, List.mem_map]
  simp only [beq_iff_eq]

section listing

variable {e e' : Env}

/-- Variables are listed by their signed numbers. -/
theorem Env.lists_signed (h : e.Ordered) :
    e.Lists (listedNumber · < listedNumber ·) (fun v => bracketed (listedNumber v))
      (renderLive e.vars) := by
  refine ⟨signedOrder e.vars, fun v => mem_signedOrder.trans Env.mem_vars_iff,
    pairwise_signedOrder h, ?_⟩
  rw [renderLive_eq, List.map_map]
  rfl

/-- Variables are listed by their own numbers if none is in the upper half of the range. -/
theorem Env.lists_ascending_iff (h : e.Ordered) :
    e.Lists (·.id < ·.id) VarId.render (renderLive e.vars) ↔
      ∀ v, (e.find? v).isSome → v.id.toNat < 2 ^ 63 := by
  constructor
  · rintro ⟨vars, -, -, htext⟩ v hv
    -- The text shows the numbers, and no number of a variable is negative.
    have hnumbers : (signedOrder e.vars).map listedNumber =
        vars.map fun w => (w.id.toNat : Int) := by
      apply commaSeparated_bracketed_inj
      rw [← renderLive_eq, htext, List.map_map]
      rfl
    have hmem : listedNumber v ∈ (signedOrder e.vars).map listedNumber :=
      List.mem_map_of_mem (mem_signedOrder.mpr (Env.mem_vars_iff.mpr hv))
    rw [hnumbers] at hmem
    obtain ⟨w, -, hw⟩ := List.mem_map.mp hmem
    rw [← listedNumber_nonneg_iff, ← hw]
    exact Int.natCast_nonneg _
  · intro hlt
    have hlt' : ∀ v ∈ e.vars, v.id.toNat < 2 ^ 63 := fun v hv => hlt v (Env.mem_vars_iff.mp hv)
    refine ⟨e.vars, fun v => Env.mem_vars_iff, h, ?_⟩
    rw [renderLive_eq, signedOrder_eq_self hlt', List.map_map]
    refine congrArg commaSeparated (List.map_congr_left fun v hv => ?_)
    rw [Function.comp_apply, listedNumber_of_lt (hlt' v hv), render_eq_bracketed]

theorem Env.Ordered.vars_eq (h : e.Ordered) (h' : e'.Ordered)
    (hsame : ∀ v, (e.find? v).isSome = (e'.find? v).isSome) : e.vars = e'.vars := by
  have hnodup : ∀ {e : Env}, e.Ordered → e.vars.Nodup := by
    intro e h
    refine List.Pairwise.imp ?_ h
    rintro v _ hlt rfl
    exact UInt64.lt_irrefl _ hlt
  have hperm : e.vars.Perm e'.vars :=
    (List.perm_ext_iff_of_nodup (hnodup h) (hnodup h')).mpr fun v => by
      rw [Env.mem_vars_iff, Env.mem_vars_iff, hsame]
  exact hperm.eq_of_pairwise (fun v w _ _ hlt hgt => absurd hgt (UInt64.lt_asymm hlt)) h h'

/-- The list shows which variables are bound. -/
theorem renderLive_eq_iff (h : e.Ordered) (h' : e'.Ordered) :
    renderLive e.vars = renderLive e'.vars ↔
      ∀ v, (e.find? v).isSome = (e'.find? v).isSome := by
  constructor
  · intro htext v
    rw [renderLive_eq, renderLive_eq] at htext
    have hvars : signedOrder e.vars = signedOrder e'.vars :=
      listedNumber_injective.list_map (commaSeparated_bracketed_inj htext)
    rw [Bool.eq_iff_iff, ← Env.mem_vars_iff, ← Env.mem_vars_iff, ← mem_signedOrder, hvars,
      mem_signedOrder]
  · intro hsame
    rw [h.vars_eq h' hsame]

end listing

/-! ### The variables that messages list -/

/-- The variables that the message of a defect lists. -/
def Defect.listed? : Defect → Option (List VarId)
  | .inconsistent vars | .stillAlive vars => some vars
  | _ => none

theorem Defect.listed?_of_isLocal {d : Defect} (h : d.isLocal = true) : d.listed? = none := by
  cases d with
  | inconsistent | stillAlive => cases h
  | _ => rfl

/-- The environment whose variables the message of a fault lists: what the arguments of a return
leave over, or what a branch brings to its target. -/
inductive Reports (ctx : Context) : Fault → Env → Prop
  | ret {i : Nat} {table : EnvTable} {vars : List VarId} {site : Ap.Site} {env rest : Env}
      {f : Function} {values : List Ref} :
      Pass ctx i table → ctx.registry.program.statements[i]? = some (.ret vars) →
      ctx.metadata.site? i = some site → table.at? i = some env →
      ctx.registry.program.functions[site.owner]? = some f →
      takeArgs env vars f.retTypes = .ok (values, rest) →
      Reports ctx ⟨i, .stillAlive rest.vars⟩ rest
  | branch {i b : Nat} {table : EnvTable} {inv : Invocation} {site : Ap.Site} {env rest e : Env}
      {lib : ConcreteLibfunc} {args refs : List Ref} {lowered : Lowered} {branch : Branch} :
      Pass ctx i table → Invoked ctx table i inv site env lib args rest lowered →
      inv.branches[b]? = some branch → lowered.outputs[b]? = some refs →
      Brings ctx.metadata i b rest branch refs e →
      Reports ctx ⟨(branch.target.resolve i).toNat, .inconsistent e.vars⟩ e

theorem Reports.listed?_eq {ctx : Context} {fault : Fault} {e : Env} (h : Reports ctx fault e) :
    fault.defect.listed? = some e.vars := by
  cases h with
  | ret | branch => rfl

theorem Reports.ordered {r : Registry} {m : Metadata} {fault : Fault} {e : Env} (hvalid : r.Valid)
    (hm : m.Consistent r) (h : Reports ⟨r, m⟩ fault e) : e.Ordered := by
  cases h with
  | ret hpass _ _ henv _ htake =>
    exact ordered_of_takeArgs ((hpass.grounded hm).1.ordered hvalid henv) htake
  | branch hpass hinvoked _ _ hbrings =>
    have henv := (hpass.grounded hm).1.ordered hvalid hinvoked.env_eq
    exact hbrings.ordered (ordered_of_takeArgs henv hinvoked.args_eq)

section messages

variable {m : Metadata} {i b : Nat} {table : EnvTable}

theorem lowerReturn_lists (f : Function) (s : ApState) (e : Env) (vars : List VarId) :
    StopsOnly (fun d => d.listed? = none ∨
        ∃ values rest, takeArgs e vars f.retTypes = .ok (values, rest) ∧ d = .stillAlive rest.vars)
      (lowerReturn f s e vars) := by
  refine StopsOnly.bind (.require (.inl rfl)) fun _ _ => ?_
  refine StopsOnly.bind (fun d hd => .inl ?_) ?_
  · exact Defect.listed?_of_isLocal (local_takeArgs _ _ _ d hd)
  · rintro ⟨values, rest⟩ htake
    refine StopsOnly.bind (.require (.inr ⟨values, rest, htake, rfl⟩)) fun _ _ => ?_
    refine StopsOnly.bind (fun d hd => .inl ?_) fun _ _ => .ok
    exact Defect.listed?_of_isLocal (local_checkOnTop _ _ _ d hd)

/-- A statement stops with a list of the variables of an environment, or with none. -/
theorem lowerStatement_reports {ctx : Context} {statement : Statement} (hpass : Pass ctx i table)
    (hstatement : ctx.registry.program.statements[i]? = some statement) :
    StopsOnly (fun fault => fault.defect.listed? = none ∨ ∃ e, Reports ctx fault e)
      (lowerStatement ctx i statement table) := by
  intro fault herror
  cases lowerStatement_eq_error hstatement herror with
  | unreached | ownerless | undeclared | branches => exact .inl rfl
  | ret hsite henv hf hret =>
    refine (lowerReturn_lists _ _ _ _ _ hret).imp_right ?_
    rintro ⟨values, rest, htake, rfl⟩
    exact ⟨rest, .ret hpass hstatement hsite henv hf htake⟩
  | args _ hargs => exact .inl (Defect.listed?_of_isLocal (local_takeArgs _ _ _ _ hargs))
  | lowering _ _ _ _ hlower =>
    exact .inl (Defect.listed?_of_isLocal (local_lowerInvocation _ _ _ _ hlower))
  | branch hinvoked hb hrefs _ hfails =>
    cases hfails with
    | results hdefect => exact .inl (Defect.listed?_of_isLocal (local_bindResults _ _ _ _ hdefect))
    | unrecorded | noReferences => exact .inl rfl
    | inconsistent hbrings => exact .inr ⟨_, .branch hpass hinvoked hb hrefs hbrings⟩

end messages

/-- If the message with which a program fails to compile lists variables, these are the variables of
an environment in order that a return leaves over or a branch brings. -/
theorem exists_reports_of_compile {p : Program} {r : Registry} {m : Metadata}
    {config : CompileConfig} {fault : Fault} {vars : List VarId}
    (hbuild : Registry.build p = .ok r) (hanalyze : analyze r = .ok m)
    (h : compile r m config = .error (.lowering fault))
    (hvars : fault.defect.listed? = some vars) :
    ∃ e, Reports ⟨r, m⟩ fault e ∧ e.Ordered ∧ e.vars = vars := by
  have hstops : StopsOnly (fun fault => fault.defect.listed? = none ∨ ∃ e, Reports ⟨r, m⟩ fault e)
      (lowerProgram ⟨r, m⟩) :=
    stopsOnly_lowerProgram (fun _ hlocal => .inl (Defect.listed?_of_isLocal hlocal))
      lowerStatement_reports
  rcases hstops fault (compile_eq_lowering_iff.mp h).2 with hnone | ⟨e, hreports⟩
  · rw [hvars] at hnone
    cases hnone
  · refine ⟨e, hreports, ?_, Option.some.inj (hreports.listed?_eq.symm.trans hvars)⟩
    exact hreports.ordered (Registry.build_valid hbuild).2 (analyze_consistent hanalyze)

/-! ### Listings of all environments -/

/-- The variables of an environment are listed by their signed numbers, in the order of these.  They
are listed by their own numbers, in ascending order, if all of these are below `2 ^ 63`, and only
then.  In any case the list shows which variables are bound. -/
theorem liveVariables_listed {e : Env} (h : e.Ordered) :
    e.Lists (listedNumber · < listedNumber ·) (fun v => bracketed (listedNumber v))
        (renderLive e.vars) ∧
      (e.Lists (·.id < ·.id) VarId.render (renderLive e.vars) ↔
        ∀ v, (e.find? v).isSome → v.id.toNat < 2 ^ 63) ∧
      ∀ e' : Env, e'.Ordered → (renderLive e.vars = renderLive e'.vars ↔
        ∀ v, (e.find? v).isSome = (e'.find? v).isSome) :=
  ⟨Env.lists_signed h, Env.lists_ascending_iff h, fun _ h' => renderLive_eq_iff h h'⟩

/-- The two ends of the lower half of the range, bound to values without cells. -/
def lowerEnds : Env := ⟨[(⟨0⟩, ⟨{}, []⟩), (⟨0x7fffffffffffffff⟩, ⟨{}, []⟩)]⟩

/-- The ends of both halves of the range. -/
def bothEnds : Env :=
  ⟨lowerEnds.bindings ++ [(⟨0x8000000000000000⟩, ⟨{}, []⟩), (⟨0xffffffffffffffff⟩, ⟨{}, []⟩)]⟩

/-- The ends of the lower half are listed by their own numbers.  The ends of the upper half are not,
and stand before them. -/
theorem liveVariables_listed_ends :
    lowerEnds.Ordered ∧
      renderLive lowerEnds.vars = "[0], [9223372036854775807]" ∧
      lowerEnds.Lists (·.id < ·.id) VarId.render (renderLive lowerEnds.vars) ∧
      bothEnds.Ordered ∧
      renderLive bothEnds.vars = "[-9223372036854775808], [-1], [0], [9223372036854775807]" ∧
      bothEnds.Lists (listedNumber · < listedNumber ·) (fun v => bracketed (listedNumber v))
        (renderLive bothEnds.vars) ∧
      renderLive lowerEnds.vars ≠ renderLive bothEnds.vars := by
  have hlower : lowerEnds.Ordered := by
    unfold Env.Ordered
    decide
  have hboth : bothEnds.Ordered := by
    unfold Env.Ordered
    decide
  obtain ⟨-, hascending, hshown⟩ := liveVariables_listed hlower
  refine ⟨hlower, by decide +kernel, hascending.mpr fun v hv => ?_, hboth, by decide +kernel,
    (liveVariables_listed hboth).1, fun heq => ?_⟩
  · have hall : ∀ v ∈ lowerEnds.vars, v.id.toNat < 2 ^ 63 := by decide
    exact hall v (Env.mem_vars_iff.mpr hv)
  · exact absurd ((hshown bothEnds hboth).mp heq ⟨0x8000000000000000⟩) (by decide)

end Lowering

/-- A function that returns nothing and leaves two parameters over, one in each half of the range of
numbers. -/
def leftOver : Program where
  types := [.numbered 0 "felt252"]
  libfuncs := []
  statements := [.ret []]
  functions :=
    [{ id := { id := 0 }
       paramTypes := [{ id := 0 }, { id := 0 }]
       params := [⟨⟨1⟩, { id := 0 }⟩, ⟨⟨0x8000000000000000⟩, { id := 0 }⟩]
       entry := 0 }]

open Lowering in
/-- The message about the parameters of `leftOver` does not list them by their numbers in ascending
order. -/
theorem not_lists_leftOver :
    ∃ (r : Registry) (m : Metadata) (e : Env),
      Registry.build leftOver = .ok r ∧ analyze r = .ok m ∧
      compile r m {} = .error (.lowering ⟨0, .stillAlive e.vars⟩) ∧
      Reports ⟨r, m⟩ ⟨0, .stillAlive e.vars⟩ e ∧
      (Defect.stillAlive e.vars).message =
        "variables [-9223372036854775808], [1] are still alive at return" ∧
      ¬ e.Lists (·.id < ·.id) VarId.render (renderLive e.vars) := by
  obtain ⟨r, hbuild, hr⟩ : ∃ r, Registry.build leftOver = .ok r ∧
      ((analyze r).toOption.any fun m => decide (compile r m {} =
        .error (.lowering ⟨0, .stillAlive [⟨1⟩, ⟨0x8000000000000000⟩]⟩))) = true :=
    exists_of_toOption_any (by decide +kernel)
  obtain ⟨m, hanalyze, hm⟩ := exists_of_toOption_any hr
  rw [decide_eq_true_eq] at hm
  obtain ⟨e, hreports, hordered, hvars⟩ := exists_reports_of_compile hbuild hanalyze hm rfl
  have hmessage : (Defect.stillAlive e.vars).message =
      "variables [-9223372036854775808], [1] are still alive at return" := by
    rw [hvars]
    decide +kernel
  rw [← hvars] at hm hreports
  refine ⟨r, m, e, hbuild, hanalyze, hm, hreports, hmessage, ?_⟩
  rw [Env.lists_ascending_iff hordered]
  intro hlt
  have hbound : (e.find? ⟨0x8000000000000000⟩).isSome := by
    rw [← Env.mem_vars_iff, hvars]
    decide
  exact absurd (hlt _ hbound) (by decide)

end SierraCasm
