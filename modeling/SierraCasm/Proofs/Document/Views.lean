import SierraCasm.Document.Read
import SierraCasm.Document.Schema
import SierraCasm.Proofs.Document.Keys

/-! # What readers see

Readers take the keys of records without regard to case and those of forms as they are, and of the
payloads of a form only the last.  `Json.kept` leaves of a tree what is looked at so: the members
of records that the schema does not name go, at every depth.  No reader looks at more
(`Reader.sees_program`); `Sees` is kept by the ways in which readers are built. -/

namespace SierraCasm.Document

/-- The shape of a member, if the schema names it. -/
def Schema.field? (fields : List Schema.Field) (key : String) : Option Schema.Shape :=
  (fields.lookup key).map (·.2)

end SierraCasm.Document

namespace SierraCasm.Json

open Document Document.Schema

mutual

/-- What readers look at. -/
def kept : Shape → Json → Json
  | .list item, .arr _ items => .arr "" (keptItems item items)
  | .record fields, .obj _ members => .obj "" (keptMembers fields members)
  | .oneOf _ forms, .obj _ members => .obj "" (keptForms forms members)
  | _, j => j

def keptItems (item : Shape) : List Json → List Json
  | [] => []
  | j :: items => kept item j :: keptItems item items

def keptMembers (fields : List Field) : List (String × Json) → List (String × Json)
  | [] => []
  | (key, j) :: members =>
    match field? fields (foldKey (Json.content key)) with
    | some shape => (key, kept shape j) :: keptMembers fields members
    | none => keptMembers fields members

def keptForms (forms : List (String × Shape)) : List (String × Json) → List (String × Json)
  | [] => []
  | (key, j) :: members =>
    (key, if members.isEmpty then kept ((forms.lookup (Json.content key)).getD .any) j else .null) ::
      keptForms forms members

end

@[simp] theorem kept_any (j : Json) : kept .any j = j := by cases j <;> rfl

@[simp] theorem kept_scalar (kind : Scalar) (j : Json) : kept (.scalar kind) j = j := by
  cases j <;> rfl

theorem keptItems_eq_map (item : Shape) (items : List Json) :
    keptItems item items = items.map (kept item) := by
  induction items with
  | nil => simp [keptItems]
  | cons j items ih => simp [keptItems, ih]

theorem keptMembers_cons_some {fields : List Field} {shape : Shape} {key : String} {j : Json}
    {members : List (String × Json)}
    (h : field? fields (foldKey (Json.content key)) = some shape) :
    keptMembers fields ((key, j) :: members) = (key, kept shape j) :: keptMembers fields members := by
  simp [keptMembers, h]

theorem keptMembers_cons_none {fields : List Field} {key : String} {j : Json}
    {members : List (String × Json)} (h : field? fields (foldKey (Json.content key)) = none) :
    keptMembers fields ((key, j) :: members) = keptMembers fields members := by
  simp [keptMembers, h]

end SierraCasm.Json

namespace SierraCasm.Document

open Schema (Shape Field)

/-! ### Values given for a place -/

theorem named_kept {fields : List Field} {key : String} {shape : Shape}
    (h : Schema.field? fields key = some shape) (members : List (String × Json)) :
    named key (Json.keptMembers fields members) = (named key members).map (Json.kept shape) := by
  induction members with
  | nil => simp [Json.keptMembers, named]
  | cons m members ih =>
    obtain ⟨k, j⟩ := m
    unfold named at ih ⊢
    by_cases hk : foldKey (Json.content k) = key
    · subst hk
      rw [Json.keptMembers_cons_some h]
      simp [ih]
    · cases hfield : Schema.field? fields (foldKey (Json.content k)) with
      | none =>
        rw [Json.keptMembers_cons_none hfield, ih]
        simp [hk]
      | some _ =>
        rw [Json.keptMembers_cons_some hfield]
        simp [hk, ih]

theorem Given.member_kept {fields : List Field} {key : String} {shape : Shape}
    (h : Schema.field? fields key = some shape) (given : Given) :
    Given.member (given.map (Json.kept (.record fields))) key =
      (given.member key).map (Json.kept shape) := by
  induction given with
  | nil => rfl
  | cons j given ih =>
    simp only [Given.member, List.map_cons, List.flatMap_cons, List.map_append] at ih ⊢
    rw [ih]
    congr 1
    cases j with
    | obj text members => exact named_kept h members
    | _ => rfl

/-! ### Lists -/

namespace Places

/-- Places with other values given. -/
def map (f : Json → Json) (p : Places) : Places := ⟨p.given.map (List.map f), p.length⟩

theorem give_map (f : Json → Json) (given : List Given) (js : List Json) :
    give (given.map (List.map f)) (js.map f) = (give given js).map (List.map f) := by
  induction js generalizing given with
  | nil => simp [give]
  | cons j js ih =>
    cases given with
    | nil => simpa [give] using ih []
    | cons g given => simp [give, ih]

theorem next_kept (item : Shape) (places : Option Places) (j : Json) :
    next (places.map (map (Json.kept item))) (j.kept (.list item)) =
      (next places j).map (map (Json.kept item)) := by
  cases j with
  | arr text items =>
    cases items with
    | nil => rfl
    | cons j items =>
      have hgiven : ((places.map (map (Json.kept item))).map (·.given)).getD [] =
          ((places.map (·.given)).getD []).map (List.map (Json.kept item)) := by
        cases places <;> rfl
      rw [Json.kept, Json.keptItems_eq_map]
      simp only [List.map_cons, next, hgiven, Option.map_some]
      rw [← List.map_cons, give_map, List.length_map]
      rfl
  | _ => rfl

theorem ofGiven_kept (item : Shape) (given : Given) :
    ofGiven (given.map (Json.kept (.list item))) =
      (ofGiven given).map (map (Json.kept item)) := by
  have hfold : ∀ places, (given.map (Json.kept (.list item))).foldl next
      (Option.map (map (Json.kept item)) places) =
        (given.foldl next places).map (map (Json.kept item)) := by
    induction given with
    | nil => exact fun places => rfl
    | cons j given ih =>
      intro places
      rw [List.map_cons, List.foldl_cons, List.foldl_cons, next_kept, ih]
  exact hfold none

theorem current_map (f : Json → Json) (p : Places) :
    (p.map f).current = p.current.map (List.map f) := by
  simp [current, map, List.map_take]

end Places

/-! ### Values in several forms -/

section forms

variable (texts : List String) (forms : List (String × Shape))

theorem distinctKeys_kept (members : List (String × Json)) :
    distinctKeys (Json.keptForms forms members) = distinctKeys members := by
  have hkeys : (Json.keptForms forms members).map (·.1) = members.map (·.1) := by
    induction members with
    | nil => simp [Json.keptForms]
    | cons m members ih => simp [Json.keptForms, ih]
  have hcontents := congrArg (List.map Json.content) hkeys
  rw [List.map_map, List.map_map] at hcontents
  exact congrArg List.eraseDups hcontents

theorem getLast?_keptForms (members : List (String × Json)) :
    (Json.keptForms forms members).getLast? = members.getLast?.map fun m =>
      (m.1, m.2.kept ((forms.lookup (Json.content m.1)).getD .any)) := by
  induction members with
  | nil => simp [Json.keptForms]
  | cons m members ih =>
    cases members with
    | nil => simp [Json.keptForms]
    | cons m' members =>
      rw [Json.keptForms, List.getLast?_cons_cons, ← ih, Json.keptForms, List.getLast?_cons_cons]

theorem content_of_distinctKeys {members : List (String × Json)} {tag key : String} {j : Json}
    (hkeys : distinctKeys members = [tag]) (hlast : members.getLast? = some (key, j)) :
    Json.content key = tag := by
  have hmem : Json.content key ∈ distinctKeys members := by
    rw [distinctKeys, List.mem_eraseDups, List.mem_map]
    exact ⟨(key, j), List.mem_of_getLast? hlast, rfl⟩
  rw [hkeys] at hmem
  exact List.mem_singleton.mp hmem

/-- The form of a value is kept, and its payload as the form tells. -/
theorem tagged?_kept (j : Json) :
    tagged? (j.kept (.oneOf texts forms)) = (tagged? j).map fun t =>
      (t.1, t.2.kept ((forms.lookup t.1).getD .any)) := by
  cases j with
  | obj text members =>
    rw [Json.kept]
    dsimp only [tagged?]
    rw [distinctKeys_kept, getLast?_keptForms]
    cases hkeys : distinctKeys members with
    | nil => rfl
    | cons tag rest =>
      cases rest with
      | cons tag' rest => rfl
      | nil =>
        cases hlast : members.getLast? with
        | none => rfl
        | some m =>
          obtain ⟨key, payload⟩ := m
          simp only [Option.map_some, content_of_distinctKeys hkeys hlast]
  | _ => rfl

theorem Given.form?_kept (given : Given) :
    Given.form? (given.map (Json.kept (.oneOf texts forms))) =
      given.form?.map fun t => (t.1, t.2.kept ((forms.lookup t.1).getD .any)) := by
  rw [Given.form?, Given.form?, List.getLast?_map]
  cases given.getLast? with
  | none => rfl
  | some j => exact tagged?_kept texts forms j

variable {texts forms}

theorem Given.payloads_kept {tag : String} {shape : Shape} (h : forms.lookup tag = some shape)
    (given : Given) :
    Given.payloads (given.map (Json.kept (.oneOf texts forms))) tag =
      (given.payloads tag).map (Json.kept shape) := by
  rw [Given.payloads, Given.payloads, List.filterMap_map, List.map_filterMap]
  congr 1
  funext j
  rw [Function.comp_apply, tagged?_kept]
  cases tagged? j with
  | none => rfl
  | some t =>
    by_cases ht : t.1 = tag
    · simp [ht, h]
    · simp [ht]

end forms

/-! ### Readers -/

namespace Reader

variable {α : Type}

/-- A reader looks at no more than is kept. -/
structure Sees (r : Reader α) (shape : Shape) : Prop where
  check : ∀ j : Json, r.check (j.kept shape) = r.check j
  read : ∀ given : Given, r.read (given.map (Json.kept shape)) = r.read given

theorem sees_scalar (r : Reader α) (kind : Schema.Scalar) : Sees r (.scalar kind) where
  check := fun j => by rw [Json.kept_scalar]
  read := fun given => by
    have hid : Json.kept (.scalar kind) = id := funext (Json.kept_scalar kind)
    rw [hid, List.map_id]

theorem checkAll_map {β ε : Type} (check : β → Except ε Unit) (f : α → β) (xs : List α) :
    checkAll check (xs.map f) = checkAll (fun x => check (f x)) xs := by
  induction xs with
  | nil => rfl
  | cons x xs ih => simp only [List.map_cons, checkAll, ih]

theorem sees_list {item : Reader α} {shape : Shape} (h : Sees item shape) :
    Sees (list item) (.list shape) where
  check := fun j => by
    cases j with
    | arr text items =>
      rw [Json.kept, Json.keptItems_eq_map]
      simp only [list, checkAll_map, h.check]
    | _ => rfl
  read := fun given => by
    simp only [list, Places.ofGiven_kept, Option.map_map]
    congr 1
    funext p
    simp only [Function.comp_apply, Places.current_map, List.map_map]
    apply List.map_congr_left
    intro g _
    exact h.read g

/-- The checks of members look at no more than is kept of them. -/
def ChecksSee (checks : List (String × (Json → Except ReadFault Unit)))
    (shape? : String → Option Shape) : Prop :=
  ∀ m ∈ checks, ∃ shape, shape? m.1 = some shape ∧ ∀ j : Json, m.2 (j.kept shape) = m.2 j

section checks

variable {checks : List (String × (Json → Except ReadFault Unit))} {shape? : String → Option Shape}

theorem ChecksSee.nil : ChecksSee [] shape? := List.forall_mem_nil _

theorem ChecksSee.cons {key : String} {r : Reader α} {shape : Shape} (h : Sees r shape)
    (hkey : shape? key = some shape) (hchecks : ChecksSee checks shape?) :
    ChecksSee ((key, r.check) :: checks) shape? :=
  List.forall_mem_cons.mpr ⟨⟨shape, hkey, h.check⟩, hchecks⟩

/-- The check of one member of a record; other members may be anything. -/
def checkMember (checks : List (String × (Json → Except ReadFault Unit))) (m : String × Json) :
    Except ReadFault Unit :=
  match checks.lookup (foldKey (Json.content m.1)) with
  | some check => check m.2
  | none => .ok ()

theorem checkRecord_obj (checks : List (String × (Json → Except ReadFault Unit))) (text : String)
    (given : List (String × Json)) :
    checkRecord checks (.obj text given) = checkAll (checkMember checks) given := rfl

theorem ChecksSee.checkMember_eq (h : ChecksSee checks shape?) {key : String} {shape : Shape}
    (hkey : shape? (foldKey (Json.content key)) = some shape) (j : Json) :
    checkMember checks (key, j.kept shape) = checkMember checks (key, j) := by
  simp only [checkMember]
  cases hlookup : checks.lookup (foldKey (Json.content key)) with
  | none => rfl
  | some check =>
    obtain ⟨shape', hshape', hcheck⟩ := h _ (mem_of_lookup hlookup)
    obtain rfl := Option.some.inj (hkey.symm.trans hshape')
    exact hcheck j

theorem ChecksSee.checkMember_eq_ok (h : ChecksSee checks shape?) {key : String}
    (hkey : shape? (foldKey (Json.content key)) = none) (j : Json) :
    checkMember checks (key, j) = .ok () := by
  simp only [checkMember]
  cases hlookup : checks.lookup (foldKey (Json.content key)) with
  | none => rfl
  | some check =>
    obtain ⟨shape, hshape, -⟩ := h _ (mem_of_lookup hlookup)
    rw [hkey] at hshape
    cases hshape

theorem checkRecord_kept {fields : List Field} (h : ChecksSee checks (Schema.field? fields))
    (j : Json) : checkRecord checks (j.kept (.record fields)) = checkRecord checks j := by
  cases j with
  | obj text given =>
    rw [Json.kept, checkRecord_obj, checkRecord_obj]
    induction given with
    | nil => simp [Json.keptMembers]
    | cons m given ih =>
      obtain ⟨key, j⟩ := m
      rw [checkAll, ← ih]
      cases hfield : Schema.field? fields (foldKey (Json.content key)) with
      | none =>
        rw [Json.keptMembers_cons_none hfield, h.checkMember_eq_ok hfield]
        rfl
      | some shape => rw [Json.keptMembers_cons_some hfield, checkAll, h.checkMember_eq hfield]
  | _ => rfl

theorem checkForms_kept {value : Tagged} (texts : List String) {forms : List (String × Shape)}
    (h : ChecksSee checks fun tag => forms.lookup tag) (j : Json) :
    checkForms value checks (j.kept (.oneOf texts forms)) = checkForms value checks j := by
  cases j with
  | obj text members =>
    have htagged : tagged? (.obj "" (Json.keptForms forms members)) = _ :=
      tagged?_kept texts forms (.obj text members)
    rw [Json.kept]
    simp only [checkForms, htagged, distinctKeys_kept]
    cases tagged? (.obj text members) with
    | none => rfl
    | some t =>
      obtain ⟨tag, payload⟩ := t
      simp only [Option.map_some]
      cases hlookup : checks.lookup tag with
      | none => rfl
      | some check =>
        obtain ⟨shape, hshape, hcheck⟩ := h _ (mem_of_lookup hlookup)
        simp only [hshape, Option.getD_some]
        exact hcheck payload
  | _ => rfl

end checks

theorem read_member {r : Reader α} {shape : Shape} (h : Sees r shape) (fields : List Field)
    (key : String) (hfield : Schema.field? fields key = some shape) (given : Given) :
    r.read (Given.member (given.map (Json.kept (.record fields))) key) =
      r.read (given.member key) := by
  rw [Given.member_kept hfield, h.read]

theorem read_payloads {r : Reader α} {shape : Shape} (h : Sees r shape) (texts : List String)
    (forms : List (String × Shape)) (tag : String) (hform : forms.lookup tag = some shape)
    (given : Given) :
    r.read (Given.payloads (given.map (Json.kept (.oneOf texts forms))) tag) =
      r.read (given.payloads tag) := by
  rw [Given.payloads_kept hform, h.read]

theorem sees_ident : Sees ident Schema.ident where
  check := fun j => by
    simp only [ident, Schema.ident]
    exact checkRecord_kept (.cons (sees_scalar number .natural) rfl
      (.cons (sees_scalar text .textOrNull) rfl .nil)) j
  read := fun given => by
    simp only [ident, Schema.ident]
    rw [read_member (sees_scalar number .natural) _ "id" rfl,
      read_member (sees_scalar text .textOrNull) _ "debug_name" rfl]

theorem sees_var : Sees var Schema.varId where
  check := fun j => by
    simp only [var, Schema.varId]
    exact checkRecord_kept (.cons (sees_scalar number .natural) rfl .nil) j
  read := fun given => by
    simp only [var, Schema.varId]
    rw [read_member (sees_scalar number .natural) _ "id" rfl]

/-- A value that is kept whole. -/
def wholeInteger : Reader Unit := ⟨checkInteger, fun _ => ()⟩

theorem sees_arg : Sees arg Schema.genericArg where
  check := fun j => by
    simp only [arg, Schema.genericArg]
    exact checkForms_kept [] (.cons sees_ident rfl (.cons sees_ident rfl
      (.cons (sees_scalar wholeInteger .integerOrText) rfl (.cons sees_ident rfl
        (.cons sees_ident rfl .nil))))) j
  read := fun given => by
    simp only [arg, Schema.genericArg]
    rw [Given.form?_kept, read_payloads sees_ident _ _ "UserType" rfl,
      read_payloads sees_ident _ _ "Libfunc" rfl, read_payloads sees_ident _ _ "UserFunc" rfl,
      read_payloads sees_ident _ _ "Type" rfl]
    cases given.form? with
    | none => rfl
    | some t =>
      obtain ⟨tag, payload⟩ := t
      by_cases hvalue : tag = "Value"
      · subst hvalue
        simp only [Option.map_some]
        rw [show [("Type", Schema.ident), ("UserType", Schema.ident),
          ("Value", .scalar .integerOrText), ("Libfunc", Schema.ident),
          ("UserFunc", Schema.ident)].lookup "Value" = some (.scalar .integerOrText) from rfl,
          Option.getD_some, Json.kept_scalar]
      · simp only [Option.map_some]
        split <;> simp_all

theorem sees_longId : Sees longId Schema.longId where
  check := fun j => by
    simp only [longId, Schema.longId]
    exact checkRecord_kept
      (.cons (sees_scalar text .text) rfl (.cons (sees_list sees_arg) rfl .nil)) j
  read := fun given => by
    simp only [longId, Schema.longId]
    rw [read_member (sees_scalar text .text) _ "generic_id" rfl,
      read_member (sees_list sees_arg) _ "generic_args" rfl]

theorem sees_declaration : Sees declaration Schema.declaration where
  check := fun j => by
    simp only [declaration, Schema.declaration]
    exact checkRecord_kept (.cons sees_ident rfl (.cons sees_longId rfl .nil)) j
  read := fun given => by
    simp only [declaration, Schema.declaration]
    rw [read_member sees_ident _ "id" rfl, read_member sees_longId _ "long_id" rfl]

theorem targetOf?_kept (j : Json) : targetOf? (j.kept Schema.target) = targetOf? j := by
  have hwhole : ∀ tag payload, Json.kept (([("Statement", Shape.scalar .natural)].lookup tag).getD
      .any) payload = payload := by
    intro tag payload
    rw [List.lookup_cons]
    cases tag == "Statement"
    · exact Json.kept_any payload
    · exact Json.kept_scalar .natural payload
  have htagged : tagged? (j.kept Schema.target) = tagged? j := by
    rw [Schema.target, tagged?_kept]
    simp [hwhole]
  cases j with
  | obj text members =>
    rw [Schema.target, Json.kept] at htagged ⊢
    simp only [targetOf?, htagged]
  | _ => rfl

theorem sees_target : Sees target Schema.target where
  check := fun j => by
    cases j with
    | obj text members =>
      have hchecks : ChecksSee [("Statement", index.check)]
          (fun tag => [("Statement", Shape.scalar .natural)].lookup tag) :=
        .cons (sees_scalar index .natural) rfl .nil
      exact checkForms_kept ["Fallthrough"] hchecks (.obj text members)
    | _ => rfl
  read := fun given => by
    simp only [target, List.getLast?_map]
    cases given.getLast? with
    | none => rfl
    | some j => simp only [Option.map_some, Option.bind_some, targetOf?_kept]

theorem sees_branch : Sees branch Schema.branch where
  check := fun j => by
    simp only [branch, Schema.branch]
    exact checkRecord_kept (.cons sees_target rfl (.cons (sees_list sees_var) rfl .nil)) j
  read := fun given => by
    simp only [branch, Schema.branch]
    rw [read_member sees_target _ "target" rfl, read_member (sees_list sees_var) _ "results" rfl]

theorem sees_invocation : Sees invocation Schema.invocation where
  check := fun j => by
    simp only [invocation, Schema.invocation]
    exact checkRecord_kept (.cons sees_ident rfl (.cons (sees_list sees_var) rfl
      (.cons (sees_list sees_branch) rfl .nil))) j
  read := fun given => by
    simp only [invocation, Schema.invocation]
    rw [read_member sees_ident _ "libfunc_id" rfl, read_member (sees_list sees_var) _ "args" rfl,
      read_member (sees_list sees_branch) _ "branches" rfl]

theorem sees_statement : Sees statement Schema.statement where
  check := fun j => by
    simp only [statement, Schema.statement]
    exact checkForms_kept [] (.cons sees_invocation rfl (.cons (sees_list sees_var) rfl .nil)) j
  read := fun given => by
    simp only [statement, Schema.statement]
    rw [Given.form?_kept, read_payloads (sees_list sees_var) _ _ "Return" rfl,
      read_payloads sees_invocation _ _ "Invocation" rfl]
    cases given.form? with
    | none => rfl
    | some t =>
      obtain ⟨tag, payload⟩ := t
      simp only [Option.map_some]
      split <;> simp_all

theorem sees_param : Sees param Schema.param where
  check := fun j => by
    simp only [param, Schema.param]
    exact checkRecord_kept (.cons sees_var rfl (.cons sees_ident rfl .nil)) j
  read := fun given => by
    simp only [param, Schema.param]
    rw [read_member sees_var _ "id" rfl, read_member sees_ident _ "ty" rfl]

theorem sees_signature : Sees signature Schema.signature where
  check := fun j => by
    simp only [signature, Schema.signature]
    exact checkRecord_kept
      (.cons (sees_list sees_ident) rfl (.cons (sees_list sees_ident) rfl .nil)) j
  read := fun given => by
    simp only [signature, Schema.signature]
    rw [read_member (sees_list sees_ident) _ "param_types" rfl,
      read_member (sees_list sees_ident) _ "ret_types" rfl]

theorem sees_function : Sees function Schema.function where
  check := fun j => by
    simp only [function, Schema.function]
    exact checkRecord_kept (.cons sees_ident rfl (.cons sees_signature rfl
      (.cons (sees_list sees_param) rfl (.cons (sees_scalar index .natural) rfl .nil)))) j
  read := fun given => by
    simp only [function, Schema.function]
    rw [read_member sees_ident _ "id" rfl, read_member sees_signature _ "signature" rfl,
      read_member (sees_list sees_param) _ "params" rfl,
      read_member (sees_scalar index .natural) _ "entry_point" rfl]

/-- The reader of a program looks at its lists only. -/
theorem sees_program : Sees program (.record Schema.programFields) where
  check := fun j => by
    simp only [program, Schema.programFields]
    exact checkRecord_kept (.cons (sees_list sees_declaration) rfl
      (.cons (sees_list sees_declaration) rfl (.cons (sees_list sees_statement) rfl
        (.cons (sees_list sees_function) rfl .nil)))) j
  read := fun given => by
    simp only [program, Schema.programFields]
    rw [read_member (sees_list sees_declaration) _ "type_declarations" rfl,
      read_member (sees_list sees_declaration) _ "libfunc_declarations" rfl,
      read_member (sees_list sees_statement) _ "statements" rfl,
      read_member (sees_list sees_function) _ "funcs" rfl]

end Reader

end SierraCasm.Document
