import Mathlib.Data.List.Forall2
import SierraCasm.Proofs.Casm.Machine
import SierraCasm.Proofs.Registry.Types
import SierraCasm.Proofs.Sierra.Execution

/-! # How values are encoded

`Encodes r mem id v ws` says that the value `v` has the type `id` and takes the words `ws`.  A word
is `none` where the value does not fix it: the cells of a type that is not initialized.  A box is
the address of its contents, so an encoding depends on memory, and stays when memory grows.  The
number of words is the size of the type (`Encodes.size`), provided that no size wraps, and the
words of a storable type are all fixed (`Encodes.isSome`). -/

namespace SierraCasm

open Sierra Concrete Casm

/-- The words `ws` are in memory from address `a` on. -/
def Stored (mem : Memory) (a : Felt) (ws : List (Option Felt)) : Prop :=
  ∀ ⦃k : Nat⦄ ⦃x : Felt⦄, ws[k]? = some (some x) → mem (a + k) = some x

/-- The shapes of types whose values nothing can be computed from. -/
def Concrete.Shape.isBlank : Shape → Bool
  | .const _ _ | .uninitialized _ => true
  | _ => false

theorem Concrete.Shape.isBlank_of_isWord {shape : Shape} (h : shape.isWord = true) :
    shape.isBlank = false := by
  cases shape <;> first | rfl | cases h

mutual

/-- The value `v` of type `id` takes the words `ws`. -/
inductive Encodes (r : Registry) (mem : Memory) : Ident → Value → List (Option Felt) → Prop
  | word {id : Ident} {ty : ConcreteType} (x : Felt) : r.type? id = some ty →
      ty.shape.isWord = true → Encodes r mem id (.word x) [some x]
  | nonZero {id inner : Ident} {ty : ConcreteType} {v : Value} {ws : List (Option Felt)} :
      r.type? id = some ty → ty.shape = .nonZero inner → Encodes r mem inner v ws →
      Encodes r mem id v ws
  | box {id inner : Ident} {ty : ConcreteType} {v : Value} {ws : List (Option Felt)} {a : Felt} :
      r.type? id = some ty → ty.shape = .box inner → Encodes r mem inner v ws →
      Stored mem a ws → Encodes r mem id (.box v) [some a]
  | struct {id user : Ident} {members : List Ident} {ty : ConcreteType} {vs : List Value}
      {ws : List (Option Felt)} : r.type? id = some ty → ty.shape = .struct user members →
      EncodesAll r mem members vs ws → Encodes r mem id (.struct vs) ws
  | blank {id : Ident} {ty : ConcreteType} {n : Nat} : r.type? id = some ty →
      ty.shape.isBlank = true → ty.info.size.toInt = n →
      Encodes r mem id .blank (List.replicate n none)

/-- Values of some types take the words `ws`, one after the other. -/
inductive EncodesAll (r : Registry) (mem : Memory) :
    List Ident → List Value → List (Option Felt) → Prop
  | nil : EncodesAll r mem [] [] []
  | cons {id : Ident} {ids : List Ident} {v : Value} {vs : List Value}
      {ws ws' : List (Option Felt)} : Encodes r mem id v ws → EncodesAll r mem ids vs ws' →
      EncodesAll r mem (id :: ids) (v :: vs) (ws ++ ws')

end

variable {r : Registry} {mem mem' : Memory}

theorem Stored.mono {a : Felt} {ws : List (Option Felt)} (hmem : mem.Keeps mem')
    (h : Stored mem a ws) : Stored mem' a ws :=
  fun _ _ hk => hmem (h hk)

mutual

theorem Encodes.mono (hmem : mem.Keeps mem') : ∀ {id v ws},
    Encodes r mem id v ws → Encodes r mem' id v ws
  | _, _, _, .word x hty hshape => .word x hty hshape
  | _, _, _, .nonZero hty hshape h => .nonZero hty hshape (h.mono hmem)
  | _, _, _, .box hty hshape h hstored => .box hty hshape (h.mono hmem) (hstored.mono hmem)
  | _, _, _, .struct hty hshape h => .struct hty hshape (h.mono hmem)
  | _, _, _, .blank hty hshape hsize => .blank hty hshape hsize

theorem EncodesAll.mono (hmem : mem.Keeps mem') : ∀ {ids vs ws},
    EncodesAll r mem ids vs ws → EncodesAll r mem' ids vs ws
  | _, _, _, .nil => .nil
  | _, _, _, .cons h hrest => .cons (h.mono hmem) (hrest.mono hmem)

end

theorem Encodes.congr {id id' : Ident} {v : Value} {ws : List (Option Felt)} (hid : id.id = id'.id)
    (h : Encodes r mem id v ws) : Encodes r mem id' v ws := by
  have htype := r.type?_congr hid
  cases h with
  | word x hty hshape => exact .word x (htype ▸ hty) hshape
  | nonZero hty hshape h => exact .nonZero (htype ▸ hty) hshape h
  | box hty hshape h hstored => exact .box (htype ▸ hty) hshape h hstored
  | struct hty hshape h => exact .struct (htype ▸ hty) hshape h
  | blank hty hshape hsize => exact .blank (htype ▸ hty) hshape hsize

theorem EncodesAll.congr {ids ids' : List Ident} {vs : List Value} {ws : List (Option Felt)}
    (hids : List.Forall₂ (fun a b : Ident => a.id = b.id) ids ids')
    (h : EncodesAll r mem ids vs ws) : EncodesAll r mem ids' vs ws := by
  induction hids generalizing vs ws with
  | nil => exact h
  | cons hid _ ih =>
    cases h with
    | cons hfirst hrest => exact .cons (hfirst.congr hid) (ih hrest)

/-! ### Sizes -/

/-- The number of cells of a declared type, as an integer. -/
def Registry.cells (r : Registry) (id : Ident) : Int := ((r.size? id).map Int64.toInt).getD 0

/-- The members of a struct. -/
def Concrete.Shape.members? : Shape → Option (List Ident)
  | .struct _ members => some members
  | _ => none

/-- No size of a struct wraps. -/
def Registry.SizesExact (r : Registry) : Prop :=
  ∀ entry ∈ r.types, ∀ members ∈ entry.2.shape.members?,
    entry.2.info.size.toInt = (members.map r.cells).sum

instance (r : Registry) : Decidable r.SizesExact :=
  inferInstanceAs (Decidable (∀ entry ∈ r.types, ∀ members ∈ entry.2.shape.members?,
    entry.2.info.size.toInt = (members.map r.cells).sum))

theorem Registry.cells_eq {id : Ident} {ty : ConcreteType} (hty : r.type? id = some ty) :
    r.cells id = ty.info.size.toInt := by
  rw [cells, size?, hty, Option.map_some, Option.map_some, Option.getD_some]

theorem Registry.SizesExact.struct (h : r.SizesExact) {id user : Ident} {members : List Ident}
    {ty : ConcreteType} (hty : r.type? id = some ty) (hshape : ty.shape = .struct user members) :
    r.cells id = (members.map r.cells).sum := by
  obtain ⟨id', hmem, -⟩ := findIdent_eq_some hty
  rw [cells_eq hty]
  exact h _ hmem members (by rw [hshape]; rfl)

/-- A type whose values are single elements of the field takes one cell. -/
theorem Registry.TypesValid.size_of_isWord (h : r.TypesValid) {id : Ident} {ty : ConcreteType}
    (hty : r.type? id = some ty) (hshape : ty.shape.isWord = true) : ty.info.size = 1 := by
  have hspecialized := h.type hty
  cases hspecialized <;> first | rfl | cases hshape

theorem Registry.TypesValid.nonZero_inner (h : r.TypesValid) {id inner : Ident}
    {ty : ConcreteType} (hty : r.type? id = some ty) (hshape : ty.shape = .nonZero inner) :
    ∃ ty', r.type? inner = some ty' ∧ ty'.info.storable = true ∧ ty.info.size = ty'.info.size := by
  have hspecialized := h.type hty
  cases hspecialized with
  | nonZero _ _ hinner hstorable =>
    cases hshape
    exact ⟨_, hinner, hstorable, rfl⟩
  | _ => cases hshape

mutual

theorem Encodes.size (htypes : r.TypesValid) (hsizes : r.SizesExact) : ∀ {id v ws},
    Encodes r mem id v ws → r.cells id = ws.length
  | id, _, _, .word x hty hshape => by
    rw [Registry.cells_eq hty, htypes.size_of_isWord hty hshape]
    rfl
  | id, _, _, .nonZero hty hshape h => by
    obtain ⟨ty', hinner, -, hsize⟩ := htypes.nonZero_inner hty hshape
    rw [Registry.cells_eq hty, hsize, ← Registry.cells_eq hinner]
    exact h.size htypes hsizes
  | id, _, _, .box hty hshape h hstored => by
    have hspecialized := htypes.type hty
    rw [Registry.cells_eq hty]
    cases hspecialized <;> cases hshape
    rfl
  | id, _, _, .struct hty hshape h => by
    rw [hsizes.struct hty hshape]
    exact h.size htypes hsizes
  | id, _, _, .blank hty hshape hsize => by
    rw [Registry.cells_eq hty, hsize, List.length_replicate]

theorem EncodesAll.size (htypes : r.TypesValid) (hsizes : r.SizesExact) : ∀ {ids vs ws},
    EncodesAll r mem ids vs ws → (ids.map r.cells).sum = ws.length
  | _, _, _, .nil => rfl
  | _, _, _, .cons h hrest => by
    rw [List.map_cons, List.sum_cons, List.length_append, Nat.cast_add, h.size htypes hsizes,
      hrest.size htypes hsizes]

end

mutual

theorem Encodes.isSome (htypes : r.TypesValid) : ∀ {id v ws ty}, Encodes r mem id v ws →
    r.type? id = some ty → ty.info.storable = true → ∀ w ∈ ws, w.isSome
  | id, _, _, ty, .word x hty hshape, _, _ => by simp
  | id, _, _, ty, .nonZero hty hshape h, _, _ => by
    obtain ⟨ty', hinner, hstorable, -⟩ := htypes.nonZero_inner hty hshape
    exact h.isSome htypes hinner hstorable
  | id, _, _, ty, .box hty hshape h hstored, _, _ => by simp
  | id, _, _, ty, .struct hty hshape h, _, _ => by
    refine h.isSome htypes fun member hmem => ?_
    have hspecialized := htypes.type hty
    cases hspecialized with
    | struct _ hmembers =>
      cases hshape
      obtain ⟨member', hmem', rfl⟩ := List.mem_map.mp hmem
      exact ⟨member'.2, hmembers member' hmem'⟩
    | _ => cases hshape
  | id, _, _, ty, .blank hty hshape hsize, hty', hstorable => by
    obtain rfl := Option.some.inj (hty.symm.trans hty')
    have hspecialized := htypes.type hty
    cases hspecialized with
    | const | uninitialized => cases hstorable
    | _ => cases hshape

theorem EncodesAll.isSome (htypes : r.TypesValid) : ∀ {ids vs ws}, EncodesAll r mem ids vs ws →
    (∀ id ∈ ids, ∃ ty, r.type? id = some ty ∧ ty.info.storable = true) → ∀ w ∈ ws, w.isSome
  | _, _, _, .nil, _ => by simp
  | _, _, _, .cons h hrest, hids => by
    intro w hw
    obtain ⟨ty, hty, hstorable⟩ := hids _ List.mem_cons_self
    rcases List.mem_append.mp hw with hw | hw
    · exact h.isSome htypes hty hstorable w hw
    · exact hrest.isSome htypes (fun id hid => hids id (List.mem_cons_of_mem _ hid)) w hw

end

/-! ### Inversion by type -/

section inversion

variable {id inner : Ident} {ty : ConcreteType} {v : Value} {ws : List (Option Felt)}

theorem Encodes.of_isWord (h : Encodes r mem id v ws) (hty : r.type? id = some ty)
    (hshape : ty.shape.isWord = true) : ∃ x, v = .word x ∧ ws = [some x] := by
  cases h with
  | word x => exact ⟨x, rfl, rfl⟩
  | nonZero hty' hshape' | box hty' hshape' | struct hty' hshape' =>
    obtain rfl := Option.some.inj (hty.symm.trans hty')
    rw [hshape'] at hshape
    cases hshape
  | blank hty' hshape' =>
    obtain rfl := Option.some.inj (hty.symm.trans hty')
    rw [Shape.isBlank_of_isWord hshape] at hshape'
    cases hshape'

theorem Encodes.of_nonZero (h : Encodes r mem id v ws) (hty : r.type? id = some ty)
    (hshape : ty.shape = .nonZero inner) : Encodes r mem inner v ws := by
  cases h with
  | nonZero hty' hshape' h =>
    obtain rfl := Option.some.inj (hty.symm.trans hty')
    rw [hshape] at hshape'
    cases hshape'
    exact h
  | word _ hty' hshape' | box hty' hshape' | struct hty' hshape' | blank hty' hshape' =>
    obtain rfl := Option.some.inj (hty.symm.trans hty')
    rw [hshape] at hshape'
    cases hshape'

theorem Encodes.of_box (h : Encodes r mem id v ws) (hty : r.type? id = some ty)
    (hshape : ty.shape = .box inner) :
    ∃ v' ws' a, v = .box v' ∧ ws = [some a] ∧ Encodes r mem inner v' ws' ∧ Stored mem a ws' := by
  cases h with
  | box hty' hshape' h hstored =>
    obtain rfl := Option.some.inj (hty.symm.trans hty')
    rw [hshape] at hshape'
    cases hshape'
    exact ⟨_, _, _, rfl, rfl, h, hstored⟩
  | word _ hty' hshape' | nonZero hty' hshape' | struct hty' hshape' | blank hty' hshape' =>
    obtain rfl := Option.some.inj (hty.symm.trans hty')
    rw [hshape] at hshape'
    cases hshape'

theorem Encodes.of_struct {user : Ident} {members : List Ident} (h : Encodes r mem id v ws)
    (hty : r.type? id = some ty) (hshape : ty.shape = .struct user members) :
    ∃ vs, v = .struct vs ∧ EncodesAll r mem members vs ws := by
  cases h with
  | struct hty' hshape' h =>
    obtain rfl := Option.some.inj (hty.symm.trans hty')
    rw [hshape] at hshape'
    cases hshape'
    exact ⟨_, rfl, h⟩
  | word _ hty' hshape' | nonZero hty' hshape' | box hty' hshape' | blank hty' hshape' =>
    obtain rfl := Option.some.inj (hty.symm.trans hty')
    rw [hshape] at hshape'
    cases hshape'

end inversion

end SierraCasm
