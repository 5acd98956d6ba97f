import SierraCasm.Proofs.Registry.Types

/-! # Validation with more declarations

A program may get more declarations of types and libfuncs, behind those it has.  Specialization
asks for declared types by number, for the first type with a long id, and for functions.  What it
is told stays true when declarations are added at the end (`LibfuncContext.Covers`), so what it
finds stays the same, also if a later type has the long id of an earlier one
(`retains_specializeLibfunc`).  Hence the registry of the longer program covers that of the shorter
one (`covers_of_build`). -/

namespace SierraCasm

open Sierra Concrete

/-- A program with more declarations at the end of its lists. -/
def Sierra.Program.appended (p : Program) (types libfuncs : List Declaration) : Program :=
  { p with types := p.types ++ types, libfuncs := p.libfuncs ++ libfuncs }

/-! ### Results that are kept -/

/-- The second computation has the result of the first one, if there is one. -/
def Retains {ε α : Type} (x y : Except ε α) : Prop := ∀ a, x = .ok a → y = .ok a

namespace Retains

variable {ε α β : Type} {x y : Except ε α}

theorem refl (x : Except ε α) : Retains x x := fun _ h => h

theorem error {e : ε} : Retains (.error e) y := fun _ h => by cases h

theorem bind {f g : α → Except ε β} (h : Retains x y) (hf : ∀ a, Retains (f a) (g a)) :
    Retains (x >>= f) (y >>= g) := by
  intro b hb
  obtain ⟨a, ha, hb⟩ := bind_eq_ok.mp hb
  exact bind_eq_ok.mpr ⟨a, h a ha, hf a b hb⟩

theorem ite {c : Prop} [Decidable c] {x' y' : Except ε α} (h : Retains x y) (h' : Retains x' y') :
    Retains (if c then x else x') (if c then y else y') := by
  split
  · exact h
  · exact h'

theorem mapM {γ : Type} {f g : γ → Except ε α} (h : ∀ c, Retains (f c) (g c)) (xs : List γ) :
    Retains (xs.mapM f) (xs.mapM g) := by
  induction xs with
  | nil => exact .refl _
  | cons c xs ih =>
    rw [List.mapM_cons, List.mapM_cons]
    exact (h c).bind fun _ => ih.bind fun _ => .refl _

end Retains

/-! ### Specialization -/

namespace Concrete

/-- What a context answers, another one answers too. -/
structure LibfuncContext.Covers (ctx' ctx : LibfuncContext) : Prop where
  type : ∀ {id : Ident} {ty : ConcreteType}, ctx.type? id = some ty → ctx'.type? id = some ty
  lookup : ∀ {long : LongId} {id : Ident}, ctx.lookup? long = some id → ctx'.lookup? long = some id
  function : ctx'.function? = ctx.function?

section specialization

variable {ctx ctx' : LibfuncContext} (h : ctx'.Covers ctx) (long : LongId)
include h

theorem retains_typeArg (i : Nat) (arg : GenericArg) :
    Retains (typeArg ctx.type? long i arg) (typeArg ctx'.type? long i arg) := by
  cases arg with
  | type id =>
    dsimp only [typeArg]
    cases hty : ctx.type? id with
    | none => exact .error
    | some ty =>
      rw [h.type hty]
      exact .refl _
  | userType | value | libfunc | userFunc | blank => exact .error

theorem retains_singleTypeArg :
    Retains (singleTypeArg ctx.type? long) (singleTypeArg ctx'.type? long) := by
  unfold singleTypeArg
  split
  · exact retains_typeArg h long 0 _
  · exact .refl _

theorem retains_requireType (required : LongId) :
    Retains (requireType ctx long required) (requireType ctx' long required) := by
  unfold requireType
  cases hlookup : ctx.lookup? required with
  | none => exact .error
  | some id =>
    rw [h.lookup hlookup]
    exact .refl _

theorem retains_structArg : Retains (structArg ctx long) (structArg ctx' long) :=
  (retains_singleTypeArg h long).bind fun _ => .refl _

theorem retains_constArg (arg : GenericArg) :
    Retains (constArg ctx long arg) (constArg ctx' long arg) :=
  (retains_typeArg h long 0 arg).bind fun _ => .refl _

theorem retains_specializeFunctionCall :
    Retains (specializeFunctionCall ctx long) (specializeFunctionCall ctx' long) := by
  unfold specializeFunctionCall
  rw [h.function]
  exact .refl _

theorem retains_specializeConstAsImmediate :
    Retains (specializeConstAsImmediate ctx long) (specializeConstAsImmediate ctx' long) := by
  unfold specializeConstAsImmediate
  split
  · exact (retains_constArg h long _).bind fun _ => .refl _
  · exact .refl _

theorem retains_specializeConstAsBox :
    Retains (specializeConstAsBox ctx long) (specializeConstAsBox ctx' long) := by
  unfold specializeConstAsBox
  split
  · refine (retains_constArg h long _).bind fun _ => Retains.bind (.refl _) fun _ => ?_
    exact (retains_requireType h long _).bind fun _ => .refl _
  · exact .refl _

theorem retains_specializeLibfunc :
    Retains (specializeLibfunc ctx long) (specializeLibfunc ctx' long) := by
  have htype := retains_singleTypeArg h long
  have hrequire := retains_requireType h long
  unfold specializeLibfunc
  split
  case h_1 => exact .error
  case h_2 =>
    exact Retains.bind (.refl _) fun _ => .ite ((hrequire _).bind fun _ => .refl _) (.refl _)
  case h_3 => exact Retains.bind (.refl _) fun _ => (hrequire _).bind fun _ => .refl _
  case h_4 =>
    refine Retains.bind (.refl _) fun _ => (hrequire _).bind fun _ => ?_
    exact (hrequire _).bind fun _ => .refl _
  case h_5 =>
    exact Retains.bind (.refl _) fun _ => .ite ((hrequire _).bind fun _ => .refl _) (.refl _)
  case h_6 =>
    refine Retains.bind (.refl _) fun _ => (hrequire _).bind fun _ => ?_
    exact (hrequire _).bind fun _ => .refl _
  case h_7 | h_8 | h_9 | h_10 => exact htype.bind fun _ => .refl _
  case h_11 | h_12 | h_13 | h_14 => exact .refl _
  case h_15 => exact retains_specializeFunctionCall h long
  case h_16 =>
    refine Retains.bind (.refl _) fun _ => (hrequire _).bind fun _ => ?_
    exact (hrequire _).bind fun _ => .refl _
  case h_17 | h_18 => exact (retains_structArg h long).bind fun _ => .refl _
  case h_19 | h_20 => exact htype.bind fun _ => (hrequire _).bind fun _ => .refl _
  case h_21 => exact retains_specializeConstAsImmediate h long
  case h_22 => exact retains_specializeConstAsBox h long

end specialization

end Concrete

/-! ### Registries -/

namespace Registry

/-- A registry has all that another one has, and no other statements and functions. -/
structure Covers (r' r : Registry) : Prop where
  statements : r'.program.statements = r.program.statements
  functions : r'.program.functions = r.program.functions
  type : ∀ {id : Ident} {ty : ConcreteType}, r.type? id = some ty → r'.type? id = some ty
  lookup : ∀ {long : LongId} {id : Ident},
    r.lookupType? long = some id → r'.lookupType? long = some id
  libfunc : ∀ {id : Ident} {lib : ConcreteLibfunc},
    r.libfunc? id = some lib → r'.libfunc? id = some lib

theorem findLongId_append {types more : List (Ident × ConcreteType)} {long : LongId} {id : Ident}
    (h : findLongId types long = some id) : findLongId (types ++ more) long = some id := by
  simp only [findLongId, Option.map_eq_some_iff] at h ⊢
  obtain ⟨entry, hfind, hid⟩ := h
  exact ⟨entry, by rw [List.find?_append, hfind, Option.some_or], hid⟩

theorem exists_append_of_specializeTypes {known types : List (Ident × ConcreteType)}
    {ds : List Declaration} (h : specializeTypes known ds = .ok types) :
    ∃ more, types = known ++ more := by
  induction ds generalizing known with
  | nil =>
    cases h
    exact ⟨[], (List.append_nil _).symm⟩
  | cons d ds ih =>
    unfold specializeTypes at h
    split at h
    · obtain ⟨more, rfl⟩ := ih h
      exact ⟨_, List.append_assoc _ _ _⟩
    · cases h

theorem specializeTypes_append (known : List (Ident × ConcreteType)) (ds ds' : List Declaration) :
    specializeTypes known (ds ++ ds') =
      specializeTypes known ds >>= fun types => specializeTypes types ds' := by
  induction ds generalizing known with
  | nil => rfl
  | cons d ds ih =>
    rw [List.cons_append, specializeTypes, specializeTypes]
    split
    · exact ih _
    · rfl

theorem covers_context {p p' : Program} (hfunctions : p'.functions = p.functions)
    (types more : List (Ident × ConcreteType)) :
    (context p' (types ++ more)).Covers (context p types) where
  type := findIdent_append
  lookup := findLongId_append
  function := by
    funext id
    simp only [context, Program.function?, hfunctions]

theorem retains_specializeDeclaration {ctx ctx' : LibfuncContext} (h : ctx'.Covers ctx)
    (d : Declaration) :
    Retains (specializeDeclaration ctx d) (specializeDeclaration ctx' d) := by
  unfold specializeDeclaration
  cases hlib : specializeLibfunc ctx d.longId with
  | error e => exact .error
  | ok lib =>
    rw [retains_specializeLibfunc h d.longId lib hlib]
    exact .refl _

theorem covers_of_build {p : Program} {types libfuncs : List Declaration} {r r' : Registry}
    (h : build p = .ok r) (h' : build (p.appended types libfuncs) = .ok r') : r'.Covers r := by
  obtain ⟨hp, htypes, hlibfuncs⟩ := tables_of_build h
  obtain ⟨hp', htypes', hlibfuncs'⟩ := tables_of_build h'
  obtain ⟨more, hmore⟩ : ∃ more, r'.types = r.types ++ more := by
    rw [Program.appended, specializeTypes_append, htypes] at htypes'
    exact exists_append_of_specializeTypes htypes'
  have hctx : (context (p.appended types libfuncs) r'.types).Covers (context p r.types) := by
    rw [hmore]
    exact covers_context rfl r.types more
  obtain ⟨rest, hrest⟩ : ∃ rest, r'.libfuncs = r.libfuncs ++ rest := by
    have hkept := Retains.mapM (retains_specializeDeclaration hctx) p.libfuncs r.libfuncs hlibfuncs
    have happ : (p.appended types libfuncs).libfuncs = p.libfuncs ++ libfuncs := rfl
    rw [happ, List.mapM_append, hkept] at hlibfuncs'
    obtain ⟨first, hfirst, hlibfuncs'⟩ := bind_eq_ok.mp hlibfuncs'
    cases hfirst
    obtain ⟨rest, -, hresult⟩ := bind_eq_ok.mp hlibfuncs'
    exact ⟨rest, (Except.ok.inj hresult).symm⟩
  refine ⟨by rw [hp, hp']; rfl, by rw [hp, hp']; rfl, ?_, ?_, ?_⟩
  · intro id ty hty
    rw [type?, hmore]
    exact findIdent_append hty
  · intro long id hid
    rw [lookupType?, hmore]
    exact findLongId_append hid
  · intro id lib hlib
    rw [libfunc?, hrest]
    exact findIdent_append hlib

end Registry

end SierraCasm
