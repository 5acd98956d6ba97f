import Mathlib.Data.List.Forall2
import SierraCasm.Lowering.Statement

/-! # Taking arguments and binding results

An invocation takes its arguments out of the environment one after the other, and a branch binds its
results one after the other.  `TakesArgs` and `BindsResults` say what one such step asks for and
leaves; they are exactly the runs of `takeArgs` and `bindResults` that come to an end
(`takeArgs_eq_ok_iff`, `bindResults_eq_ok_iff`).  What holds of the environments along such a run is
proved by induction on these relations.

The runs that stop do so at a variable, as long as there is one variable for each type and each
result (`takeArgs_eq_error`, `bindResults_eq_error`). -/

namespace SierraCasm.Lowering

open Sierra Concrete

variable {env rest next : Env} {vars : List VarId} {types : List Ident} {refs : List Ref}
  {defect : Defect}

/-! ### Arguments -/

/-- The variables `vars` of `env` have the types `types`: they are taken with their references
`refs`, and `rest` is left. -/
inductive TakesArgs : Env → List VarId → List Ident → List Ref → Env → Prop
  | nil {env : Env} : TakesArgs env [] [] [] env
  | cons {env rest : Env} {v : VarId} {vars : List VarId} {type : Ident} {types : List Ident}
      {ref : Ref} {refs : List Ref} (hfind : env.find? v = some ref)
      (htype : ref.type.id = type.id) (htakes : TakesArgs (env.erase v) vars types refs rest) :
      TakesArgs env (v :: vars) (type :: types) (ref :: refs) rest

theorem TakesArgs.takeArgs_eq (h : TakesArgs env vars types refs rest) :
    takeArgs env vars types = .ok (refs, rest) := by
  induction h with
  | nil => rfl
  | cons hfind htype _ ih =>
    unfold takeArgs
    rw [hfind, ih]
    exact if_pos ((Ident.same_iff _ _).mpr htype)

theorem TakesArgs.of_takeArgs_eq (h : takeArgs env vars types = .ok (refs, rest)) :
    TakesArgs env vars types refs rest := by
  induction vars generalizing env types refs with
  | nil =>
    cases types with
    | nil =>
      cases h
      exact .nil
    | cons _ _ => cases h
  | cons v vars ih =>
    cases types with
    | nil => cases h
    | cons type types =>
      unfold takeArgs at h
      split at h
      · cases h
      · rename_i ref hfind
        split at h
        · rename_i hsame
          obtain ⟨⟨refs', rest'⟩, htake, h⟩ := bind_eq_ok.mp h
          cases h
          exact .cons hfind ((Ident.same_iff _ _).mp hsame) (ih htake)
        · cases h

theorem takeArgs_eq_ok_iff :
    takeArgs env vars types = .ok (refs, rest) ↔ TakesArgs env vars types refs rest :=
  ⟨.of_takeArgs_eq, TakesArgs.takeArgs_eq⟩

theorem TakesArgs.length_eq (h : TakesArgs env vars types refs rest) :
    vars.length = types.length := by
  induction h with
  | nil => rfl
  | cons _ _ _ ih => exact congrArg (· + 1) ih

theorem takeArgs_eq_error (h : takeArgs env vars types = .error defect) :
    (∃ v, defect = .undefined v) ∨ (∃ v actual type, defect = .wrongType v actual type) ∨
      vars.length ≠ types.length ∧ defect = .malformed := by
  induction vars generalizing env types with
  | nil =>
    cases types with
    | nil => cases h
    | cons _ _ =>
      cases h
      exact .inr (.inr ⟨by simp, rfl⟩)
  | cons v vars ih =>
    cases types with
    | nil =>
      cases h
      exact .inr (.inr ⟨by simp, rfl⟩)
    | cons type types =>
      unfold takeArgs at h
      split at h
      · cases h
        exact .inl ⟨v, rfl⟩
      · split at h
        · rcases bind_eq_error.mp h with h | ⟨⟨refs', rest'⟩, -, h⟩
          · refine (ih h).imp_right (Or.imp_right fun hlength => ⟨fun heq => ?_, hlength.2⟩)
            exact hlength.1 (Nat.succ.inj heq)
          · cases h
        · cases h
          exact .inr (.inl ⟨v, _, _, rfl⟩)

/-! ### Results -/

/-- The variables `vars`, none of which is bound in `env`, are bound to `refs`, which gives
`next`. -/
inductive BindsResults : Env → List VarId → List Ref → Env → Prop
  | nil {env : Env} : BindsResults env [] [] env
  | cons {env next : Env} {v : VarId} {vars : List VarId} {ref : Ref} {refs : List Ref}
      (hfresh : env.find? v = none) (hbinds : BindsResults (env.insert v ref) vars refs next) :
      BindsResults env (v :: vars) (ref :: refs) next

theorem BindsResults.bindResults_eq (h : BindsResults env vars refs next) :
    bindResults env vars refs = .ok next := by
  induction h with
  | nil => rfl
  | cons hfresh _ ih =>
    unfold bindResults
    rw [hfresh, ih]
    exact if_neg Bool.false_ne_true

theorem BindsResults.of_bindResults_eq (h : bindResults env vars refs = .ok next) :
    BindsResults env vars refs next := by
  induction vars generalizing env refs with
  | nil =>
    cases refs with
    | nil =>
      cases h
      exact .nil
    | cons _ _ => cases h
  | cons v vars ih =>
    cases refs with
    | nil => cases h
    | cons ref refs =>
      unfold bindResults at h
      split at h
      · cases h
      · rename_i hfresh
        exact .cons (Option.not_isSome_iff_eq_none.mp hfresh) (ih h)

theorem bindResults_eq_ok_iff :
    bindResults env vars refs = .ok next ↔ BindsResults env vars refs next :=
  ⟨.of_bindResults_eq, BindsResults.bindResults_eq⟩

theorem bindResults_eq_error (h : bindResults env vars refs = .error defect) :
    (∃ v, defect = .overridden v) ∨ vars.length ≠ refs.length ∧ defect = .malformed := by
  induction vars generalizing env refs with
  | nil =>
    cases refs with
    | nil => cases h
    | cons _ _ =>
      cases h
      exact .inr ⟨by simp, rfl⟩
  | cons v vars ih =>
    cases refs with
    | nil =>
      cases h
      exact .inr ⟨by simp, rfl⟩
    | cons ref refs =>
      unfold bindResults at h
      split at h
      · cases h
        exact .inl ⟨v, rfl⟩
      · refine (ih h).imp_right fun hlength => ⟨fun heq => ?_, hlength.2⟩
        exact hlength.1 (Nat.succ.inj heq)

/-! ### What is bound -/

theorem Env.find?_of_erase {v w : VarId} {ref : Ref} (h : (env.erase v).find? w = some ref) :
    env.find? w = some ref := by
  by_cases hw : w = v
  · subst hw
    rw [Env.find?_erase_self] at h
    cases h
  · rwa [Env.find?_erase_of_ne env hw] at h

theorem takeArgs_eq_ok (h : takeArgs env vars types = .ok (refs, rest)) :
    List.Forall₂ (fun (ref : Ref) (type : Ident) => ref.type.id = type.id) refs types ∧
      (∀ ref ∈ refs, ∃ v, env.find? v = some ref) ∧
      ∀ {v ref}, rest.find? v = some ref → env.find? v = some ref := by
  rw [takeArgs_eq_ok_iff] at h
  induction h with
  | nil => exact ⟨.nil, by simp, id⟩
  | @cons env rest v vars type types ref refs hfind htype _ ih =>
    obtain ⟨htypes, hrefs, hrest⟩ := ih
    refine ⟨.cons htype htypes, ?_, fun hw => Env.find?_of_erase (hrest hw)⟩
    intro ref' hmem
    rcases List.mem_cons.mp hmem with rfl | hmem
    · exact ⟨v, hfind⟩
    · obtain ⟨w, hw⟩ := hrefs ref' hmem
      exact ⟨w, Env.find?_of_erase hw⟩

theorem bindResults_eq_ok (h : bindResults env vars refs = .ok next) :
    ∀ {v ref}, next.find? v = some ref → env.find? v = some ref ∨ ref ∈ refs := by
  rw [bindResults_eq_ok_iff] at h
  induction h with
  | nil => exact .inl
  | @cons env next w vars ref' refs _ _ ih =>
    intro v ref hv
    rcases ih hv with hv | hmem
    · by_cases heq : v = w
      · subst heq
        rw [Env.find?_insert_self] at hv
        cases hv
        exact .inr List.mem_cons_self
      · rw [Env.find?_insert_of_ne env heq] at hv
        exact .inl hv
    · exact .inr (List.mem_cons_of_mem _ hmem)

theorem find?_of_bindResults (h : bindResults env vars refs = .ok next) :
    (∀ {v ref}, env.find? v = some ref → next.find? v = some ref) ∧
      ∀ ref ∈ refs, ∃ v, next.find? v = some ref := by
  rw [bindResults_eq_ok_iff] at h
  induction h with
  | nil => exact ⟨id, by simp⟩
  | @cons env next w vars ref refs hfresh _ ih =>
    obtain ⟨hkeeps, hrefs⟩ := ih
    refine ⟨fun {v ref'} hv => hkeeps ?_, ?_⟩
    · have hne : v ≠ w := by
        rintro rfl
        rw [hfresh] at hv
        cases hv
      rw [Env.find?_insert_of_ne env hne, hv]
    · intro ref' hmem
      rcases List.mem_cons.mp hmem with rfl | hmem
      · exact ⟨w, hkeeps (Env.find?_insert_self env w ref')⟩
      · exact hrefs ref' hmem

theorem ordered_of_takeArgs (hordered : env.Ordered)
    (h : takeArgs env vars types = .ok (refs, rest)) : rest.Ordered := by
  rw [takeArgs_eq_ok_iff] at h
  induction h with
  | nil => exact hordered
  | cons _ _ _ ih => exact ih (hordered.erase _)

theorem ordered_of_bindResults (hordered : env.Ordered)
    (h : bindResults env vars refs = .ok next) : next.Ordered := by
  rw [bindResults_eq_ok_iff] at h
  induction h with
  | nil => exact hordered
  | cons _ _ ih => exact ih (hordered.insert _ _)

/-! ### Function entries -/

theorem entryEnv_eq_ok {r : Registry} {f : Function} (h : entryEnv r f = .ok env) :
    ∃ total sized, withSizes r f.paramTypes = .ok total ∧
      withSizes r (f.params.map (·.type)) = .ok sized ∧
      env = (f.params.zip (place .fp (-totalCells total - ApState.callFrame) sized)).foldl
        (fun e p => e.insert p.1.var p.2) {} := by
  obtain ⟨total, htotal, h⟩ := bind_eq_ok.mp h
  obtain ⟨sized, hsized, h⟩ := bind_eq_ok.mp h
  obtain ⟨⟨⟩, -, h⟩ := bind_eq_ok.mp h
  cases h
  exact ⟨total, sized, htotal, hsized, rfl⟩

end SierraCasm.Lowering
