import SierraCasm.Document.Load
import SierraCasm.Proofs.Json.Equality

/-! # Loading documents

When a checker parses bytes and when it loads a tree as a program. -/

namespace SierraCasm.Document

theorem Reader.run_eq_ok {α : Type} {r : Reader α} {j : Json} {a : α} :
    r.run j = .ok a ↔ r.check j = .ok () ∧ r.read [j] = a := by
  rw [Reader.run, check_bind_eq_ok]
  simp [pure, Except.pure]

namespace Checker

variable {c : Checker} {j : Json}

theorem parse_eq_ok {bytes : ByteArray} : c.parse bytes = .ok j ↔
    ∃ s, String.fromUTF8? bytes = some s ∧ c.parses s = true ∧ Json.parse? s = some j := by
  unfold parse
  cases String.fromUTF8? bytes with
  | none => simp
  | some s =>
    cases hparses : c.parses s with
    | false => simp [hparses]
    | true => cases hparse : Json.parse? s <;> simp [hparse, hparses]

theorem fromUTF8?_toUTF8 (s : String) : String.fromUTF8? s.toUTF8 = some s :=
  dif_pos s.isValidUTF8

theorem parse_toUTF8 {s : String} (hparses : c.parses s = true) (h : Json.parse? s = some j) :
    c.parse s.toUTF8 = .ok j := parse_eq_ok.mpr ⟨s, fromUTF8?_toUTF8 s, hparses, h⟩

theorem load_of_not_parses {s : String} (h : c.parses s = false) :
    c.load s.toUTF8 = .error .notJson := by
  rw [load, parse, fromUTF8?_toUTF8]
  simp only [h, Bool.false_eq_true, if_false]
  rfl

theorem load_eq {bytes : ByteArray} (h : c.parse bytes = .ok j) : c.load bytes = c.loadJson j := by
  rw [load, h]
  rfl

theorem loadJson_eq (hagrees : c.agrees [j] = true)
    (henvelope : c.conforms Schema.envelope [j] = true)
    (hversion : c.version? j = some supportedVersion) : c.loadJson j =
      if c.conforms Schema.program [j] then
        ((Reader.artifact.run j).mapError .read).map fun a => ⟨supportedVersion, some a⟩
      else .error .shape := by
  rw [loadJson, hagrees, henvelope, hversion]
  cases c.conforms Schema.program [j] with
  | false => rfl
  | true => cases Reader.artifact.run j <;> rfl

theorem loadJson_eq_ok {a : Artifact} : c.loadJson j = .ok ⟨supportedVersion, some a⟩ ↔
    c.agrees [j] = true ∧ c.conforms Schema.envelope [j] = true ∧
      c.version? j = some supportedVersion ∧ c.conforms Schema.program [j] = true ∧
      Reader.artifact.run j = .ok a := by
  constructor
  · intro h
    obtain ⟨hagrees, h⟩ := check_bind_eq_ok.mp h
    obtain ⟨henvelope, h⟩ := check_bind_eq_ok.mp h
    obtain ⟨version, hversion, h⟩ := bind_eq_ok.mp h
    rw [require_eq_ok] at hagrees henvelope
    split at h
    · obtain ⟨hprogram, h⟩ := check_bind_eq_ok.mp h
      obtain ⟨a', hrun, h⟩ := bind_eq_ok.mp h
      rw [mapError_eq_ok] at hrun
      rw [require_eq_ok] at hprogram
      cases h
      refine ⟨hagrees, henvelope, ?_, hprogram, hrun⟩
      cases hv : c.version? j with
      | none =>
        rw [hv] at hversion
        cases hversion
      | some v =>
        rw [hv] at hversion
        cases hversion
        rfl
    · cases h
  · rintro ⟨hagrees, henvelope, hversion, hprogram, hrun⟩
    rw [loadJson_eq hagrees henvelope hversion, hprogram, hrun]
    rfl

theorem loadJson_of_not_agrees (h : c.agrees [j] = false) : c.loadJson j = .error .conflict := by
  rw [loadJson, h]
  rfl

/-! ### Loading a given document -/

theorem parse_of_any (h : (c.parse j.render.toUTF8).toOption.any
    (fun k => decide (k = j)) = true) : c.parse j.render.toUTF8 = .ok j := by
  obtain ⟨k, hk, heq⟩ := exists_of_toOption_any h
  rwa [of_decide_eq_true heq] at hk

/-- A tree is loaded as a program that passes a test. -/
def IsLoaded (c : Checker) (j : Json) (test : Artifact → Bool) : Prop :=
  (c.loadJson j).toOption.any
    (fun e => e.version == supportedVersion && e.artifact.any test) = true

instance (j : Json) (test : Artifact → Bool) : Decidable (c.IsLoaded j test) :=
  inferInstanceAs (Decidable (_ = true))

theorem exists_load_of_isLoaded {bytes : ByteArray} {test : Artifact → Bool}
    (hparse : c.parse bytes = .ok j) (h : c.IsLoaded j test) :
    ∃ a, c.load bytes = .ok ⟨supportedVersion, some a⟩ ∧ test a = true := by
  rw [load_eq hparse]
  obtain ⟨⟨version, artifact⟩, hload, htest⟩ := exists_of_toOption_any h
  obtain ⟨hversion, hartifact⟩ := Bool.and_eq_true_iff.mp htest
  obtain ⟨a, rfl, ha⟩ := (Option.any_eq_true _ _).mp hartifact
  obtain rfl : version = supportedVersion := beq_iff_eq.mp hversion
  exact ⟨a, hload, ha⟩

end Checker

end SierraCasm.Document
