import Mathlib.Data.List.Find
import SierraCasm.Proofs.Registry.TypeRules

/-! # Look-ups by long id

The types that a registry looks up by long id are told apart by their keys.  The long ids of
declared types have arguments of known kinds only (`SpecializesTo.wellFormed`), so a look-up finds
the first declaration that agrees with the long id up to debug names, and none if there is none
(`keys_exact`). -/

namespace SierraCasm

open Sierra Concrete

theorem Sierra.wellFormed_nil (name : String) : (⟨name, []⟩ : LongId).WellFormed := by
  simp [LongId.WellFormed]

theorem Sierra.wellFormed_type (name : String) (id : Ident) :
    (⟨name, [.type id]⟩ : LongId).WellFormed := by
  simp [LongId.WellFormed, GenericArg.wellFormed]

theorem Concrete.SpecializesTo.wellFormed {types : TypeLookup} {long : LongId} {ty : ConcreteType}
    (h : SpecializesTo types long ty) : long.WellFormed := by
  cases h with
  | felt252 | uint | rangeCheck | gasBuiltin => exact wellFormed_nil _
  | nonZero | box | uninitialized => exact wellFormed_type _ _
  | const => simp [LongId.WellFormed, GenericArg.wellFormed]
  | struct =>
    intro arg harg
    rcases List.mem_cons.mp harg with rfl | harg
    · rfl
    · obtain ⟨m, -, rfl⟩ := List.mem_map.mp harg
      rfl

namespace Registry

/-- A look-up by key finds the first declaration. -/
theorem Tabulates.findLongId_eq {ds : List Declaration} {table : List (Ident × ConcreteType)}
    (h : Tabulates ds table) {long : LongId} (hlong : long.WellFormed) :
    findLongId table long = (firstDeclared? ds long).map (·.id) := by
  rw [findLongId, firstDeclared?, ← h.map_eq, List.find?_map, Option.map_map]
  congr 1
  refine List.find?_congr fun entry hentry => ?_
  have hentry := (h.specializesTo_of_mem hentry).wellFormed
  rw [Function.comp_apply, Bool.eq_iff_iff, beq_iff_eq, decide_eq_true_eq,
    LongId.key_eq_iff hentry hlong, LongId.agrees_iff_unnamed hentry hlong]

/-- Two long ids have the same key exactly if they agree, that is up to debug names.  So a registry
looks up the first type that is declared with a long id up to debug names. -/
theorem keys_exact :
    (∀ a b : LongId, a.WellFormed → b.WellFormed →
      (a.key = b.key ↔ a.Agrees b) ∧ (a.Agrees b ↔ a.unnamed = b.unnamed)) ∧
    ∀ (p : Program) (r : Registry), build p = .ok r → ∀ long : LongId, long.WellFormed →
      r.lookupType? long = (firstDeclared? p.types long).map (·.id) := by
  refine ⟨fun a b ha hb => ⟨LongId.key_eq_iff ha hb, LongId.agrees_iff_unnamed ha hb⟩, ?_⟩
  intro p r hbuild long hlong
  have htable : Tabulates p.types r.types := Tabulates.nil.specializeTypes (types_of_build hbuild).1
  exact htable.findLongId_eq hlong

/-- A box of the field is declared twice, with and without a name for what is inside. -/
def boxedTwice : Program where
  types :=
    [⟨{ id := 7 }, ⟨"felt252", []⟩⟩,
     ⟨{ id := 4, debugName := "box" }, ⟨"Box", [.type { id := 7 }]⟩⟩,
     ⟨{ id := 9 }, ⟨"Box", [.type { id := 7, debugName := "felt" }]⟩⟩]

/-- A bracket in a generic name is not taken for the one before the arguments, and a box under
another name is found where it is declared first. -/
theorem keys_exact_boxedTwice :
    let nested : LongId := ⟨"Box<t7", [.type { id := 7 }]⟩
    let plain : LongId := ⟨"Box", [.type { id := 7, debugName := "felt252" }]⟩
    nested.WellFormed ∧ plain.WellFormed ∧ nested.key ≠ plain.key ∧
      ∃ r, build boxedTwice = .ok r ∧
        r.lookupType? plain = some { id := 4, debugName := "box" } ∧
        r.lookupType? nested = none := by
  intro nested plain
  have hnested : nested.WellFormed := wellFormed_type _ _
  have hplain : plain.WellFormed := wellFormed_type _ _
  obtain ⟨r, hbuild, -⟩ : ∃ r, build boxedTwice = .ok r ∧ true = true :=
    exists_of_toOption_any (by decide +kernel)
  have hkeys := (keys_exact.1 nested plain hnested hplain).1
  refine ⟨hnested, hplain, fun hkey => ?_, r, hbuild, ?_, ?_⟩
  · exact absurd (hkeys.mp hkey) (by decide)
  · rw [keys_exact.2 boxedTwice r hbuild plain hplain]
    decide
  · rw [keys_exact.2 boxedTwice r hbuild nested hnested]
    decide

end Registry

end SierraCasm
