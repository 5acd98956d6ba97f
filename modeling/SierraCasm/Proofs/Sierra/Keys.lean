import Mathlib.Data.List.Forall2
import SierraCasm.Proofs.Sierra.Unnamed
import SierraCasm.Proofs.Text.Decimal

/-! # Keys tell long ids apart

A key is written by numbers only, so long ids that agree up to debug names have the same key.  The
converse holds for all generic names, also those with brackets, commas or digits in them
(`LongId.key_eq_iff`).  The arguments are written with letters, digits, signs and commas, so they
start behind the last opening bracket of a key; a comma stands between two of them; and the letters
of an argument show its kind. -/

namespace SierraCasm.Sierra

/-! ### Agreement up to debug names -/

namespace GenericArg

/-- The number of the identifier, or the value. -/
def number : GenericArg → Int
  | .type id => id.id.toNat
  | .userType id => id.id.toNat
  | .value v => v
  | .libfunc id => id.id.toNat
  | .userFunc id => id.id.toNat
  | .blank n => n

/-- Two arguments have the same kind and the same number. -/
def Agrees (a b : GenericArg) : Prop := a.kind = b.kind ∧ a.number = b.number

instance (a b : GenericArg) : Decidable (a.Agrees b) := inferInstanceAs (Decidable (_ ∧ _))

theorem agrees_iff_unnamed {a b : GenericArg} (ha : a.wellFormed = true)
    (hb : b.wellFormed = true) : a.Agrees b ↔ a.unnamed = b.unnamed := by
  have hid : ∀ m n : UInt64, (m.toNat : Int) = n.toNat ↔ m = n :=
    fun m n => Int.ofNat_inj.trans UInt64.toNat_inj
  cases a <;> cases b <;> simp_all [Agrees, kind, number, unnamed, wellFormed]

end GenericArg

/-- Arguments agree one by one exactly if they have the same image, if a function tells arguments
apart that do not agree. -/
theorem forall₂_agrees_iff {β : Type} {f : GenericArg → β}
    (hf : ∀ {a b : GenericArg}, a.wellFormed = true → b.wellFormed = true →
      (a.Agrees b ↔ f a = f b)) {as bs : List GenericArg}
    (has : ∀ a ∈ as, a.wellFormed = true) (hbs : ∀ b ∈ bs, b.wellFormed = true) :
    List.Forall₂ GenericArg.Agrees as bs ↔ as.map f = bs.map f := by
  induction as generalizing bs with
  | nil => cases bs <;> simp
  | cons a as ih =>
    cases bs with
    | nil => simp
    | cons b bs =>
      obtain ⟨ha, has⟩ := List.forall_mem_cons.mp has
      obtain ⟨hb, hbs⟩ := List.forall_mem_cons.mp hbs
      rw [List.forall₂_cons, hf ha hb, ih has hbs, List.map_cons, List.map_cons, List.cons.injEq]

namespace LongId

/-- Every argument has one of the five kinds and its content. -/
def WellFormed (l : LongId) : Prop := ∀ arg ∈ l.args, arg.wellFormed = true

/-- Two long ids have the same generic name and as many arguments, which agree one by one. -/
structure Agrees (a b : LongId) : Prop where
  generic : a.generic = b.generic
  args : List.Forall₂ GenericArg.Agrees a.args b.args

theorem agrees_iff {a b : LongId} :
    a.Agrees b ↔ a.generic = b.generic ∧ List.Forall₂ GenericArg.Agrees a.args b.args :=
  ⟨fun h => ⟨h.generic, h.args⟩, fun h => ⟨h.1, h.2⟩⟩

instance (a b : LongId) : Decidable (a.Agrees b) := decidable_of_iff _ agrees_iff.symm

theorem agrees_iff_unnamed {a b : LongId} (ha : a.WellFormed) (hb : b.WellFormed) :
    a.Agrees b ↔ a.unnamed = b.unnamed := by
  rw [agrees_iff, forall₂_agrees_iff GenericArg.agrees_iff_unnamed ha hb, unnamed, unnamed,
    LongId.mk.injEq]

end LongId

/-! ### The key of an argument -/

/-- The letters that the key of an argument starts with. -/
def ArgKind.letters : ArgKind → String
  | .type => "t"
  | .userType => "ut"
  | .value => "v"
  | .libfunc => "l"
  | .userFunc => "f"
  | .unknown => ""

theorem ArgKind.letters_append_inj {k l : ArgKind} (hk : k ≠ .unknown) (hl : l ≠ .unknown)
    {s t : String} (h : k.letters ++ s = l.letters ++ t) : k = l ∧ s = t := by
  have hlist := congrArg String.toList h
  rw [String.toList_append, String.toList_append] at hlist
  cases k <;> cases l <;> simp_all [letters]

namespace GenericArg

variable {a b : GenericArg}

theorem key_eq (h : a.wellFormed = true) : a.key = a.kind.letters ++ toString a.number := by
  cases a with
  | blank n => cases h
  | type | userType | value | libfunc | userFunc => rfl

theorem kind_ne_unknown (h : a.wellFormed = true) : a.kind ≠ .unknown := by
  cases a <;> simp_all [kind, wellFormed]

theorem agrees_iff_key (ha : a.wellFormed = true) (hb : b.wellFormed = true) :
    a.Agrees b ↔ a.key = b.key := by
  rw [key_eq ha, key_eq hb, Agrees]
  constructor
  · rintro ⟨hkind, hnumber⟩
    rw [hkind, hnumber]
  · intro h
    obtain ⟨hkind, htext⟩ :=
      ArgKind.letters_append_inj (kind_ne_unknown ha) (kind_ne_unknown hb) h
    exact ⟨hkind, toString_inj htext⟩

/-- A character of the key of an argument. -/
def isKeyChar (c : Char) : Bool := c ∈ ['t', 'u', 'v', 'l', 'f'] || isDecimal c

theorem isKeyChar_of_mem (h : a.wellFormed = true) : ∀ c ∈ a.key.toList, isKeyChar c = true := by
  intro c hc
  rw [key_eq h, String.toList_append] at hc
  rcases List.mem_append.mp hc with hc | hc
  · have hletters : ∀ k : ArgKind, k.letters.toList.all isKeyChar = true := by
      intro k
      cases k <;> decide
    exact List.all_eq_true.mp (hletters a.kind) c hc
  · simp [isKeyChar, isDecimal_of_mem c hc]

theorem key_ne_nil (h : a.wellFormed = true) : a.key.toList ≠ [] := by
  rw [key_eq h, String.toList_append]
  exact List.append_ne_nil_of_right_ne_nil _ (toList_toString_ne_nil _)

end GenericArg

/-! ### Texts with a separator -/

section separator

variable {sep c : Char} {ls ms : List (List Char)}

theorem mem_intercalate (h : c ∈ [sep].intercalate ls) : c = sep ∨ ∃ l ∈ ls, c ∈ l := by
  induction ls with
  | nil => simp at h
  | cons l ls ih =>
    cases ls with
    | nil =>
      rw [List.intercalate_singleton] at h
      exact .inr ⟨l, List.mem_cons_self, h⟩
    | cons m ms =>
      rw [List.intercalate_cons_cons, List.mem_append, List.mem_append] at h
      rcases h with (hl | hsep) | hrest
      · exact .inr ⟨l, List.mem_cons_self, hl⟩
      · exact .inl (List.mem_singleton.mp hsep)
      · rcases ih hrest with hsep | ⟨k, hk, hc⟩
        · exact .inl hsep
        · exact .inr ⟨k, List.mem_cons_of_mem l hk, hc⟩

theorem intercalate_eq_nil (hls : [] ∉ ls) (h : [sep].intercalate ls = []) : ls = [] := by
  cases ls with
  | nil => rfl
  | cons l ls =>
    cases ls with
    | nil =>
      rw [List.intercalate_singleton] at h
      simp [h] at hls
    | cons m ms => simp [List.intercalate_cons_cons] at h

/-- Texts that are not empty and do not contain the separator are read back. -/
theorem intercalate_inj (hls : ∀ l ∈ ls, sep ∉ l) (hms : ∀ m ∈ ms, sep ∉ m) (hls' : [] ∉ ls)
    (hms' : [] ∉ ms) (h : [sep].intercalate ls = [sep].intercalate ms) : ls = ms := by
  by_cases hnil : ls = [] ∨ ms = []
  · have hboth : ls = [] ∧ ms = [] := by
      rcases hnil with rfl | rfl
      · exact ⟨rfl, intercalate_eq_nil hms' h.symm⟩
      · exact ⟨intercalate_eq_nil hls' h, rfl⟩
    rw [hboth.1, hboth.2]
  · rw [not_or] at hnil
    rw [← List.splitOn_intercalate sep hls hnil.1, h, List.splitOn_intercalate sep hms hnil.2]

end separator

/-- The last opening bracket of a text splits it in one way. -/
theorem append_lastBracket_inj {xs ys us vs : List Char} (hus : '<' ∉ us) (hvs : '<' ∉ vs)
    (h : xs ++ '<' :: us = ys ++ '<' :: vs) : xs = ys ∧ us = vs := by
  have hkind : ∀ {us : List Char}, '<' ∉ us → ∀ c ∈ us.reverse, (c != '<') = true := by
    intro us hus c hc
    rw [bne_iff_ne]
    rintro rfl
    exact hus (List.mem_reverse.mp hc)
  have hstarts : ∀ xs : List Char, StartsOutside (· != '<') ('<' :: xs.reverse) :=
    fun xs => startsOutside_cons (by decide) xs.reverse
  -- Read backwards, the text starts with what follows the last bracket.
  have hreverse : us.reverse ++ '<' :: xs.reverse = vs.reverse ++ '<' :: ys.reverse := by
    simpa using congrArg List.reverse h
  obtain ⟨htail, hhead⟩ :=
    append_inj_of_kind (hkind hus) (hkind hvs) (hstarts xs) (hstarts ys) hreverse
  exact ⟨List.reverse_injective (List.cons.inj hhead).2, List.reverse_injective htail⟩

/-! ### The key of a long id -/

namespace LongId

variable {a b : LongId}

theorem toList_key (l : LongId) : l.key.toList =
    l.generic.toList ++ '<' :: ([','].intercalate (l.args.map (·.key.toList)) ++ ['>']) := by
  simp only [key, String.toList_append, String.toList_intercalate, List.map_map]
  simp [Function.comp_def]

theorem bracket_not_mem (h : a.WellFormed) :
    '<' ∉ [','].intercalate (a.args.map (·.key.toList)) ++ ['>'] := by
  intro hmem
  rcases List.mem_append.mp hmem with hmem | hmem
  · rcases mem_intercalate hmem with hsep | ⟨l, hl, hmem⟩
    · exact absurd hsep (by decide)
    · obtain ⟨arg, harg, rfl⟩ := List.mem_map.mp hl
      exact absurd (GenericArg.isKeyChar_of_mem (h arg harg) _ hmem) (by decide)
  · exact absurd (List.mem_singleton.mp hmem) (by decide)

/-- The keys of the arguments are read back from their text. -/
theorem keys_inj (ha : a.WellFormed) (hb : b.WellFormed)
    (h : [','].intercalate (a.args.map (·.key.toList)) =
      [','].intercalate (b.args.map (·.key.toList))) : a.args.map (·.key) = b.args.map (·.key) := by
  have hcomma : ∀ {l : LongId}, l.WellFormed → ∀ k ∈ l.args.map (·.key.toList), ',' ∉ k := by
    intro l hl k hk hmem
    obtain ⟨arg, harg, rfl⟩ := List.mem_map.mp hk
    exact absurd (GenericArg.isKeyChar_of_mem (hl arg harg) _ hmem) (by decide)
  have hnil : ∀ {l : LongId}, l.WellFormed → [] ∉ l.args.map (·.key.toList) := by
    intro l hl hmem
    obtain ⟨arg, harg, hkey⟩ := List.mem_map.mp hmem
    exact GenericArg.key_ne_nil (hl arg harg) hkey
  have htexts := intercalate_inj (hcomma ha) (hcomma hb) (hnil ha) (hnil hb) h
  have hinj : Function.Injective (List.map String.toList) :=
    List.map_injective_iff.mpr fun _ _ => String.toList_injective
  apply hinj
  simpa [Function.comp_def] using htexts

/-- Long ids have the same key exactly if they agree up to debug names. -/
theorem key_eq_iff (ha : a.WellFormed) (hb : b.WellFormed) : a.key = b.key ↔ a.Agrees b := by
  rw [agrees_iff, forall₂_agrees_iff GenericArg.agrees_iff_key ha hb]
  constructor
  · intro h
    have hlist := congrArg String.toList h
    rw [toList_key, toList_key] at hlist
    obtain ⟨hgeneric, hrest⟩ :=
      append_lastBracket_inj (bracket_not_mem ha) (bracket_not_mem hb) hlist
    exact ⟨String.toList_inj.mp hgeneric, keys_inj ha hb (List.append_cancel_right hrest)⟩
  · rintro ⟨hgeneric, hkeys⟩
    rw [key, key, hgeneric, hkeys]

end LongId

end SierraCasm.Sierra
