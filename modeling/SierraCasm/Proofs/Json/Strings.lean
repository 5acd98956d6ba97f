import Mathlib.Data.List.Forall2
import SierraCasm.Json.Lexer

/-! # Spelled strings

`IsSpelling` is the grammar of what may stand between the quotes of a string.  A character can be
spelled in several ways (`Piece`), and what a spelling stands for does not depend on the choice.  So
writing a spelling, which escapes more characters, keeps its contents (`contents_escaped`), and a
text is what its spelling stands for (`contents_spell`). -/

namespace SierraCasm.Json

/-- The characters that may follow a backslash, the `u` apart. -/
def shortEscapes : List Char := "\"\\/bfnrt".toList

/-- What may stand between quotes. -/
inductive IsSpelling : List Char → Prop
  | nil : IsSpelling []
  | char {c : Char} {rest : List Char} (hquote : c ≠ '"') (hbackslash : c ≠ '\\')
      (hcontrol : 0x20 ≤ c.toNat) : IsSpelling rest → IsSpelling (c :: rest)
  | short {c : Char} {rest : List Char} (hc : c ∈ shortEscapes) :
      IsSpelling rest → IsSpelling ('\\' :: c :: rest)
  | unicode {a b c d : Char} {rest : List Char}
      (hdigits : ∀ x ∈ [a, b, c, d], (hexValue? x).isSome = true) :
      IsSpelling rest → IsSpelling ('\\' :: 'u' :: a :: b :: c :: d :: rest)

/-- The ways to spell a character. -/
inductive Piece : Char → List Char → Prop
  | char {c : Char} (hquote : c ≠ '"') (hbackslash : c ≠ '\\') (hcontrol : 0x20 ≤ c.toNat) :
      Piece c [c]
  | short {c : Char} (hc : c ∈ shortEscapes) : Piece (shortEscape c) ['\\', c]
  | unicode {x a b c d : Char} (hdigits : ∀ x ∈ [a, b, c, d], (hexValue? x).isSome = true)
      (hx : ofHex [a, b, c, d] = x.toNat) : Piece x ['\\', 'u', a, b, c, d]

theorem Piece.isSpelling_append {c : Char} {p rest : List Char} (h : Piece c p)
    (hrest : IsSpelling rest) : IsSpelling (p ++ rest) := by
  cases h with
  | char hquote hbackslash hcontrol => exact .char hquote hbackslash hcontrol hrest
  | short hc => exact .short hc hrest
  | unicode hdigits _ => exact .unicode hdigits hrest

/-! ### What spellings stand for -/

/-- A unit stands for a character, or is that character's code. -/
def Unit16.Matches (u v : Unit16) : Prop := v = u ∨ ∃ c : Char, u = .char c ∧ v = .code c.toNat

theorem units_cons {c : Char} (hc : c ≠ '\\') (rest : List Char) :
    units (c :: rest) = .char c :: units rest := by
  rw [units]
  · exact fun _ _ _ _ _ h => absurd h hc
  · exact fun _ _ h => absurd h hc

theorem units_short {c : Char} (hc : c ∈ shortEscapes) (rest : List Char) :
    units ('\\' :: c :: rest) = .char (shortEscape c) :: units rest := by
  have hu : c ≠ 'u' := by
    rintro rfl
    exact absurd hc (by decide)
  rw [units]
  rintro a b d e rest' rfl
  exact absurd rfl hu

theorem Piece.units_append {x : Char} {p : List Char} (h : Piece x p) (rest : List Char) :
    ∃ u, Unit16.Matches (.char x) u ∧ units (p ++ rest) = u :: units rest := by
  cases h with
  | char _ hbackslash _ => exact ⟨_, .inl rfl, units_cons hbackslash rest⟩
  | short hc => exact ⟨_, .inl rfl, units_short hc rest⟩
  | unicode _ hx => exact ⟨_, .inr ⟨x, rfl, rfl⟩, by rw [← hx]; rfl⟩

theorem not_isSurrogate (c : Char) : isHigh c.toNat = false ∧ isLow c.toNat = false := by
  have hvalid : c.toNat < 0xD800 ∨ 0xDFFF < c.toNat ∧ c.toNat < 0x110000 := c.valid
  simp only [isHigh, isLow, Bool.and_eq_false_iff, decide_eq_false_iff_not]
  omega

theorem joinPairs_char (c : Char) (rest : List Unit16) :
    joinPairs (.char c :: rest) = some c :: joinPairs rest := by
  rw [joinPairs]

theorem joinPairs_half {a : Nat} {rest : List Unit16}
    (h : ∀ b rest', rest = .code b :: rest' → (isHigh a && isLow b) = false) :
    joinPairs (.code a :: rest) =
      (if isHigh a || isLow a then none else some (Char.ofNat a)) :: joinPairs rest := by
  rcases rest with _ | ⟨_ | b, rest⟩
  · rfl
  · rfl
  · rw [joinPairs, h b rest rfl]
    cases isHigh a || isLow a <;> rfl

theorem joinPairs_code (c : Char) (rest : List Unit16) :
    joinPairs (.code c.toNat :: rest) = some c :: joinPairs rest := by
  obtain ⟨hhigh, hlow⟩ := not_isSurrogate c
  rw [joinPairs_half fun b _ _ => by rw [hhigh, Bool.false_and], hhigh, hlow, Char.ofNat_toNat]
  rfl

/-- Half of a pair joins with none of two lists of units that match. -/
theorem not_pair_of_matches {a : Nat} {us vs : List Unit16}
    (h : List.Forall₂ Unit16.Matches us vs)
    (hus : ∀ b us', us = .code b :: us' → (isHigh a && isLow b) = false) :
    ∀ b vs', vs = .code b :: vs' → (isHigh a && isLow b) = false := by
  rintro b vs' rfl
  cases h with
  | cons hb _ =>
    rcases hb with rfl | ⟨c, -, hb⟩
    · exact hus b _ rfl
    · obtain rfl := Unit16.code.inj hb
      rw [(not_isSurrogate c).2, Bool.and_false]

/-- Units that match stand for the same characters. -/
theorem joinPairs_of_matches {us vs : List Unit16} (h : List.Forall₂ Unit16.Matches us vs) :
    joinPairs vs = joinPairs us := by
  induction hlen : us.length using Nat.strongRecOn generalizing us vs with
  | ind n ih =>
    subst hlen
    cases h with
    | nil => rfl
    | @cons u v us vs huv hrest =>
      have hjoin : joinPairs vs = joinPairs us := ih _ (Nat.lt_succ_self _) hrest rfl
      rcases huv with rfl | ⟨c, rfl, rfl⟩
      · cases v with
        | char c => rw [joinPairs_char, joinPairs_char, hjoin]
        | code a =>
          by_cases hpair : ∃ b us', us = .code b :: us' ∧ (isHigh a && isLow b) = true
          · obtain ⟨b, us', rfl, hpair⟩ := hpair
            cases hrest with
            | cons hb hrest =>
              rcases hb with rfl | ⟨c, hc, -⟩
              · rw [joinPairs, joinPairs, if_pos hpair, if_pos hpair,
                  ih _ (by simp only [List.length_cons]; omega) hrest rfl]
              · cases hc
          · have hhalf : ∀ b us', us = .code b :: us' → (isHigh a && isLow b) = false :=
              fun b us' hus => Bool.eq_false_iff.mpr fun h => hpair ⟨b, us', hus, h⟩
            rw [joinPairs_half (not_pair_of_matches hrest hhalf), joinPairs_half hhalf, hjoin]
      · rw [joinPairs_code, joinPairs_char, hjoin]

theorem joinPairs_map_char (cs : List Char) : joinPairs (cs.map .char) = cs.map some := by
  induction cs with
  | nil => rfl
  | cons c cs ih => rw [List.map_cons, joinPairs_char, ih, List.map_cons]

/-! ### Hexadecimal escapes -/

theorem hexValue?_hexDigit (n : Nat) : hexValue? (Text.hexDigit n) = some (n % 16) := by
  have hdigits : ∀ k : Fin 16, hexValue? (Nat.digitChar k.val) = some k.val := by decide
  exact hdigits ⟨n % 16, Nat.mod_lt n (by decide)⟩

theorem toList_hex (n : Nat) : (Text.hex 4 n).toList =
    [Text.hexDigit (n / 16 / 16 / 16), Text.hexDigit (n / 16 / 16), Text.hexDigit (n / 16),
      Text.hexDigit n] := by
  simp [Text.hex]

theorem piece_hex {c : Char} (hc : c.toNat < 0x10000) :
    Piece c ("\\u" ++ Text.hex 4 c.toNat).toList := by
  rw [String.toList_append, toList_hex]
  refine .unicode ?_ ?_
  · simp [hexValue?_hexDigit]
  · simp only [ofHex, List.foldl_cons, List.foldl_nil, hexValue?_hexDigit, Option.getD_some]
    omega

/-! ### Written spellings -/

/-- The characters that are not always written as they are. -/
def isMarkup (c : Char) : Bool := c ∈ ['\u2028', '\u2029', '<', '>', '&']

theorem writeChar_of_not_isMarkup {c : Char} (h : isMarkup c = false) (markup : Bool) :
    writeChar markup c = String.singleton c := by
  simp only [isMarkup, List.mem_cons, List.not_mem_nil, or_false, decide_eq_false_iff_not,
    not_or] at h
  simp [writeChar, h]

theorem piece_writeChar (markup : Bool) {c : Char} (hquote : c ≠ '"') (hbackslash : c ≠ '\\')
    (hcontrol : 0x20 ≤ c.toNat) : Piece c (writeChar markup c).toList := by
  unfold writeChar
  split
  case isTrue h =>
    subst h
    exact .unicode (List.all_eq_true.mp (by decide)) (by decide)
  split
  case isTrue h =>
    subst h
    exact .unicode (List.all_eq_true.mp (by decide)) (by decide)
  split
  case isTrue h =>
    obtain ⟨-, rfl | rfl | rfl⟩ := h <;> exact piece_hex (by decide)
  rw [String.toList_singleton]
  exact .char hquote hbackslash hcontrol

/-- The spelling that is written for a spelling. -/
def escaped (markup : Bool) (spelling : String) : String :=
  String.join (spelling.toList.map (writeChar markup))

theorem toList_escaped (markup : Bool) (spelling : String) :
    (escaped markup spelling).toList =
      spelling.toList.flatMap fun c => (writeChar markup c).toList := by
  rw [escaped, String.toList_join, List.flatMap_map]

theorem flatMap_writeChar_of_not_isMarkup (markup : Bool) {cs : List Char}
    (h : ∀ c ∈ cs, isMarkup c = false) :
    (cs.flatMap fun c => (writeChar markup c).toList) = cs := by
  induction cs with
  | nil => rfl
  | cons c cs ih =>
    rw [List.forall_mem_cons] at h
    rw [List.flatMap_cons, ih h.2, writeChar_of_not_isMarkup h.1, String.toList_singleton]
    rfl

theorem isMarkup_of_hex {c : Char} (h : (hexValue? c).isSome = true) : isMarkup c = false := by
  rw [← Bool.not_eq_true, isMarkup, decide_eq_true_eq]
  simp only [List.mem_cons, List.not_mem_nil, or_false]
  rintro (rfl | rfl | rfl | rfl | rfl) <;> exact absurd h (by decide)

theorem isMarkup_of_short {c : Char} (h : c ∈ shortEscapes) : isMarkup c = false := by
  have hshort : (shortEscapes.all fun c => !isMarkup c) = true := by decide
  simpa using List.all_eq_true.mp hshort c h

theorem IsSpelling.written {cs : List Char} (h : IsSpelling cs) (markup : Bool) :
    IsSpelling (cs.flatMap fun c => (writeChar markup c).toList) ∧
      List.Forall₂ Unit16.Matches (units cs)
        (units (cs.flatMap fun c => (writeChar markup c).toList)) := by
  induction h with
  | nil => exact ⟨.nil, .nil⟩
  | @char c rest hquote hbackslash hcontrol _ ih =>
    have hpiece := piece_writeChar markup hquote hbackslash hcontrol
    obtain ⟨u, hu, hunits⟩ :=
      hpiece.units_append (rest.flatMap fun c => (writeChar markup c).toList)
    rw [List.flatMap_cons, hunits, units_cons hbackslash]
    exact ⟨hpiece.isSpelling_append ih.1, .cons hu ih.2⟩
  | @short c rest hc _ ih =>
    have hplain : (['\\', c].flatMap fun c => (writeChar markup c).toList) = ['\\', c] :=
      flatMap_writeChar_of_not_isMarkup markup
        (List.forall_mem_cons.mpr ⟨by decide, by simpa using isMarkup_of_short hc⟩)
    rw [show '\\' :: c :: rest = ['\\', c] ++ rest from rfl, List.flatMap_append, hplain]
    refine ⟨.short hc ih.1, ?_⟩
    rw [List.cons_append, List.cons_append, List.nil_append, units_short hc, List.cons_append,
      List.cons_append, List.nil_append, units_short hc]
    exact .cons (.inl rfl) ih.2
  | @unicode a b c d rest hdigits _ ih =>
    have hplain : (['\\', 'u', a, b, c, d].flatMap fun c => (writeChar markup c).toList) =
        ['\\', 'u', a, b, c, d] :=
      flatMap_writeChar_of_not_isMarkup markup
        (List.forall_mem_cons.mpr ⟨by decide, List.forall_mem_cons.mpr ⟨by decide,
          fun x hx => isMarkup_of_hex (hdigits x hx)⟩⟩)
    rw [show '\\' :: 'u' :: a :: b :: c :: d :: rest = ['\\', 'u', a, b, c, d] ++ rest from rfl,
      List.flatMap_append, hplain]
    exact ⟨.unicode hdigits ih.1, .cons (.inl rfl) ih.2⟩

/-- What is written for a character is not changed when it is written again. -/
theorem writeChar_of_mem {markup : Bool} {c d : Char} (h : d ∈ (writeChar markup c).toList) :
    writeChar markup d = String.singleton d := by
  have hcases : writeChar markup c = String.singleton c ∨
      ((writeChar markup c).toList.all fun d => !isMarkup d) = true := by
    unfold writeChar
    split
    case isTrue => exact .inr (by decide)
    split
    case isTrue => exact .inr (by decide)
    split
    case isTrue h => obtain ⟨-, rfl | rfl | rfl⟩ := h <;> exact .inr (by decide)
    exact .inl rfl
  rcases hcases with hsame | hplain
  · rw [hsame, String.toList_singleton, List.mem_singleton] at h
    rw [h, hsame]
  · have hd := List.all_eq_true.mp hplain d h
    exact writeChar_of_not_isMarkup (by simpa using hd) markup

theorem escaped_escaped (markup : Bool) (spelling : String) :
    escaped markup (escaped markup spelling) = escaped markup spelling := by
  have hagain : ∀ c, ((writeChar markup c).toList.flatMap fun d => (writeChar markup d).toList) =
      (writeChar markup c).toList := by
    intro c
    rw [List.flatMap_congr fun d hd => by rw [writeChar_of_mem hd, String.toList_singleton],
      List.flatMap_singleton']
  rw [← String.toList_inj, toList_escaped, toList_escaped, List.flatMap_assoc]
  exact congrArg (spelling.toList.flatMap ·) (funext hagain)

theorem contents_escaped {spelling : String} (h : IsSpelling spelling.toList) (markup : Bool) :
    contents (escaped markup spelling) = contents spelling := by
  rw [contents, toList_escaped, joinPairs_of_matches (h.written markup).2, contents]

theorem content?_escaped {spelling : String} (h : IsSpelling spelling.toList) (markup : Bool) :
    content? (escaped markup spelling) = content? spelling := by
  rw [content?, contents_escaped h, content?]

theorem content_escaped {spelling : String} (h : IsSpelling spelling.toList) (markup : Bool) :
    content (escaped markup spelling) = content spelling := by
  rw [content, contents_escaped h, content]

/-! ### Spelled texts -/

theorem piece_spellChar (c : Char) : Piece c (spellChar c).toList := by
  unfold spellChar
  split
  case h_1 => exact .short (c := '"') (by decide)
  case h_2 => exact .short (c := '\\') (by decide)
  case h_3 => exact .short (c := 'b') (by decide)
  case h_4 => exact .short (c := 'f') (by decide)
  case h_5 => exact .short (c := 'n') (by decide)
  case h_6 => exact .short (c := 'r') (by decide)
  case h_7 => exact .short (c := 't') (by decide)
  case h_8 hquote hbackslash _ _ _ _ _ =>
    split
    case isTrue h => exact piece_hex (by omega)
    case isFalse h =>
      rw [String.toList_singleton]
      exact .char hquote hbackslash (by omega)

theorem spell_pieces (cs : List Char) :
    IsSpelling (cs.flatMap fun c => (spellChar c).toList) ∧
      List.Forall₂ Unit16.Matches (cs.map .char)
        (units (cs.flatMap fun c => (spellChar c).toList)) := by
  induction cs with
  | nil => exact ⟨.nil, .nil⟩
  | cons c cs ih =>
    obtain ⟨u, hu, hunits⟩ :=
      (piece_spellChar c).units_append (cs.flatMap fun c => (spellChar c).toList)
    rw [List.flatMap_cons, hunits, List.map_cons]
    exact ⟨(piece_spellChar c).isSpelling_append ih.1, .cons hu ih.2⟩

theorem toList_spell (s : String) :
    (spell s).toList = s.toList.flatMap fun c => (spellChar c).toList := by
  rw [spell, String.toList_join, List.flatMap_map]

theorem isSpelling_spell (s : String) : IsSpelling (spell s).toList := by
  rw [toList_spell]
  exact (spell_pieces s.toList).1

theorem contents_spell (s : String) : contents (spell s) = s.toList.map some := by
  rw [contents, toList_spell, joinPairs_of_matches (spell_pieces s.toList).2, joinPairs_map_char]

theorem content_spell (s : String) : content (spell s) = s := by
  rw [content, contents_spell, List.map_map]
  exact (congrArg String.ofList (List.map_id s.toList)).trans String.ofList_toList

theorem mapM_id_map_some (cs : List Char) : (cs.map some).mapM id = some cs := by
  rw [List.mapM_map]
  exact (List.mapM_pure (f := id)).trans (congrArg some (List.map_id cs))

theorem eq_map_some_of_mapM {cs : List (Option Char)} {ds : List Char}
    (h : cs.mapM id = some ds) : cs = ds.map some := by
  induction cs generalizing ds with
  | nil =>
    simp only [List.mapM_nil, pure, Option.some.injEq] at h
    simp [← h]
  | cons c cs ih =>
    rw [List.mapM_cons] at h
    obtain ⟨d, hd, h⟩ := Option.bind_eq_some_iff.mp h
    obtain ⟨ds', hds, h⟩ := Option.bind_eq_some_iff.mp h
    simp only [pure, Option.some.injEq] at h
    rw [← h, List.map_cons, ← ih hds]
    exact congrArg (· :: cs) hd

theorem content_of_content? {spelling s : String} (h : content? spelling = some s) :
    content spelling = s := by
  obtain ⟨cs, hcs, rfl⟩ := Option.map_eq_some_iff.mp h
  rw [content, eq_map_some_of_mapM hcs, List.map_map]
  exact congrArg String.ofList (List.map_id cs)

theorem content?_spell (s : String) : content? (spell s) = some s := by
  rw [content?, contents_spell, mapM_id_map_some, Option.map_some, String.ofList_toList]

end SierraCasm.Json
