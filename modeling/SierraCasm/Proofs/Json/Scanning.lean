import SierraCasm.Proofs.Json.Strings

/-! # Scanning what is written

The tokens of a tree, and that its text is cut into them (`scans_write`).  Conversely the words and
strings of scanned tokens are properly spelled (`sound_of_scan`). -/

namespace SierraCasm.Json

/-! ### Proper trees -/

/-- A proper spelling of characters with some property. -/
def Spells (P : Char → Prop) (s : String) : Prop := IsSpelling s.toList ∧ ∀ c ∈ s.toList, P c

theorem Spells.mono {P Q : Char → Prop} (hPQ : ∀ c, P c → Q c) {s : String} (h : Spells P s) :
    Spells Q s := ⟨h.1, fun c hc => hPQ c (h.2 c hc)⟩

/-- All numbers and strings are properly spelled, the strings with characters that have some
property, and nothing is nested deeper than some bound. -/
inductive Proper (P : Char → Prop) : Nat → Json → Prop
  | null {n : Nat} : Proper P n .null
  | bool {n : Nat} {b : Bool} : Proper P n (.bool b)
  | num {n : Nat} {s : String} (h : isNumber s.toList = true) : Proper P n (.num s)
  | str {n : Nat} {s : String} (h : Spells P s) : Proper P n (.str s)
  | arr {n : Nat} {text : String} {items : List Json} :
      (∀ j ∈ items, Proper P n j) → Proper P (n + 1) (.arr text items)
  | obj {n : Nat} {text : String} {members : List (String × Json)} :
      (∀ m ∈ members, Spells P m.1) → (∀ m ∈ members, Proper P n m.2) →
      Proper P (n + 1) (.obj text members)

theorem Proper.mono {P Q : Char → Prop} (hPQ : ∀ c, P c → Q c) {n : Nat} {j : Json}
    (h : Proper P n j) : ∀ {m : Nat}, n ≤ m → Proper Q m j := by
  induction h with
  | null => exact fun _ => .null
  | bool => exact fun _ => .bool
  | num h => exact fun _ => .num h
  | str h => exact fun _ => .str (h.mono hPQ)
  | arr _ ih =>
    intro m hm
    obtain ⟨m, rfl⟩ := Nat.exists_eq_add_of_lt hm
    exact .arr fun j hj => ih j hj (by omega)
  | obj hkeys _ ih =>
    intro m hm
    obtain ⟨m, rfl⟩ := Nat.exists_eq_add_of_lt hm
    exact .obj (fun m hm => (hkeys m hm).mono hPQ) fun m hm => ih m hm (by omega)

/-! ### The tokens of a tree -/

mutual

/-- The tokens of the text of a tree. -/
def tokens (markup : Bool) : Json → List Token
  | .str spelling => [.str (escaped markup spelling)]
  | .arr _ items => .openArray :: (itemTokens markup items ++ [.closeArray])
  | .obj _ members => .openObject :: (memberTokens markup members ++ [.closeObject])
  | j => [.word j]

def itemTokens (markup : Bool) : List Json → List Token
  | [] => []
  | [item] => tokens markup item
  | item :: items => tokens markup item ++ .comma :: itemTokens markup items

def memberTokens (markup : Bool) : List (String × Json) → List Token
  | [] => []
  | [(key, value)] => .str (escaped markup key) :: .colon :: tokens markup value
  | (key, value) :: members =>
    .str (escaped markup key) :: .colon ::
      (tokens markup value ++ .comma :: memberTokens markup members)

end

/-! ### Scanning -/

/-- The scanner has found some tokens, newest first; the last may be a word that has not ended. -/
def Scan.Holds (s : Scan) (tokens : List Token) : Prop :=
  s = ⟨.idle, tokens⟩ ∨
    ∃ read value rest, s = ⟨.word read, rest⟩ ∧ ofWord? read.reverse = some value ∧
      tokens = .word value :: rest

theorem Scan.Holds.step_mark {s : Scan} {found : List Token} (h : s.Holds found) {c : Char}
    {t : Token} (hc : mark? c = some t) : s.step c = some ⟨.idle, t :: found⟩ := by
  rcases h with rfl | ⟨read, value, rest, rfl, hvalue, rfl⟩
  · simp [step, between, hc]
  · simp [step, between, hc, hvalue]

theorem Scan.Holds.finish_eq {s : Scan} {found : List Token} (h : s.Holds found) :
    s.finish = some found.reverse := by
  rcases h with rfl | ⟨read, value, rest, rfl, hvalue, rfl⟩
  · rfl
  · simp [finish, hvalue]

/-- From between two tokens, a text is cut into some tokens. -/
def Scans (cs : List Char) (ts : List Token) : Prop :=
  ∀ found, ∃ s, cs.foldlM Scan.step ⟨.idle, found⟩ = some s ∧ s.Holds (ts.reverse ++ found)

theorem Scans.nil : Scans [] [] := fun _ => ⟨_, rfl, .inl rfl⟩

theorem Scans.append_mark {cs ds : List Char} {ts us : List Token} (hcs : Scans cs ts) {c : Char}
    {t : Token} (hc : Scan.mark? c = some t) (hds : Scans ds us) :
    Scans (cs ++ c :: ds) (ts ++ t :: us) := by
  intro found
  obtain ⟨s, hs, hholds⟩ := hcs found
  obtain ⟨s', hs', hholds'⟩ := hds (t :: (ts.reverse ++ found))
  refine ⟨s', ?_, ?_⟩
  · rw [List.foldlM_append, hs]
    simp only [bind, Option.bind, List.foldlM_cons, hholds.step_mark hc]
    exact hs'
  · simpa using hholds'

theorem Scans.mark {c : Char} {t : Token} (hc : Scan.mark? c = some t) {cs : List Char}
    {ts : List Token} (h : Scans cs ts) : Scans (c :: cs) (t :: ts) :=
  Scans.nil.append_mark hc h

theorem Scans.between {c d : Char} {t u : Token} (hc : Scan.mark? c = some t) {cs : List Char}
    {ts : List Token} (h : Scans cs ts) (hd : Scan.mark? d = some u) :
    Scans (c :: (cs ++ [d])) (t :: (ts ++ [u])) :=
  .mark hc (h.append_mark hd .nil)

theorem Scans.scan_eq {cs : List Char} {ts : List Token} (h : Scans cs ts) :
    Token.scan cs = some ts := by
  obtain ⟨s, hs, hholds⟩ := h []
  rw [Token.scan, hs]
  exact hholds.finish_eq.trans (by simp)

/-! ### Words -/

/-- A character of a word. -/
def isWordChar (c : Char) : Bool := (Scan.mark? c).isNone && c ≠ '"'

theorem foldlM_step_word {cs : List Char} (h : ∀ c ∈ cs, isWordChar c = true) (read : List Char)
    (found : List Token) :
    cs.foldlM Scan.step ⟨.word read, found⟩ = some ⟨.word (cs.reverse ++ read), found⟩ := by
  induction cs generalizing read with
  | nil => rfl
  | cons c cs ih =>
    rw [List.forall_mem_cons] at h
    obtain ⟨hmark, hquote⟩ := Bool.and_eq_true_iff.mp h.1
    have hstep : Scan.step ⟨.word read, found⟩ c = some ⟨.word (c :: read), found⟩ := by
      simp_all [Scan.step]
    rw [List.foldlM_cons, hstep]
    exact (ih h.2 (c :: read)).trans (by simp)

theorem scans_word {cs : List Char} {value : Json} (hvalue : ofWord? cs = some value)
    (hne : cs ≠ []) (h : ∀ c ∈ cs, isWordChar c = true) : Scans cs [.word value] := by
  intro found
  cases cs with
  | nil => exact absurd rfl hne
  | cons c cs =>
    rw [List.forall_mem_cons] at h
    obtain ⟨hmark, hquote⟩ := Bool.and_eq_true_iff.mp h.1
    have hstep : Scan.step ⟨.idle, found⟩ c = some ⟨.word [c], found⟩ := by
      simp_all [Scan.step, Scan.between]
    refine ⟨⟨.word (cs.reverse ++ [c]), found⟩, ?_, .inr ⟨_, value, found, rfl, ?_, rfl⟩⟩
    · rw [List.foldlM_cons, hstep]
      exact foldlM_step_word h.2 [c] found
    · simpa using hvalue

/-- A character of a number. -/
def isNumberChar (c : Char) : Bool := ('0' ≤ c && c ≤ '9') || c ∈ ['-', '+', '.', 'e', 'E']

theorem isNumberChar_of_step {s s' : NumberState} {c : Char} (h : s.step c = some s') :
    isNumberChar c = true := by
  rw [← Bool.not_eq_false]
  intro hc
  have hzero : c ≠ '0' := by
    rintro rfl
    exact absurd hc (by decide)
  simp only [isNumberChar, Bool.or_eq_false_iff, decide_eq_false_iff_not, List.mem_cons,
    List.not_mem_nil, or_false, not_or] at hc
  cases s <;> simp [NumberState.step, hc, hzero] at h

theorem isNumberChar_of_foldlM {s s' : NumberState} {cs : List Char}
    (h : cs.foldlM NumberState.step s = some s') : ∀ c ∈ cs, isNumberChar c = true := by
  induction cs generalizing s with
  | nil => exact fun _ hc => absurd hc List.not_mem_nil
  | cons c cs ih =>
    rw [List.foldlM_cons] at h
    obtain ⟨t, hstep, hrest⟩ := Option.bind_eq_some_iff.mp h
    exact List.forall_mem_cons.mpr ⟨isNumberChar_of_step hstep, ih hrest⟩

theorem isNumberChar_of_isNumber {cs : List Char} (h : isNumber cs = true) :
    ∀ c ∈ cs, isNumberChar c = true := by
  obtain ⟨s, hs, -⟩ := (Option.any_eq_true _ _).mp h
  exact isNumberChar_of_foldlM hs

theorem mem_marks {c : Char} (h : (Scan.mark? c).isSome = true) :
    c ∈ ['[', ']', '\x7b', '\x7d', ',', ':', ' ', '\t', '\n', '\r'] := by
  unfold Scan.mark? at h
  split at h
  case h_7 =>
    split at h
    case isTrue hblank =>
      simp only [Scan.isBlank, Bool.or_eq_true, decide_eq_true_eq] at hblank
      simp only [List.mem_cons]
      tauto
    case isFalse => cases h
  all_goals decide

theorem isWordChar_of_isNumberChar {c : Char} (h : isNumberChar c = true) :
    isWordChar c = true := by
  have hmark : Scan.mark? c = none := by
    rw [← Option.not_isSome_iff_eq_none]
    intro hsome
    have hmem := mem_marks hsome
    simp only [List.mem_cons, List.not_mem_nil, or_false] at hmem
    rcases hmem with rfl | rfl | rfl | rfl | rfl | rfl | rfl | rfl | rfl | rfl <;>
      exact absurd h (by decide)
  have hquote : c ≠ '"' := by
    rintro rfl
    exact absurd h (by decide)
  simp [isWordChar, hmark, hquote]

theorem ofWord?_of_isNumber {s : String} (h : isNumber s.toList = true) :
    ofWord? s.toList = some (.num s) := by
  have hne : ∀ cs, isNumber cs = false → s.toList ≠ cs := by
    rintro cs hcs rfl
    rw [h] at hcs
    cases hcs
  rw [ofWord?, if_neg (hne _ (by decide)), if_neg (hne _ (by decide)), if_neg (hne _ (by decide)),
    if_pos h, String.ofList_toList]

theorem scans_number {s : String} (h : isNumber s.toList = true) :
    Scans s.toList [.word (.num s)] := by
  refine scans_word (ofWord?_of_isNumber h) ?_ fun c hc =>
    isWordChar_of_isNumberChar (isNumberChar_of_isNumber h c hc)
  intro hnil
  rw [hnil] at h
  exact absurd h (by decide)

/-! ### Strings -/

theorem foldlM_of_step {s s' : Scan} {c : Char} (h : s.step c = some s') (cs : List Char) :
    (c :: cs).foldlM Scan.step s = cs.foldlM Scan.step s' := by
  rw [List.foldlM_cons, h]
  rfl

section strings

variable (read : List Char) (found : List Token)

theorem step_char {c : Char} (hquote : c ≠ '"') (hbackslash : c ≠ '\\')
    (hcontrol : 0x20 ≤ c.toNat) :
    Scan.step ⟨.string read, found⟩ c = some ⟨.string (c :: read), found⟩ := by
  simp [Scan.step, hquote, hbackslash, Nat.not_lt.mpr hcontrol]

theorem step_quote : Scan.step ⟨.string read, found⟩ '"' =
    some ⟨.idle, .str (String.ofList read.reverse) :: found⟩ := rfl

theorem step_backslash :
    Scan.step ⟨.string read, found⟩ '\\' = some ⟨.escape ('\\' :: read), found⟩ := rfl

theorem step_short {c : Char} (hc : c ∈ shortEscapes) :
    Scan.step ⟨.escape read, found⟩ c = some ⟨.string (c :: read), found⟩ := by
  have hu : c ≠ 'u' := by
    rintro rfl
    exact absurd hc (by decide)
  exact (if_neg hu).trans (if_pos hc)

theorem step_u : Scan.step ⟨.escape read, found⟩ 'u' = some ⟨.unicode 4 ('u' :: read), found⟩ :=
  rfl

theorem step_hex {c : Char} (hc : (hexValue? c).isSome = true) {digits : Nat}
    (hdigits : digits ≠ 0) : Scan.step ⟨.unicode (digits + 1) read, found⟩ c =
      some ⟨.unicode digits (c :: read), found⟩ := by
  have hmore : ¬ digits + 1 ≤ 1 := by omega
  simp [Scan.step, hc, hmore]

theorem step_lastHex {c : Char} (hc : (hexValue? c).isSome = true) :
    Scan.step ⟨.unicode 1 read, found⟩ c = some ⟨.string (c :: read), found⟩ := by
  simp [Scan.step, hc]

theorem foldlM_step_spelling {cs : List Char} (h : IsSpelling cs) :
    cs.foldlM Scan.step ⟨.string read, found⟩ = some ⟨.string (cs.reverse ++ read), found⟩ := by
  induction h generalizing read with
  | nil => rfl
  | @char c rest hquote hbackslash hcontrol _ ih =>
    rw [foldlM_of_step (step_char read found hquote hbackslash hcontrol), ih]
    simp
  | @short c rest hc _ ih =>
    rw [foldlM_of_step (step_backslash read found), foldlM_of_step (step_short _ found hc), ih]
    simp
  | @unicode a b c d rest hdigits _ ih =>
    simp only [List.mem_cons, List.not_mem_nil, or_false, forall_eq_or_imp, forall_eq] at hdigits
    obtain ⟨ha, hb, hc, hd⟩ := hdigits
    rw [foldlM_of_step (step_backslash read found), foldlM_of_step (step_u _ found),
      foldlM_of_step (step_hex _ found ha (by decide)),
      foldlM_of_step (step_hex _ found hb (by decide)),
      foldlM_of_step (step_hex _ found hc (by decide)),
      foldlM_of_step (step_lastHex _ found hd), ih]
    simp

end strings

theorem scans_spelling {s : String} (h : IsSpelling s.toList) :
    Scans ('"' :: (s.toList ++ ['"'])) [.str s] := by
  intro found
  refine ⟨⟨.idle, .str s :: found⟩, ?_, .inl rfl⟩
  have hquote : Scan.step ⟨.idle, found⟩ '"' = some ⟨.string [], found⟩ := rfl
  rw [foldlM_of_step hquote, List.foldlM_append, foldlM_step_spelling [] found h]
  refine (foldlM_of_step (step_quote _ found) []).trans ?_
  simp

/-! ### Trees -/

section write

variable {markup : Bool}

theorem toList_writeString (s : String) :
    (writeString markup s).toList = '"' :: ((escaped markup s).toList ++ ['"']) := by
  rw [writeString, String.toList_append, String.toList_append]
  rfl

theorem scans_writeString {s : String} (h : IsSpelling s.toList) :
    Scans (writeString markup s).toList [.str (escaped markup s)] := by
  rw [toList_writeString]
  refine scans_spelling ?_
  rw [toList_escaped]
  exact (h.written markup).1

theorem scans_writeItems {items : List Json}
    (h : ∀ j ∈ items, Scans (write markup j).toList (tokens markup j)) :
    Scans (writeItems markup items).toList (itemTokens markup items) := by
  induction items with
  | nil => exact .nil
  | cons item items ih =>
    rw [List.forall_mem_cons] at h
    cases items with
    | nil => exact h.1
    | cons next items =>
      have happend : (writeItems markup (item :: next :: items)).toList =
          (write markup item).toList ++ ',' :: (writeItems markup (next :: items)).toList := by
        simp [writeItems]
      rw [happend]
      exact h.1.append_mark rfl (ih h.2)

theorem scans_writeMembers {members : List (String × Json)}
    (hkeys : ∀ m ∈ members, IsSpelling m.1.toList)
    (h : ∀ m ∈ members, Scans (write markup m.2).toList (tokens markup m.2)) :
    Scans (writeMembers markup members).toList (memberTokens markup members) := by
  induction members with
  | nil => exact .nil
  | cons m members ih =>
    obtain ⟨key, value⟩ := m
    rw [List.forall_mem_cons] at hkeys h
    have hkey : Scans (writeString markup key).toList [.str (escaped markup key)] :=
      scans_writeString hkeys.1
    cases members with
    | nil =>
      have happend : (writeMembers markup [(key, value)]).toList =
          (writeString markup key).toList ++ ':' :: (write markup value).toList := by
        simp [writeMembers]
      rw [happend]
      exact hkey.append_mark rfl h.1
    | cons next members =>
      have happend : (writeMembers markup ((key, value) :: next :: members)).toList =
          (writeString markup key).toList ++ ':' :: ((write markup value).toList ++
            ',' :: (writeMembers markup (next :: members)).toList) := by
        simp [writeMembers]
      rw [happend]
      exact hkey.append_mark rfl (h.1.append_mark rfl (ih hkeys.2 h.2))

theorem scans_write {P : Char → Prop} {n : Nat} {j : Json} (h : Proper P n j) :
    Scans (write markup j).toList (tokens markup j) := by
  induction h with
  | null =>
    have hword : Scans "null".toList [.word .null] :=
      scans_word rfl (by decide) (List.all_eq_true.mp (by decide))
    exact hword
  | @bool _ b =>
    cases b with
    | false =>
      have hword : Scans "false".toList [.word (.bool false)] :=
        scans_word rfl (by decide) (List.all_eq_true.mp (by decide))
      exact hword
    | true =>
      have hword : Scans "true".toList [.word (.bool true)] :=
        scans_word rfl (by decide) (List.all_eq_true.mp (by decide))
      exact hword
  | num h => exact scans_number h
  | str h => exact scans_writeString h.1
  | @arr _ text items _ ih =>
    have hbetween : (write markup (.arr text items)).toList =
        '[' :: ((writeItems markup items).toList ++ [']']) := by
      simp [write]
    rw [hbetween]
    exact .between rfl (scans_writeItems ih) rfl
  | @obj _ text members hkeys _ ih =>
    have hbetween : (write markup (.obj text members)).toList =
        '\x7b' :: ((writeMembers markup members).toList ++ ['\x7d']) := by
      simp [write]
    rw [hbetween]
    exact .between rfl (scans_writeMembers (fun m hm => (hkeys m hm).1) ih) rfl

end write

/-! ### What is scanned -/

theorem IsSpelling.append {cs ds : List Char} (hcs : IsSpelling cs) (hds : IsSpelling ds) :
    IsSpelling (cs ++ ds) := by
  induction hcs with
  | nil => exact hds
  | char hquote hbackslash hcontrol _ ih => exact .char hquote hbackslash hcontrol ih
  | short hc _ ih => exact .short hc ih
  | unicode hdigits _ ih => exact .unicode hdigits ih

/-- The words and strings among the tokens are properly spelled. -/
def Token.Sound (P : Char → Prop) : Token → Prop
  | .str spelling => Spells P spelling
  | .word value => Proper P 0 value
  | _ => True

namespace Scan

/-- What has been read of a string is the beginning of a spelling. -/
def ReadSound : Mode → Prop
  | .idle => True
  | .word _ => True
  | .string read => IsSpelling read.reverse
  | .escape read => ∃ before, read = '\\' :: before ∧ IsSpelling before.reverse
  | .unicode digits read => ∃ hex before, read = hex ++ 'u' :: '\\' :: before ∧
      (∀ c ∈ hex, (hexValue? c).isSome = true) ∧ hex.length + digits = 4 ∧ digits ≠ 0 ∧
      IsSpelling before.reverse

/-- The characters that have been read of a string. -/
def readOf : Mode → List Char
  | .idle => []
  | .word _ => []
  | .string read => read
  | .escape read => read
  | .unicode _ read => read

/-- What the scanner keeps is properly spelled. -/
structure Sound (P : Char → Prop) (s : Scan) : Prop where
  tokens : ∀ t ∈ s.tokens, t.Sound P
  spelling : ReadSound s.mode
  chars : ∀ c ∈ readOf s.mode, P c

end Scan

variable {P : Char → Prop}

theorem proper_of_ofWord? {cs : List Char} {value : Json} (h : ofWord? cs = some value) (n : Nat) :
    Proper P n value := by
  unfold ofWord? at h
  split at h
  case isTrue =>
    cases h
    exact .bool
  split at h
  case isTrue =>
    cases h
    exact .bool
  split at h
  case isTrue =>
    cases h
    exact .null
  split at h
  case isTrue hnumber =>
    cases h
    exact .num (by rwa [String.toList_ofList])
  case isFalse => cases h

theorem sound_of_mark? {c : Char} {t : Token} (h : Scan.mark? c = some t) : t.Sound P := by
  unfold Scan.mark? at h
  split at h
  case h_7 =>
    split at h
    case isTrue =>
      cases h
      trivial
    case isFalse => cases h
  all_goals
    cases h
    trivial

theorem Scan.sound_between {found : List Token} (hfound : ∀ t ∈ found, t.Sound P) (c : Char) :
    (between found c).Sound P := by
  unfold between
  split
  case h_1 t ht =>
    exact ⟨List.forall_mem_cons.mpr ⟨sound_of_mark? ht, hfound⟩, trivial,
      fun _ hc => absurd hc List.not_mem_nil⟩
  case h_2 =>
    split
    case isTrue => exact ⟨hfound, .nil, fun _ hc => absurd hc List.not_mem_nil⟩
    case isFalse => exact ⟨hfound, trivial, fun _ hc => absurd hc List.not_mem_nil⟩

theorem isSpelling_unicode {hex : List Char} (hlength : hex.length = 4)
    (hhex : ∀ c ∈ hex, (hexValue? c).isSome = true) : IsSpelling ('\\' :: 'u' :: hex) := by
  obtain ⟨a, b, c, d, rfl⟩ := List.length_eq_four.mp hlength
  exact .unicode hhex .nil

theorem Scan.Sound.step {s s' : Scan} (hs : s.Sound P) {c : Char} (hc : P c)
    (h : s.step c = some s') : s'.Sound P := by
  obtain ⟨mode, found⟩ := s
  obtain ⟨hfound, hspelling, hchars⟩ := hs
  cases mode with
  | idle =>
    cases h
    exact sound_between hfound c
  | word read =>
    simp only [Scan.step] at h
    split at h
    case isTrue =>
      obtain ⟨value, hvalue, h⟩ := Option.bind_eq_some_iff.mp h
      cases h
      have hword : Token.Sound P (.word value) := proper_of_ofWord? hvalue 0
      exact sound_between (List.forall_mem_cons.mpr ⟨hword, hfound⟩) c
    case isFalse =>
      cases h
      exact ⟨hfound, trivial, hchars⟩
  | string read =>
    simp only [Scan.step] at h
    split at h
    case isTrue =>
      cases h
      have hstring : Token.Sound P (.str (String.ofList read.reverse)) := by
        rw [Token.Sound, Spells, String.toList_ofList]
        exact ⟨hspelling, fun x hx => hchars x (List.mem_reverse.mp hx)⟩
      exact ⟨List.forall_mem_cons.mpr ⟨hstring, hfound⟩, trivial,
        fun _ hx => absurd hx List.not_mem_nil⟩
    case isFalse hquote =>
      have hread : ∀ x ∈ c :: read, P x := List.forall_mem_cons.mpr ⟨hc, hchars⟩
      split at h
      case isTrue hbackslash =>
        cases h
        exact ⟨hfound, ⟨read, by rw [hbackslash], hspelling⟩, hread⟩
      case isFalse hbackslash =>
        split at h
        case isTrue => cases h
        case isFalse hcontrol =>
          cases h
          refine ⟨hfound, ?_, hread⟩
          rw [ReadSound, List.reverse_cons]
          exact IsSpelling.append hspelling
            (.char hquote hbackslash (Nat.le_of_not_lt hcontrol) .nil)
  | escape read =>
    obtain ⟨before, rfl, hbefore⟩ := hspelling
    have hread : ∀ x ∈ c :: '\\' :: before, P x := List.forall_mem_cons.mpr ⟨hc, hchars⟩
    simp only [Scan.step] at h
    split at h
    case isTrue hu =>
      cases h
      exact ⟨hfound, ⟨[], before, by rw [hu]; rfl, fun _ hx => absurd hx List.not_mem_nil, rfl,
        by decide, hbefore⟩, hread⟩
    case isFalse =>
      split at h
      case isTrue hshort =>
        cases h
        refine ⟨hfound, ?_, hread⟩
        rw [ReadSound, List.reverse_cons, List.reverse_cons, List.append_assoc]
        exact hbefore.append (.short hshort .nil)
      case isFalse => cases h
  | unicode digits read =>
    obtain ⟨hex, before, rfl, hhex, hlength, hdigits, hbefore⟩ := hspelling
    have hread : ∀ x ∈ c :: (hex ++ 'u' :: '\\' :: before), P x :=
      List.forall_mem_cons.mpr ⟨hc, hchars⟩
    simp only [Scan.step] at h
    split at h
    case isTrue hvalue =>
      have hhex' : ∀ x ∈ c :: hex, (hexValue? x).isSome = true :=
        List.forall_mem_cons.mpr ⟨hvalue, hhex⟩
      by_cases hlast : digits ≤ 1
      · rw [if_pos hlast] at h
        cases h
        refine ⟨hfound, ?_, hread⟩
        rw [ReadSound, ← List.cons_append, List.reverse_append, List.reverse_cons,
          List.reverse_cons, List.append_assoc, List.append_assoc]
        have hlength' : (c :: hex).reverse.length = 4 := by
          simp only [List.length_reverse, List.length_cons]
          omega
        exact hbefore.append
          (isSpelling_unicode hlength' fun x hx => hhex' x (List.mem_reverse.mp hx))
      · rw [if_neg hlast] at h
        cases h
        refine ⟨hfound, ⟨c :: hex, before, rfl, hhex', ?_, ?_, hbefore⟩, hread⟩
        · simp only [List.length_cons]
          omega
        · omega
    case isFalse => cases h

theorem Scan.Sound.foldlM {cs : List Char} (hcs : ∀ c ∈ cs, P c) {s s' : Scan} (hs : s.Sound P)
    (h : cs.foldlM Scan.step s = some s') : s'.Sound P := by
  induction cs generalizing s with
  | nil =>
    cases h
    exact hs
  | cons c cs ih =>
    rw [List.forall_mem_cons] at hcs
    rw [List.foldlM_cons] at h
    obtain ⟨t, ht, h⟩ := Option.bind_eq_some_iff.mp h
    exact ih hcs.2 (hs.step hcs.1 ht) h

/-- The tokens of a text are properly spelled, with characters of the text. -/
theorem sound_of_scan {cs : List Char} (hcs : ∀ c ∈ cs, P c) {ts : List Token}
    (h : Token.scan cs = some ts) : ∀ t ∈ ts, t.Sound P := by
  obtain ⟨⟨mode, found⟩, hs, hfinish⟩ := Option.bind_eq_some_iff.mp h
  have hstart : Scan.Sound P {} :=
    ⟨fun _ ht => absurd ht List.not_mem_nil, trivial, fun _ hc => absurd hc List.not_mem_nil⟩
  have hsound := hstart.foldlM hcs hs
  cases mode with
  | idle =>
    cases hfinish
    exact fun t ht => hsound.tokens t (List.mem_reverse.mp ht)
  | word read =>
    obtain ⟨value, hvalue, hfinish⟩ := Option.bind_eq_some_iff.mp hfinish
    cases hfinish
    have hword : Token.Sound P (.word value) := proper_of_ofWord? hvalue 0
    exact fun t ht => List.forall_mem_cons.mpr ⟨hword, hsound.tokens⟩ t (List.mem_reverse.mp ht)
  | string read => cases hfinish
  | escape read => cases hfinish
  | unicode digits read => cases hfinish

end SierraCasm.Json
