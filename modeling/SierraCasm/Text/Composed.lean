import SierraCasm.Text.Canonical

/-! # Composed text

Texts that look the same may be spelled with different characters: a letter with an accent is one
character, or a letter and a mark.  `composed` gives the one spelling in which characters are
composed as far as they can be: every character is taken apart, marks are put in the order of their
classes, and then each mark is joined to the character it follows, where there is a composite.
A joiner is put into long runs of marks first, as `golang.org/x/text/unicode/norm` does. -/

namespace SierraCasm.Text

/-! ### Hangul syllables -/

namespace Hangul

def leading : Nat := 0x1100

def vowel : Nat := 0x1161

/-- The position before the first trailing consonant. -/
def trailing : Nat := 0x11A7

def syllable : Nat := 0xAC00

def leadings : Nat := 19

def vowels : Nat := 21

/-- The number of trailing consonants, and none. -/
def trailings : Nat := 28

/-- The parts of a syllable. -/
def split? (n : Nat) : Option (List Nat) :=
  if syllable ≤ n ∧ n < syllable + leadings * vowels * trailings then
    let i := n - syllable
    let parts := [leading + i / (vowels * trailings), vowel + i / trailings % vowels]
    some (if i % trailings = 0 then parts else parts ++ [trailing + i % trailings])
  else
    none

/-- The syllable of a leading consonant and a vowel, or of a syllable without a trailing consonant
and one. -/
def join? (a b : Nat) : Option Nat :=
  if leading ≤ a ∧ a < leading + leadings ∧ vowel ≤ b ∧ b < vowel + vowels then
    some (syllable + ((a - leading) * vowels + (b - vowel)) * trailings)
  else if syllable ≤ a ∧ a < syllable + leadings * vowels * trailings ∧
      (a - syllable) % trailings = 0 ∧ trailing < b ∧ b < trailing + trailings then
    some (a + (b - trailing))
  else
    none

end Hangul

/-! ### Taking apart -/

/-- The parts of a code point in a table. -/
def pairOf? (n : Nat) (table : List (Nat × Nat × Nat)) : Option (List Nat) :=
  (table.lookup n).map fun parts => [parts.1, parts.2]

/-- The code points that a code point stands for. -/
def split? (n : Nat) : Option (List Nat) :=
  Hangul.split? n <|> pairOf? n composites <|> pairOf? n replacedPairs <|>
    (replacedSingles.lookup n <|> replacedIdeographs.lookup n <|> replacedSupplement.lookup n).map
      ([·])

/-- Takes a code point apart, up to `fuel` times in a row. -/
def takeApart : Nat → Nat → List Nat
  | 0, n => [n]
  | fuel + 1, n =>
    match split? n with
    | some parts => parts.flatMap (takeApart fuel)
    | none => [n]

/-- No code point can be taken apart more often in a row. -/
def maxSplits : Nat := 4

/-- The class of a code point in a table. -/
def classIn (n : Nat) : List (Nat × Nat × Nat) → Nat
  | [] => 0
  | (lo, hi, c) :: rest => if n < lo then 0 else if n ≤ hi then c else classIn n rest

/-- The class of a mark; `0` for other characters. -/
def markClass (n : Nat) : Nat := classIn n markClasses

/-! ### Runs of marks -/

/-- A code point may be joined to one before it. -/
def joinsBackward (n : Nat) : Bool :=
  (composites.any fun e => e.2.2 == n) ||
    (Hangul.vowel ≤ n && n < Hangul.vowel + Hangul.vowels) ||
    (Hangul.trailing ≤ n && n < Hangul.trailing + Hangul.trailings)

/-- A code point counts as a mark. -/
def isMark (n : Nat) : Bool := markClass n != 0 || joinsBackward n

/-- How many marks a code point starts and ends with. -/
def marksOf (n : Nat) : Nat × Nat :=
  match markCounts.find? fun e => e.1 ≤ n && n ≤ e.2.1 with
  | some e => e.2.2
  | none =>
    let parts := takeApart maxSplits n
    ((parts.takeWhile isMark).length, (parts.reverse.takeWhile isMark).length)

/-- No more marks follow each other without a joiner. -/
def maxMarks : Nat := 30

/-- The joiner, which has no look of its own. -/
def joiner : Nat := 0x34F

/-- Puts a joiner in front of each mark that would be one too many behind `run` others. -/
def joinRuns (run : Nat) : List Nat → List Nat
  | [] => []
  | n :: rest =>
    let marks := marksOf n
    if marks.1 = 0 then n :: joinRuns marks.2 rest
    else if run + marks.1 ≤ maxMarks then n :: joinRuns (run + marks.1) rest
    else joiner :: n :: joinRuns marks.1 rest

/-! ### The order of marks -/

/-- Puts a code point in front of ordered ones, behind marks of lower classes. -/
def place (n : Nat) : List Nat → List Nat
  | [] => [n]
  | m :: rest =>
    if markClass m ≠ 0 ∧ markClass m < markClass n then m :: place n rest else n :: m :: rest

/-- Puts the marks that follow a character in the order of their classes. -/
def orderMarks (ns : List Nat) : List Nat := ns.foldr place []

/-! ### Joining -/

/-- The composite of two code points. -/
def join? (a b : Nat) : Option Nat :=
  Hangul.join? a b <|> (composites.find? fun e => e.2 == (a, b)).map (·.1)

/-- A text that is being composed: what is done, the character that marks are joined to, and the
marks behind it that were not; newest first. -/
structure Composing where
  done : List Nat := []
  base : Option Nat := none
  marks : List Nat := []

namespace Composing

/-- All that was read, newest first. -/
def all (s : Composing) : List Nat := s.marks ++ (s.base.toList ++ s.done)

/-- A mark cannot be joined if one of its class or a higher one stands before it. -/
def blocked (s : Composing) (n : Nat) : Bool :=
  s.marks.head?.any fun m => markClass n ≤ markClass m

/-- Reads one more code point. -/
def step (s : Composing) (n : Nat) : Composing :=
  let joined := if s.blocked n then none else s.base.bind (join? · n)
  match joined with
  | some composite => { s with base := composite }
  | none =>
    if markClass n = 0 then { done := s.all, base := n }
    else { s with marks := n :: s.marks }

end Composing

/-- Joins ordered code points as far as possible. -/
def joinMarks (ns : List Nat) : List Nat := (ns.foldl Composing.step {}).all.reverse

/-- All characters of a text are ASCII. -/
def isAscii (s : String) : Bool := s.toList.all (·.toNat < 0x80)

/-- The composed spelling of a text. -/
def composed (s : String) : String :=
  if isAscii s then s
  else
    let parts := (joinRuns 0 (s.toList.map (·.toNat))).flatMap (takeApart maxSplits)
    String.ofList ((joinMarks (orderMarks parts)).map Char.ofNat)

theorem composed_of_isAscii {s : String} (h : isAscii s = true) : composed s = s := by
  simp [composed, h]

end SierraCasm.Text
