import SierraCasm.CommandLine.Flag

/-! # Commands

The command is the first argument that is neither a flag nor the value of one.  A name that is
close to that of a command is suggested. -/

namespace SierraCasm.CommandLine

/-- The commands; `root` stands for a command line without one. -/
inductive Command where
  | root
  | validate
  | compile
  | completion
  | help
deriving DecidableEq, Repr

def programName : String := "sierra-toolchain"

namespace Command

def ofName? : String → Option Command
  | "validate" => some .validate
  | "compile" => some .compile
  | "completion" => some .completion
  | "help" => some .help
  | _ => none

/-- The name of a command with those it lies in. -/
def path : Command → String
  | .root => programName
  | .validate => programName ++ " validate"
  | .compile => programName ++ " compile"
  | .completion => programName ++ " completion"
  | .help => programName ++ " help"

/-- The flags that every command takes. -/
def globalFlags : List Flag :=
  [{ name := "verbose", letter := some 'v', isSwitch := true }, { name := "format" }]

/-- The flag that asks for help. -/
def helpFlag : Flag := { name := "help", letter := some 'h', isSwitch := true }

/-- The flags of a command alone. -/
def ownFlags : Command → List Flag
  | .validate => [{ name := "input" }]
  | .compile =>
    [{ name := "input" }, { name := "out-casm" }, { name := "gas-check", isSwitch := true }]
  | _ => []

/-- The flags that must be given. -/
def requiredFlags : Command → List String
  | .validate => ["input"]
  | .compile => ["input", "out-casm"]
  | _ => []

def flags (c : Command) : List Flag := c.ownFlags ++ globalFlags ++ [helpFlag]

end Command

/-! ### Finding the command -/

/-- An argument is a flag of the program whose value is the next argument: it has no `=`, and it is
not known as a switch. -/
def expectsValue (argument : String) : Bool :=
  let known (flag : Flag → Bool) : Bool := Command.globalFlags.any fun f => f.isSwitch && flag f
  match argument.toList with
  | '-' :: '-' :: name =>
    !name.contains '=' && !known fun f => f.name.toList == name
  | ['-', c] => c.toNat < 0x80 && c ≠ '=' && !known fun f => f.letter == some c
  | _ => false

/-- The arguments that are neither flags nor their values.  The search stops at `--`, and where a
flag leaves no argument behind its value. -/
def withoutFlags : List String → List String
  | [] => []
  | argument :: rest =>
    if argument = "--" then []
    else if expectsValue argument then
      match rest with
      | _ :: next :: more => withoutFlags (next :: more)
      | _ => []
    else if argument = "" || argument.toList.head? = some '-' then withoutFlags rest
    else argument :: withoutFlags rest

/-- The arguments without the first that is neither a flag nor its value and has a given name. -/
def eraseName (name : String) : List String → List String
  | [] => []
  | argument :: rest =>
    if argument = "--" then argument :: rest
    else if expectsValue argument then
      match rest with
      | [] => [argument]
      | value :: more => argument :: value :: eraseName name more
    else if argument = name then rest
    else argument :: eraseName name rest

/-! ### Suggestions -/

/-- One more row of the table of edit distances: `row` holds the distances to the start of the
other text, and `left` that of the new row so far. -/
def editRow (c : UInt8) : Nat → List (UInt8 × Nat × Nat) → List Nat
  | left, [] => [left]
  | left, (d, diagonal, above) :: rest =>
    left :: editRow c (min (min (above + 1) (left + 1)) (diagonal + if c = d then 0 else 1)) rest

/-- The least number of bytes to insert, remove or replace to get from one text to the other. -/
def editDistance (s t : List UInt8) : Nat :=
  let row := s.foldl (fun row c =>
    let cells := t.zip (row.zip (row.drop 1))
    editRow c (row.headD 0 + 1) cells) (List.range (t.length + 1))
  row.getLastD 0

/-- The letters outside ASCII whose lower-case form takes another number of bytes, with that
form. -/
def resizedLetters : List (Char × Char) :=
  [('\u0130', 'i'), ('\u023a', '\u2c65'), ('\u023e', '\u2c66'), ('\u1e9e', '\u00df'),
   ('\u2126', '\u03c9'), ('\u212a', 'k'), ('\u212b', '\u00e5'), ('\u2c62', '\u026b'),
   ('\u2c64', '\u027d'), ('\u2c6d', '\u0251'), ('\u2c6e', '\u0271'), ('\u2c6f', '\u0250'),
   ('\u2c70', '\u0252'), ('\u2c7e', '\u023f'), ('\u2c7f', '\u0240'), ('\ua78d', '\u0265'),
   ('\ua7aa', '\u0266'), ('\ua7ab', '\u025c'), ('\ua7ac', '\u0261'), ('\ua7ad', '\u026c'),
   ('\ua7ae', '\u026a'), ('\ua7b0', '\u029e'), ('\ua7b1', '\u0287'), ('\ua7b2', '\u029d'),
   ('\ua7c5', '\u0282')]

/-- The lower-case form of a character, up to letters outside ASCII of the same size: the names of
commands are ASCII, so such letters are as far from them in either case. -/
def lowerChar (c : Char) : Char := (resizedLetters.lookup c).getD c.toLower

/-- The lower-case form of a text. -/
def lower (s : String) : String := String.ofList (s.toList.map lowerChar)

/-- The commands that can be suggested. -/
def suggestible : List String := ["validate", "compile", "completion"]

/-- The distance up to which a name is suggested. -/
def suggestionDistance : Nat := 2

/-- A name is suggested for what was typed. -/
def isSuggested (typed name : String) : Bool :=
  let typed := lower typed
  editDistance typed.toUTF8.toList name.toUTF8.toList ≤ suggestionDistance ||
    typed.toList.isPrefixOf name.toList

/-- The names that are suggested for what was typed. -/
def suggestions (typed : String) : List String := suggestible.filter (isSuggested typed)

/-! ### Faults -/

/-- Why a command line is refused. -/
inductive CommandFault where
  | unknownCommand (name : String)
  | unexpectedArgument (command : Command) (argument : String)
  | flag (fault : FlagFault)
  | unknownFormat (format : String) (formats : List String)
  | missingFlags (names : List String)
deriving DecidableEq, Repr

open Text in
def CommandFault.message : CommandFault → String
  | .unknownCommand name =>
    let names := suggestions name
    "unknown command " ++ quoted name ++ " for " ++ quoted programName ++
      (if names.isEmpty then ""
       else "\n\nDid you mean this?\n" ++ String.join (names.map fun n => "\t" ++ n ++ "\n"))
  | .unexpectedArgument command argument =>
    "unknown command " ++ quoted argument ++ " for " ++ quoted command.path
  | .flag f => f.message
  | .unknownFormat format formats =>
    "invalid format " ++ quoted format ++ ": must be one of [" ++ " ".intercalate formats ++ "]"
  | .missingFlags names =>
    "required flag(s) " ++ ", ".intercalate (names.map fun n => "\"" ++ n ++ "\"") ++ " not set"

/-- The command of a command line, and the arguments for it. -/
def findCommand (arguments : List String) : Except CommandFault (Command × List String) :=
  match withoutFlags arguments with
  | [] => .ok (.root, arguments)
  | name :: _ =>
    match Command.ofName? name with
    | some command => .ok (command, eraseName name arguments)
    | none => .error (.unknownCommand name)

end SierraCasm.CommandLine
