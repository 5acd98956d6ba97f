import SierraCasm.Text.Quoted

/-! # Flags

Flags are written `--name value` or `--name=value`; a switch may stand without a value, and a
letter after a single dash is short for a flag, several letters for several switches.  `--` ends
the flags.  What is neither a flag nor its value is an argument. -/

namespace SierraCasm.CommandLine

/-- A flag; a switch takes a truth value, which may be left out. -/
structure Flag where
  name : String
  letter : Option Char := none
  isSwitch : Bool := false
deriving DecidableEq, Repr

def Flag.render (f : Flag) : String :=
  match f.letter with
  | some c => "-" ++ String.singleton c ++ ", --" ++ f.name
  | none => "--" ++ f.name

/-- Why flags cannot be read. -/
inductive FlagFault where
  | badSyntax (argument : String)
  | unknown (name : String)
  | noValue (argument : String)
  | unknownLetter (letter : Char) (letters : String)
  | noLetterValue (letter : Char) (letters : String)
  | notTruth (flag : Flag) (value : String)
deriving DecidableEq, Repr

open Text in
def FlagFault.message : FlagFault → String
  | .badSyntax argument => "bad flag syntax: " ++ argument
  | .unknown name => "unknown flag: --" ++ name
  | .noValue argument => "flag needs an argument: " ++ argument
  | .unknownLetter c letters => "unknown shorthand flag: " ++ quotedChar c ++ " in -" ++ letters
  | .noLetterValue c letters => "flag needs an argument: " ++ quotedChar c ++ " in -" ++ letters
  | .notTruth flag value =>
    "invalid argument " ++ quoted value ++ " for " ++ quoted flag.render ++
      " flag: strconv.ParseBool: parsing " ++ quoted value ++ ": invalid syntax"

/-- The truth value that a text stands for. -/
def truth? (s : String) : Option Bool :=
  if s ∈ ["1", "t", "T", "TRUE", "true", "True"] then some true
  else if s ∈ ["0", "f", "F", "FALSE", "false", "False"] then some false
  else none

/-- What was read: the values of flags in the order in which they were given, and the
arguments. -/
structure Parsed where
  values : List (String × String) := []
  arguments : List String := []
deriving DecidableEq, Repr

namespace Parsed

def isSet (p : Parsed) (name : String) : Bool := p.values.any fun v => v.1 == name

/-- The last value of a flag, or its default. -/
def text (p : Parsed) (name default : String) : String :=
  ((p.values.reverse.find? fun v => v.1 == name).map (·.2)).getD default

/-- The last value of a switch; it is off by default. -/
def switch (p : Parsed) (name : String) : Bool := (truth? (p.text name "")).getD false

/-- Takes a value of a flag. -/
def set (p : Parsed) (flag : Flag) (value : String) : Except FlagFault Parsed :=
  if flag.isSwitch && (truth? value).isNone then .error (.notTruth flag value)
  else .ok { p with values := p.values ++ [(flag.name, value)] }

end Parsed

/-- The value of a switch that is given without one. -/
def switchValue : String := "true"

/-- Where the next value of a flag comes from: the arguments that follow. -/
def takeValue (fault : FlagFault) : List String → Except FlagFault (String × List String)
  | [] => .error fault
  | value :: rest => .ok (value, rest)

/-- Reads a flag by its name, the dashes taken off; returns the arguments that are left. -/
def parseName (flags : List Flag) (argument : String) (body : List Char) (rest : List String)
    (p : Parsed) : Except FlagFault (Parsed × List String) :=
  let name := String.ofList (body.takeWhile (· != '='))
  let given := body.dropWhile (· != '=')
  if body.isEmpty || body.head? = some '-' || body.head? = some '=' then
    .error (.badSyntax argument)
  else
    match flags.find? fun f => f.name == name with
    | none => .error (.unknown name)
    | some flag =>
      match given with
      | _ :: value => do return (← p.set flag (String.ofList value), rest)
      | [] =>
        if flag.isSwitch then do return (← p.set flag switchValue, rest)
        else do
          let (value, rest) ← takeValue (.noValue argument) rest
          return (← p.set flag value, rest)

/-- The first byte of a character, as a character. -/
def firstByte (c : Char) : Char :=
  Char.ofNat (((String.singleton c).toUTF8.toList.head?.map (·.toNat)).getD 0)

/-- Letters with this start are passed over. -/
def ignoredLetters : List Char := "test.".toList

/-- Reads flags by their letters; returns the arguments that are left. -/
def parseLetters (flags : List Flag) :
    List Char → List String → Parsed → Except FlagFault (Parsed × List String)
  | [], rest, p => .ok (p, rest)
  | c :: more, rest, p =>
    if ignoredLetters.isPrefixOf (c :: more) then .ok (p, rest)
    else
      match flags.find? fun f => f.letter == some c with
      | none => .error (.unknownLetter (firstByte c) (String.ofList (c :: more)))
      | some flag =>
        match more with
        | '=' :: d :: value => do return (← p.set flag (String.ofList (d :: value)), rest)
        | _ =>
          if flag.isSwitch then do
            let p ← p.set flag switchValue
            parseLetters flags more rest p
          else if more.isEmpty then do
            let (value, rest) ← takeValue (.noLetterValue c (String.ofList [c])) rest
            return (← p.set flag value, rest)
          else do return (← p.set flag (String.ofList more), rest)

/-- Reads arguments one after the other.  Each step takes at least one, so their number bounds the
steps. -/
def parseFrom (flags : List Flag) : Nat → List String → Parsed → Except FlagFault Parsed
  | 0, _, p => .ok p
  | _, [], p => .ok p
  | fuel + 1, argument :: rest, p =>
    match argument.toList with
    | ['-', '-'] => .ok { p with arguments := p.arguments ++ rest }
    | '-' :: '-' :: body => do
      let (p, rest) ← parseName flags argument body rest p
      parseFrom flags fuel rest p
    | '-' :: c :: letters => do
      let (p, rest) ← parseLetters flags (c :: letters) rest p
      parseFrom flags fuel rest p
    | _ => parseFrom flags fuel rest { p with arguments := p.arguments ++ [argument] }

/-- Reads flags and arguments. -/
def parseFlags (flags : List Flag) (arguments : List String) : Except FlagFault Parsed :=
  parseFrom flags arguments.length arguments {}

end SierraCasm.CommandLine
