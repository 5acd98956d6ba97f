/-! # Paths

File paths as texts: names separated by slashes, absolute if they start with one. -/

namespace SierraCasm.Path

def isAbsolute (path : String) : Bool := path.toList.head? == some '/'

def endsInSlash (path : String) : Bool := path.toList.getLast? == some '/'

/-- Adds a character in front of the first name. -/
def consName (c : Char) : List (List Char) → List (List Char)
  | [] => [[c]]
  | name :: names => (c :: name) :: names

/-- The texts between slashes. -/
def splitSlashes : List Char → List (List Char)
  | [] => [[]]
  | c :: cs => if c = '/' then [] :: splitSlashes cs else consName c (splitSlashes cs)

/-- The names of a path, without the empty ones that repeated slashes enclose. -/
def names (path : String) : List String :=
  ((splitSlashes path.toList).filter (!·.isEmpty)).map String.ofList

def ofNames (absolute : Bool) (names : List String) : String :=
  (if absolute then "/" else "") ++ "/".intercalate names

/-- Takes one more name, given the names before it, last first: `.` is nothing, and `..` takes back
a name. -/
def cleanStep (absolute : Bool) (before : List String) (name : String) : List String :=
  if name = "." then before
  else if name = ".." then
    match before with
    | [] => if absolute then [] else [".."]
    | last :: rest => if last = ".." then ".." :: before else rest
  else name :: before

/-- The shortest path that means the same, as far as the text tells. -/
def clean (path : String) : String :=
  let absolute := isAbsolute path
  let kept := ((names path).foldl (cleanStep absolute) []).reverse
  if kept.isEmpty && !absolute then "." else ofNames absolute kept

def directory (path : String) : String :=
  clean (String.ofList (path.toList.reverse.dropWhile (· != '/')).reverse)

end SierraCasm.Path
