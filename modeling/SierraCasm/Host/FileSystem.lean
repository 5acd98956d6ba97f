import SierraCasm.Host.Basic
import SierraCasm.Path

/-! # A model of a file system

A tree of directories and files, as a list of absolute paths with what is there.  Paths are
resolved name by name from the working directory or from the root: each name but the last must be
a directory, even if `..` follows it. -/

namespace SierraCasm

/-- What is at a path. -/
inductive Node where
  | directory
  | file (contents : ByteArray)

/-- A file system: what is at each path, by its names from the root, and the working directory. -/
structure FileSystem where
  entries : List (List String × Node) := []
  workingDirectory : List String := []

namespace FileSystem

/-- Why a path cannot be used. -/
inductive Reason where
  | missing
  | notDirectory
  | isDirectory
  | exists
  | invalid
  | nameTooLong
deriving DecidableEq, Repr

def Reason.message : Reason → String
  | .missing => "no such file or directory"
  | .notDirectory => "not a directory"
  | .isDirectory => "is a directory"
  | .exists => "file exists"
  | .invalid => "invalid argument"
  | .nameTooLong => "file name too long"

/-- What is at a location; the root is a directory. -/
def node? (fs : FileSystem) (location : List String) : Option Node :=
  if location.isEmpty then some .directory
  else (fs.entries.find? fun e => e.1 == location).map (·.2)

/-- Puts something at a location. -/
def put (fs : FileSystem) (location : List String) (node : Node) : FileSystem :=
  { fs with entries := fs.entries.filter (fun e => e.1 != location) ++ [(location, node)] }

/-! ### Resolving paths -/

def maxNameLength : Nat := 255

def maxPathLength : Nat := 4095

/-- Enters a directory. -/
def enter (fs : FileSystem) (location : List String) : Except Reason (List String) :=
  match fs.node? location with
  | some .directory => .ok location
  | some (.file _) => .error .notDirectory
  | none => .error .missing

/-- The location that one name leads to. -/
def follow (location : List String) (name : String) : Except Reason (List String) :=
  if name = "." then .ok location
  else if name = ".." then .ok location.dropLast
  else if maxNameLength < name.utf8ByteSize then .error .nameTooLong
  else .ok (location ++ [name])

/-- The location that some names lead to; the last need not be there. -/
def walk (fs : FileSystem) : List String → List String → Except Reason (List String)
  | location, [] => .ok location
  | location, [name] => follow location name
  | location, name :: names => do
    let next ← follow location name
    let next ← fs.enter next
    walk fs next names

/-- The location of a path; the last name need not be there. -/
def resolve (fs : FileSystem) (path : String) : Except Reason (List String) :=
  if path.isEmpty then .error .missing
  else if '\x00' ∈ path.toList then .error .invalid
  else if maxPathLength < path.utf8ByteSize then .error .nameTooLong
  else
    let start := if Path.isAbsolute path then [] else fs.workingDirectory
    fs.walk start (Path.names path)

/-- What is at a path; only a directory may be followed by a slash. -/
def lookup (fs : FileSystem) (path : String) : Except Reason Node := do
  let location ← fs.resolve path
  match fs.node? location with
  | none => .error .missing
  | some .directory => .ok .directory
  | some (.file contents) =>
    if Path.endsInSlash path then .error .notDirectory else .ok (.file contents)

/-! ### Operations -/

/-- A failed operation. -/
def fault (operation path : String) (reason : Reason) : IoFault := ⟨operation, path, reason.message⟩

/-- The contents of a file.  A directory can be opened but not read. -/
def readFile (fs : FileSystem) (path : String) : Except IoFault ByteArray :=
  match fs.lookup path with
  | .ok (.file contents) => .ok contents
  | .ok .directory => .error (fault "read" path .isDirectory)
  | .error reason => .error (fault "open" path reason)

/-- Writes a file, which is made if it is missing. -/
def writeFile (path text : String) (fs : FileSystem) : Except IoFault FileSystem :=
  match fs.resolve path with
  | .error reason => .error (fault "open" path reason)
  | .ok location =>
    match fs.node? location, Path.endsInSlash path with
    | some .directory, _ => .error (fault "open" path .isDirectory)
    | some (.file _), true => .error (fault "open" path .notDirectory)
    | none, true => .error (fault "open" path .isDirectory)
    | _, false => .ok (fs.put location (.file text.toUTF8))

def makeDir (path : String) (fs : FileSystem) : Except IoFault FileSystem :=
  match fs.resolve path with
  | .error reason => .error (fault "mkdir" path reason)
  | .ok location =>
    match fs.node? location with
    | some _ => .error (fault "mkdir" path .exists)
    | none => .ok (fs.put location .directory)

/-- Makes the directory of some names, given last first, and those it lies in.  What was made
before a failure stays. -/
def makeDirsFrom (absolute : Bool) (fs : FileSystem) :
    List String → Except IoFault Unit × FileSystem
  | [] => (.ok (), fs)
  | name :: parents =>
    let path := Path.ofNames absolute (name :: parents).reverse
    match fs.lookup path with
    | .ok .directory => (.ok (), fs)
    | .ok (.file _) => (.error (fault "mkdir" path .notDirectory), fs)
    | .error _ =>
      match makeDirsFrom absolute fs parents with
      | (.error e, fs) => (.error e, fs)
      | (.ok (), fs) =>
        match makeDir path fs with
        | .ok fs => (.ok (), fs)
        | .error e => (.error e, fs)

/-- Makes a directory and those it lies in, as far as they are missing. -/
def makeDirs (path : String) (fs : FileSystem) : Except IoFault Unit × FileSystem :=
  makeDirsFrom (Path.isAbsolute path) fs (Path.names path).reverse

/-! ### Files of the working directory -/

/-- The files below the working directory, by their paths from it. -/
def files (fs : FileSystem) : List (String × ByteArray) :=
  fs.entries.filterMap fun e =>
    match e.2 with
    | .directory => none
    | .file contents =>
      if fs.workingDirectory.isPrefixOf e.1 then
        some ("/".intercalate (e.1.drop fs.workingDirectory.length), contents)
      else none

/-- The files below the working directory that were not there before, or not with these
contents. -/
def changedSince (fs before : FileSystem) : List (String × ByteArray) :=
  let old := before.files
  fs.files.filter fun f => !(old.any fun g => g.1 == f.1 && g.2.toList == f.2.toList)

end FileSystem

/-! ### The model as a host -/

/-- The state of the model host: its files, and the log entries it took. -/
structure World where
  files : FileSystem := {}
  log : List Log.Entry := []

/-- The host that works on the model. -/
def FileSystem.host : Host (StateM World) where
  readFile path := do return (← get).files.readFile path
  makeDirs path := modifyGet fun w =>
    let (result, files) := w.files.makeDirs path
    (result, { w with files := files })
  writeFile path text := modifyGet fun w =>
    match w.files.writeFile path text with
    | .ok files => (.ok (), { w with files := files })
    | .error e => (.error e, w)
  log entry := modify fun w => { w with log := w.log ++ [entry] }

end SierraCasm
