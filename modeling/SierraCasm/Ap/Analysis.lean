import SierraCasm.Ap.Fault
import SierraCasm.Ap.State
import SierraCasm.Ascending
import SierraCasm.Registry.Basic

/-! # The analysis of `ap`

`analyze` computes the position of `ap` at every statement that a function reaches and the total
change of every function.  Positions are propagated along the branches of one function until none
changes, always from the pending statement with the lowest index.  Functions are resolved in the
order of their declaration; a call resolves its callee first, and a callee that is still being
resolved has an unknown change.

Each function is walked at most once, and a position changes at most twice: when the statement is
first reached and when paths first join there.  So `2 * n + 1` visits suffice for a walk of a
program with `n` statements, and calls nest at most as deep as there are functions.

The operations are those of any computations that can stop with a fault and note what they do
(`Analyzing`); `analyze` notes nothing. -/

namespace SierraCasm.Ap

open Sierra Concrete

/-- What is known about a statement that a function reaches: the position of `ap` at it, the
function (by its position in the program), and the position right after each of its branches. -/
structure Site where
  state : ApState
  owner : Nat
  after : List ApState := []
deriving DecidableEq, Repr

/-- How far the resolution of a function has come. -/
inductive Status where
  | unvisited
  | visiting
  | done (change : ApChange)
deriving DecidableEq, Repr

/-- The state of the analysis. -/
structure Progress where
  functions : List Status
  sites : List (Option Site)
deriving DecidableEq, Repr

namespace Progress

/-- Nothing is known at the start. -/
def start (p : Program) : Progress where
  functions := p.functions.map fun _ => .unvisited
  sites := p.statements.map fun _ => none

def site? (s : Progress) (i : Nat) : Option Site := s.sites[i]?.join

def status (s : Progress) (f : Nat) : Status := s.functions[f]?.getD .unvisited

def setSite (s : Progress) (i : Nat) (site : Site) : Progress :=
  { s with sites := s.sites.set i (some site) }

def setAfter (s : Progress) (i : Nat) (after : List ApState) : Progress :=
  match s.site? i with
  | some site => s.setSite i { site with after := after }
  | none => s

def setStatus (s : Progress) (f : Nat) (status : Status) : Progress :=
  { s with functions := s.functions.set f status }

end Progress

/-- The identifier of a function, by its position. -/
def functionId (p : Program) (f : Nat) : Ident := (p.functions[f]?.map (·.id)).getD {}

/-- What the analysis does over and over. -/
inductive Event where
  /-- the walk through function `f` begins -/
  | walk (f : Nat)
  /-- statement `i` is taken from the pending ones -/
  | take (i : Nat)
  /-- the position recorded for statement `i` changes to `s` -/
  | record (i : Nat) (s : ApState)
deriving DecidableEq, Repr

/-- Computations that can stop with a fault and note what they do. -/
class Analyzing (m : Type → Type) extends Monad m where
  stop {α : Type} : Fault → m α
  note : Event → m Unit

export Analyzing (stop note)

@[default_instance] instance : Analyzing (Except Fault) where
  stop := .error
  note _ := .ok ()

theorem note_bind {α : Type} (e : Event) (x : Unit → Except Fault α) :
    (note e >>= x : Except Fault α) = x () := rfl

variable {m : Type → Type} [Analyzing m]

/-! ### Where paths meet -/

/-- A path of function `f` reaches statement `i` at position `s`.  The flag tells whether the
position recorded for the statement changes. -/
def merge (p : Program) (f i : Nat) (s : ApState) (progress : Progress) : m (Bool × Progress) :=
  match progress.site? i with
  | none => do
    note (.record i s)
    return (true, progress.setSite i { state := s, owner := f })
  | some site =>
    if site.owner ≠ f then
      stop (.shared i (functionId p site.owner) (functionId p f))
    else if site.state = s then
      return (false, progress)
    else if site.state.tracking && s.tracking then
      stop (.mismatch i)
    else
      let joined := ApState.join i site.state s
      if joined = site.state then
        return (false, progress)
      else do
        note (.record i joined)
        return (true, progress.setSite i { site with state := joined })

/-! ### Effects of branches -/

/-- Resolves a function given by its position. -/
abbrev Resolver (m : Type → Type := Except Fault) := Nat → Progress → m Progress

/-- The change of a callee, resolved first if it is new. -/
def calleeChange (p : Program) (resolve : Resolver m) (callee : Ident) (progress : Progress) :
    m (ApChange × Progress) :=
  match p.functionIndex? callee with
  | none => return (.unknown, progress)
  | some g => do
    let progress ← resolve g progress
    match progress.status g with
    | .done change => return (change, progress)
    | _ => return (.unknown, progress)

/-- The position after a branch of statement `i` that starts at `s`. -/
def advance (p : Program) (resolve : Resolver m) (i : Nat) (s : ApState) (effect : ApEffect)
    (progress : Progress) : m (ApState × Progress) :=
  match effect with
  | .known cells => return (s.move cells, progress)
  | .call callee => do
    let (change, progress) ← calleeChange p resolve callee progress
    return (s.afterCall i change, progress)
  | .enableTracking => return ({ epoch := ApState.epochAfter i, tracking := true }, progress)
  | .disableTracking => return ({ s with tracking := false }, progress)

/-! ### The walk through one function -/

/-- The state of a walk: the statements to visit, ascending, the returns visited, and what is
known. -/
structure Walk where
  pending : List Nat
  returns : List Nat := []
  progress : Progress
deriving DecidableEq, Repr

/-- A path of function `f` reaches statement `i` at position `s` and continues there if that is
news. -/
def Walk.arrive (p : Program) (f i : Nat) (s : ApState) (w : Walk) : m Walk := do
  let (changed, progress) ← merge p f i s w.progress
  return { w with
    pending := if changed then Ascending.insert i w.pending else w.pending
    progress := progress }

/-- Follows the branches of statement `i` from position `s`, and collects the positions after
them. -/
def followBranches (p : Program) (resolve : Resolver m) (f i : Nat) (s : ApState) :
    List (Branch × BranchSignature) → Walk → m (List ApState × Walk)
  | [], w => return ([], w)
  | (branch, sig) :: rest, w => do
    let (next, progress) ← advance p resolve i s sig.ap w.progress
    let target := (branch.target.resolve i).toNat
    if target < p.statements.length then
      let w ← Walk.arrive p f target next { w with progress := progress }
      let (after, w) ← followBranches p resolve f i s rest w
      return (next :: after, w)
    else
      stop (.pastEnd i)

/-- Visits statement `i` of function `f`. -/
def visit (r : Registry) (resolve : Resolver m) (f i : Nat) (w : Walk) : m Walk :=
  match r.program.statements[i]?, w.progress.site? i with
  | some (.ret _), some _ => return { w with returns := w.returns ++ [i] }
  | some (.invoke inv), some site =>
    match r.libfunc? inv.libfunc with
    | none => stop (.malformed i)
    | some lib => do
      let (after, w) ← followBranches r.program resolve f i site.state
        (inv.branches.zip lib.signature.branches) w
      return { w with progress := w.progress.setAfter i after }
  | _, _ => stop (.malformed i)

/-- Visits pending statements until none is left. -/
def walkAll (r : Registry) (resolve : Resolver m) (f : Nat) : Nat → Walk → m Walk
  | 0, w =>
    match w.pending with
    | [] => return w
    | i :: _ => stop (.exhausted i)
  | fuel + 1, w =>
    match w.pending with
    | [] => return w
    | i :: rest => do
      note (.take i)
      let w ← visit r resolve f i { w with pending := rest }
      walkAll r resolve f fuel w

/-- The change that the returns of a function agree on, given the offset of the return before.
A negative offset, which only a wrapped sum gives, is not compared with the next. -/
def agreedChange : Int64 → List ApState → ApChange
  | last, [] => .known last
  | last, s :: rest =>
    if s.epoch ≠ 0 ∨ (0 ≤ last ∧ s.offset ≠ last) then .unknown else agreedChange s.offset rest

/-- The change of a function with the given positions at its returns. -/
def changeOfReturns : List ApState → ApChange
  | [] => .unknown
  | states => agreedChange (-1) states

/-- The number of visits that suffices for a walk. -/
def visitBound (p : Program) : Nat := 2 * p.statements.length + 1

/-- Walks through the body of the function at position `f`, in at most `visits` visits, and returns
its change. -/
def walkWithin (r : Registry) (resolve : Resolver m) (visits f entry : Nat) (progress : Progress) :
    m (ApChange × Progress) := do
  note (.walk f)
  if entry < r.program.statements.length then
    let (_, progress) ← merge r.program f entry .entry progress
    let w ← walkAll r resolve f visits { pending := [entry], progress := progress }
    let states := w.returns.filterMap fun i => (w.progress.site? i).map (·.state)
    return (changeOfReturns states, w.progress)
  else
    return (.unknown, progress)

/-! ### The whole program -/

/-- Resolves the function at position `f` unless that was done or is going on; `visits` bounds each
walk, and `depth` bounds how deep calls nest. -/
def resolveWithin (r : Registry) (visits : Nat) : Nat → Resolver m
  | 0, _, _ => stop (.exhausted 0)
  | depth + 1, f, progress =>
    match progress.status f, r.program.functions[f]? with
    | .unvisited, some function => do
      let (change, progress) ← walkWithin r (resolveWithin r visits depth) visits f
        function.entry.toNat (progress.setStatus f .visiting)
      return progress.setStatus f (.done change)
    | _, _ => return progress

/-- Resolves some functions in order. -/
def resolveAllWithin (r : Registry) (visits depth : Nat) : List Nat → Progress → m Progress
  | [], progress => return progress
  | f :: fs, progress => do
    let progress ← resolveWithin r visits depth f progress
    resolveAllWithin r visits depth fs progress

/-! The bounds suffice, and nothing is noted. -/

def walk (r : Registry) (resolve : Resolver) (f entry : Nat) (progress : Progress) :
    Except Fault (ApChange × Progress) :=
  walkWithin r resolve (visitBound r.program) f entry progress

def resolve (r : Registry) (depth : Nat) : Resolver :=
  resolveWithin r (visitBound r.program) depth

def resolveAll (r : Registry) (fs : List Nat) (progress : Progress) : Except Fault Progress :=
  resolveAllWithin r (visitBound r.program) (r.program.functions.length + 1) fs progress

end SierraCasm.Ap

namespace SierraCasm

/-- The positions of `ap` in a program: the change of each function and the site of each
statement that a function reaches. -/
structure Metadata where
  changes : List ApChange
  sites : List (Option Ap.Site)
deriving DecidableEq, Repr

namespace Metadata

/-- The change of a function by its status. -/
def changeOfStatus : Ap.Status → ApChange
  | .done change => change
  | _ => .unknown

/-- What the analysis found in the end. -/
def ofProgress (s : Ap.Progress) : Metadata :=
  { changes := s.functions.map changeOfStatus, sites := s.sites }

def site? (m : Metadata) (i : Nat) : Option Ap.Site := m.sites[i]?.join

/-- The position at a reached statement. -/
def state? (m : Metadata) (i : Nat) : Option ApState := (m.site? i).map (·.state)

/-- The position right after branch `b` of a reached statement. -/
def branchState? (m : Metadata) (i b : Nat) : Option ApState := (m.site? i).bind (·.after[b]?)

/-- The function, by its position, whose body contains a statement. -/
def owner? (m : Metadata) (i : Nat) : Option Nat := (m.site? i).map (·.owner)

end Metadata

/-- The positions of `ap` in a program, computed with at most `visits` visits in a walk and calls at
most `depth` deep. -/
def analyzeWithin {m : Type → Type} [Ap.Analyzing m] (r : Registry) (visits depth : Nat) :
    m Metadata := do
  let functions := List.range r.program.functions.length
  let progress ← Ap.resolveAllWithin r visits depth functions (Ap.Progress.start r.program)
  return Metadata.ofProgress progress

/-- Computes the positions of `ap` in a validated program. -/
def analyze (r : Registry) : Except Ap.Fault Metadata :=
  analyzeWithin r (Ap.visitBound r.program) (r.program.functions.length + 1)

end SierraCasm
