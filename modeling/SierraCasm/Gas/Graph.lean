import SierraCasm.Ascending

/-! # Strongly connected components

`Graph.components` lists the strongly connected components of a finite graph by one depth-first
search, each component after those that it leads to.  The index of a node is its place in the
order of discovery.  A node closes a component when nothing found below it leads to a node that
was discovered earlier and is still open; the open nodes form a stack, and the component is its
upper part down to that node. -/

namespace SierraCasm

/-- A finite graph: its nodes, and the successors of each. -/
structure Graph (α : Type) where
  nodes : List α
  succ : α → List α

namespace Graph

variable {α : Type} [DecidableEq α]

/-- The state of a search: the nodes discovered, in order, the open nodes, the newest first, and
the components closed so far. -/
structure Search (α : Type) where
  discovered : List α := []
  stack : List α := []
  components : List (List α) := []
deriving DecidableEq, Repr

namespace Search

/-- The place of a node in the order of discovery. -/
def index (s : Search α) (v : α) : Nat := s.discovered.idxOf v

def discover (s : Search α) (v : α) : Search α :=
  { s with discovered := s.discovered ++ [v], stack := v :: s.stack }

/-- Closes the component of the open nodes down to `v`. -/
def close (s : Search α) (v : α) : Search α :=
  { s with
    stack := (s.stack.dropWhile (· != v)).drop 1
    components := s.components ++ [s.stack.takeWhile (· != v) ++ [v]] }

end Search

/-- Searches below a new node; also returns the lowest index of an open node that was found. -/
abbrev Explorer (α : Type) := α → Search α → Nat × Search α

/-- Follows edges to some nodes; `low` is the lowest index found so far. -/
def follow (explore : Explorer α) : List α → Nat → Search α → Nat × Search α
  | [], low, s => (low, s)
  | w :: ws, low, s =>
    if w ∈ s.discovered then
      follow explore ws (if w ∈ s.stack then min low (s.index w) else low) s
    else
      let (below, s) := explore w s
      follow explore ws (min low below) s

/-- Searches below a new node, at most `depth` edges deep. -/
def connect (g : Graph α) : Nat → Explorer α
  | 0, _, s => (s.discovered.length, s)
  | depth + 1, v, s =>
    let root := s.discovered.length
    let (low, s) := follow (connect g depth) (g.succ v) root (s.discover v)
    (low, if low = root then s.close v else s)

/-- Searches from the nodes that no search has reached. -/
def searchAll (g : Graph α) : List α → Search α → Search α
  | [], s => s
  | v :: vs, s =>
    searchAll g vs (if v ∈ s.discovered then s else (connect g (g.nodes.length + 1) v s).2)

/-- The strongly connected components.  A path of new nodes is never longer than there are nodes,
so the depth of the search is bounded by their number. -/
def components (g : Graph α) : List (List α) := (searchAll g g.nodes {}).components

/-- A component is a cycle if it has two nodes or an edge to itself. -/
def isCycle (g : Graph α) : List α → Bool
  | [] => false
  | [v] => v ∈ g.succ v
  | _ => true

/-- The cyclic components, each ascending. -/
def cycles (g : Graph Nat) : List (List Nat) :=
  (g.components.filter g.isCycle).map Ascending.ofList

/-- Of two ascending lists the one that starts lower. -/
def lower (c d : List Nat) : List Nat := if c.headD 0 ≤ d.headD 0 then c else d

/-- The ascending list, among some, that starts lowest. -/
def lowest : List (List Nat) → Option (List Nat)
  | [] => none
  | c :: cs => some (cs.foldl lower c)

/-- The cyclic component with the lowest node. -/
def lowestCycle (g : Graph Nat) : Option (List Nat) := lowest g.cycles

end Graph

end SierraCasm
