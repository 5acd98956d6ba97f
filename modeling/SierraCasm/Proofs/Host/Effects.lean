import SierraCasm.Host.FileSystem
import SierraCasm.Proofs.Host.Paths

/-! # What operations change in a file system

A path is resolved to the location where its names lead, and every location on the way is a
directory (`walk_eq_ok`).  Making directories adds directories where there was nothing, each where
a leading part of the path leads (`makeDirs_adds`), and writing a file changes one location
(`writeFile_eq_ok`).  `Deposit` says what both leave behind together: the file, and directories on
the way to it. -/

namespace SierraCasm.FileSystem

open SierraCasm.Path

/-! ### Locations -/

theorem node?_put_self (fs : FileSystem) {location : List String} (h : location ≠ []) (node : Node) :
    (fs.put location node).node? location = some node := by
  have hnone : ((fs.entries.filter fun e => e.1 != location).find? fun e => e.1 == location) =
      none := by
    simp [List.find?_eq_none]
  simp [node?, put, h, List.find?_append, hnone]

theorem node?_put_of_ne (fs : FileSystem) {l location : List String} (h : l ≠ location)
    (node : Node) : (fs.put location node).node? l = fs.node? l := by
  have hfind : ((fs.entries.filter fun e => e.1 != location).find? fun e => e.1 == l) =
      fs.entries.find? fun e => e.1 == l := by
    rw [List.find?_filter]
    congr 1
    funext e
    by_cases he : e.1 = l
    · simp [he, h]
    · simp [he]
  have hlast : (location == l) = false := by simpa using fun h' => h h'.symm
  simp [node?, put, List.find?_append, hfind, hlast]

/-- All locations that enclose a location are directories, and so is the location. -/
def Rooted (fs : FileSystem) (location : List String) : Prop :=
  ∀ l, l <+: location → fs.node? l = some .directory

theorem Rooted.nil (fs : FileSystem) : fs.Rooted [] := by
  intro l hl
  rw [List.prefix_nil.mp hl]
  rfl

theorem Rooted.self {fs : FileSystem} {location : List String} (h : fs.Rooted location) :
    fs.node? location = some .directory := h location List.prefix_rfl

/-- Whatever is a directory in one file system is one in another. -/
def KeepsDirectories (fs fs' : FileSystem) : Prop :=
  ∀ l, fs.node? l = some .directory → fs'.node? l = some .directory

/-! ### Walking -/

theorem enter_eq_ok {fs : FileSystem} {location next : List String}
    (h : fs.enter location = .ok next) : next = location ∧ fs.node? location = some .directory := by
  unfold enter at h
  split at h
  · rename_i hnode
    cases h
    exact ⟨rfl, hnode⟩
  · cases h
  · cases h

theorem follow_eq_ok {location next : List String} {name : String}
    (h : follow location name = .ok next) : next = lead location name := by
  unfold follow at h
  unfold lead
  split at h
  · rename_i hdot
    cases h
    rw [if_pos hdot]
  · rename_i hdot
    rw [if_neg hdot]
    split at h
    · rename_i hdots
      cases h
      rw [if_pos hdots]
    · rename_i hdots
      rw [if_neg hdots]
      split at h
      · cases h
      · cases h
        rfl

theorem walk_cons_cons {fs : FileSystem} {location : List String} {name next : String}
    {ns : List String} {l : List String} :
    fs.walk location (name :: next :: ns) = .ok l ↔
      follow location name = .ok (lead location name) ∧
        fs.node? (lead location name) = some .directory ∧
        fs.walk (lead location name) (next :: ns) = .ok l := by
  rw [walk, bind_eq_ok]
  constructor
  · rintro ⟨first, hfirst, h⟩
    obtain ⟨entered, hentered, h⟩ := bind_eq_ok.mp h
    cases follow_eq_ok hfirst
    obtain ⟨rfl, hnode⟩ := enter_eq_ok hentered
    exact ⟨hfirst, hnode, h⟩
  · rintro ⟨hfirst, hnode, h⟩
    exact ⟨_, hfirst, bind_eq_ok.mpr ⟨_, by rw [enter, hnode], h⟩⟩
  · exact List.cons_ne_nil next ns

theorem walk_eq_ok {fs : FileSystem} {location l : List String} {ns : List String}
    (h : fs.walk location ns = .ok l) : l = leads location ns := by
  induction ns generalizing location with
  | nil =>
    cases h
    rfl
  | cons name ns ih =>
    cases ns with
    | nil => exact follow_eq_ok h
    | cons next ns => exact ih (walk_cons_cons.mp h).2.2

theorem KeepsDirectories.walk {fs fs' : FileSystem} (hkeeps : fs.KeepsDirectories fs')
    {location l : List String} {ns : List String} (h : fs.walk location ns = .ok l) :
    fs'.walk location ns = .ok l := by
  induction ns generalizing location with
  | nil => exact h
  | cons name ns ih =>
    cases ns with
    | nil => exact h
    | cons next ns =>
      obtain ⟨hfollow, hnode, h⟩ := walk_cons_cons.mp h
      exact walk_cons_cons.mpr ⟨hfollow, hkeeps _ hnode, ih h⟩

theorem Rooted.lead {fs : FileSystem} {location : List String} (h : fs.Rooted location)
    {name : String} (hnode : fs.node? (lead location name) = some .directory) :
    fs.Rooted (Path.lead location name) := by
  intro l hl
  unfold Path.lead at hl hnode
  split at hl
  · exact h l hl
  · rename_i hdot
    rw [if_neg hdot] at hnode
    split at hl
    · exact h l (hl.trans (List.dropLast_prefix location))
    · rename_i hdots
      rw [if_neg hdots] at hnode
      rcases List.prefix_concat_iff.mp hl with rfl | hl
      · exact hnode
      · exact h l hl

/-- Every location on a walk is a directory; only the last name may lead to something else. -/
theorem Rooted.walk {fs : FileSystem} {location l : List String} {init : List String}
    {base : String} (h : fs.Rooted location) (hwalk : fs.walk location (init ++ [base]) = .ok l) :
    fs.Rooted (leads location init) ∧ l = Path.lead (leads location init) base := by
  induction init generalizing location with
  | nil => exact ⟨h, follow_eq_ok hwalk⟩
  | cons name init ih =>
    have hcons : ∃ next rest, init ++ [base] = next :: rest := by
      cases init with
      | nil => exact ⟨base, [], rfl⟩
      | cons next rest => exact ⟨next, rest ++ [base], rfl⟩
    obtain ⟨next, rest, hrest⟩ := hcons
    rw [List.cons_append, hrest] at hwalk
    obtain ⟨-, hnode, hwalk⟩ := walk_cons_cons.mp hwalk
    rw [← hrest] at hwalk
    exact ih (h.lead hnode) hwalk

/-- From a directory, only a name that goes down leads to what is not a directory. -/
theorem Rooted.prefix_lead {fs : FileSystem} {location : List String} (h : fs.Rooted location)
    {name : String} (hnode : fs.node? (Path.lead location name) ≠ some .directory) :
    location <+: Path.lead location name := by
  unfold Path.lead at hnode ⊢
  split at hnode
  · exact absurd h.self hnode
  · rename_i hdot
    rw [if_neg hdot]
    split at hnode
    · exact absurd (h _ (List.dropLast_prefix location)) hnode
    · rename_i hdots
      rw [if_neg hdots]
      exact List.prefix_append location [name]

/-- Where the names of a path start. -/
def start (fs : FileSystem) (path : String) : List String :=
  if isAbsolute path then [] else fs.workingDirectory

theorem resolve_eq_ok {fs : FileSystem} {path : String} {l : List String}
    (h : fs.resolve path = .ok l) :
    path.toList ≠ [] ∧ fs.walk (fs.start path) (names path) = .ok l := by
  unfold resolve at h
  split at h
  · cases h
  · rename_i hempty
    split at h
    · cases h
    · split at h
      · cases h
      · exact ⟨fun hnil => hempty (by simp [String.toList_eq_nil_iff.mp hnil]), h⟩

theorem KeepsDirectories.resolve {fs fs' : FileSystem} (hkeeps : fs.KeepsDirectories fs')
    (hworking : fs'.workingDirectory = fs.workingDirectory) {path : String} {l : List String}
    (h : fs.resolve path = .ok l) : fs'.resolve path = .ok l := by
  have hwalk := (resolve_eq_ok h).2
  unfold FileSystem.resolve at h ⊢
  split at h
  · cases h
  · split at h
    · cases h
    · split at h
      · cases h
      · simp only [*, if_false]
        exact hkeeps.walk h

/-! ### Making directories -/

/-- A file system has more directories than another one, at certain locations, and nothing else has
changed. -/
structure Adds (fs fs' : FileSystem) (P : List String → Prop) : Prop where
  workingDirectory : fs'.workingDirectory = fs.workingDirectory
  node : ∀ l, fs'.node? l = fs.node? l ∨
    fs.node? l = none ∧ fs'.node? l = some .directory ∧ P l

namespace Adds

variable {fs fs' fs'' : FileSystem} {P Q : List String → Prop}

theorem refl (fs : FileSystem) (P : List String → Prop) : fs.Adds fs P :=
  ⟨rfl, fun _ => .inl rfl⟩

theorem mono (h : fs.Adds fs' P) (hPQ : ∀ l, P l → Q l) : fs.Adds fs' Q :=
  ⟨h.workingDirectory, fun l => (h.node l).imp_right fun ⟨hn, hd, hP⟩ => ⟨hn, hd, hPQ l hP⟩⟩

theorem trans (h : fs.Adds fs' P) (h' : fs'.Adds fs'' P) : fs.Adds fs'' P := by
  refine ⟨h'.workingDirectory.trans h.workingDirectory, fun l => ?_⟩
  rcases h'.node l with hsame | ⟨hnone, hdir, hP⟩
  · rw [hsame]
    exact h.node l
  · rcases h.node l with hsame | ⟨-, hdir', -⟩
    · exact .inr ⟨hsame ▸ hnone, hdir, hP⟩
    · rw [hnone] at hdir'
      cases hdir'

theorem keepsDirectories (h : fs.Adds fs' P) : fs.KeepsDirectories fs' := by
  intro l hl
  rcases h.node l with hsame | ⟨hnone, -, -⟩
  · rw [hsame, hl]
  · rw [hl] at hnone
    cases hnone

theorem put {location : List String} (hnone : fs.node? location = none) :
    fs.Adds (fs.put location .directory) (· = location) := by
  refine ⟨rfl, fun l => ?_⟩
  by_cases hl : l = location
  · subst hl
    have hne : l ≠ [] := by
      rintro rfl
      cases hnone
    exact .inr ⟨hnone, fs.node?_put_self hne _, rfl⟩
  · exact .inl (fs.node?_put_of_ne hl _)

end Adds

theorem makeDir_eq_ok {fs fs' : FileSystem} {path : String} (h : makeDir path fs = .ok fs') :
    ∃ l, fs.resolve path = .ok l ∧ fs.node? l = none ∧ fs' = fs.put l .directory := by
  unfold makeDir at h
  split at h
  · cases h
  · rename_i l hresolve
    split at h
    · cases h
    · rename_i hnone
      cases h
      exact ⟨l, hresolve, hnone, rfl⟩

theorem makeDirsFrom_cons_eq_ok {absolute : Bool} {fs fs' : FileSystem} {name : String}
    {parents : List String} (h : makeDirsFrom absolute fs (name :: parents) = (.ok (), fs')) :
    fs' = fs ∨ ∃ fs₁, makeDirsFrom absolute fs parents = (.ok (), fs₁) ∧
      makeDir (ofNames absolute (name :: parents).reverse) fs₁ = .ok fs' := by
  rw [makeDirsFrom] at h
  cases hlookup : fs.lookup (ofNames absolute (name :: parents).reverse) with
  | ok node =>
    rw [hlookup] at h
    cases node with
    | directory => exact .inl (Prod.mk.inj h).2.symm
    | file contents => cases (Prod.mk.inj h).1
  | error reason =>
    rw [hlookup] at h
    rcases hparents : makeDirsFrom absolute fs parents with ⟨result, fs₁⟩
    rw [hparents] at h
    cases result with
    | error e => cases (Prod.mk.inj h).1
    | ok =>
      cases hmake : makeDir (ofNames absolute (name :: parents).reverse) fs₁ with
      | error e =>
        simp only [hmake] at h
        cases (Prod.mk.inj h).1
      | ok fs₂ =>
        simp only [hmake] at h
        rw [← (Prod.mk.inj h).2]
        exact .inr ⟨fs₁, rfl, hmake⟩

/-- Directories are made where leading parts of the names lead. -/
theorem makeDirsFrom_adds {absolute : Bool} {fs fs' : FileSystem} {ns : List String}
    (hns : ∀ name ∈ ns, IsName name) (h : makeDirsFrom absolute fs ns = (.ok (), fs')) :
    fs.Adds fs' fun l => ∃ part, part <+: ns.reverse ∧
      l = leads (if absolute then [] else fs.workingDirectory) part := by
  induction ns generalizing fs' with
  | nil =>
    cases h
    exact .refl fs _
  | cons name parents ih =>
    have hnames : ∀ n ∈ (name :: parents).reverse, IsName n :=
      fun n hn => hns n (List.mem_reverse.mp hn)
    rcases makeDirsFrom_cons_eq_ok h with rfl | ⟨fs₁, hparents, hmake⟩
    · exact .refl _ _
    · have hadds := ih (List.forall_mem_cons.mp hns).2 hparents
      obtain ⟨l, hresolve, hnone, rfl⟩ := makeDir_eq_ok hmake
      have hl := walk_eq_ok (resolve_eq_ok hresolve).2
      rw [start, isAbsolute_ofNames absolute hnames, names_ofNames absolute hnames,
        hadds.workingDirectory] at hl
      refine (hadds.mono ?_).trans ((Adds.put hnone).mono ?_)
      · rintro _ ⟨part, hpart, rfl⟩
        rw [List.reverse_cons]
        exact ⟨part, hpart.trans (List.prefix_append _ _), rfl⟩
      · rintro _ rfl
        exact ⟨_, List.prefix_rfl, hl⟩

theorem makeDirs_adds {fs fs' : FileSystem} {path : String}
    (h : fs.makeDirs path = (.ok (), fs')) :
    fs.Adds fs' fun l => ∃ part, part <+: names path ∧ l = leads (fs.start path) part := by
  have hns : ∀ name ∈ (names path).reverse, IsName name :=
    fun name hname => isName_of_mem_names (List.mem_reverse.mp hname)
  have hadds := makeDirsFrom_adds hns h
  rw [List.reverse_reverse] at hadds
  exact hadds

/-! ### Writing files -/

theorem writeFile_eq_ok {fs fs' : FileSystem} {path text : String}
    (h : writeFile path text fs = .ok fs') :
    ∃ l, fs.resolve path = .ok l ∧ fs.node? l ≠ some .directory ∧ endsInSlash path = false ∧
      fs' = fs.put l (.file text.toUTF8) := by
  unfold writeFile at h
  split at h
  · cases h
  · rename_i l hresolve
    split at h
    · cases h
    · cases h
    · cases h
    · rename_i hslash hnot
      cases h
      exact ⟨l, hresolve, fun hdir => hnot hdir, hslash, rfl⟩

/-- A text was put into a file, and directories were made on the way to it.  Nothing else has
changed. -/
structure Deposit (before after : FileSystem) (path text : String) (location : List String) :
    Prop where
  /-- the path leads to the location of the file -/
  resolve : after.resolve path = .ok location
  /-- the file holds the text -/
  read : after.readFile path = .ok text.toUTF8
  workingDirectory : after.workingDirectory = before.workingDirectory
  /-- what changed elsewhere are missing directories, each where a leading part of the directory of
  the path leads -/
  made : ∀ l ≠ location, after.node? l = before.node? l ∨
    before.node? l = none ∧ after.node? l = some .directory ∧
      ∃ part, part <+: names (directory path) ∧ l = leads (before.start (directory path)) part
  /-- they enclose the location of the file, if the working directory is there -/
  enclosing : before.Rooted before.workingDirectory → ∀ l ≠ location,
    after.node? l ≠ before.node? l → l <+: location

theorem deposit_of_writeFile {fs fs₁ fs₂ : FileSystem} {path text : String}
    (hmake : fs.makeDirs (directory path) = (.ok (), fs₁))
    (hwrite : writeFile path text fs₁ = .ok fs₂) : ∃ l, fs.Deposit fs₂ path text l := by
  have hadds := makeDirs_adds hmake
  obtain ⟨location, hresolve, hfile, hslash, rfl⟩ := writeFile_eq_ok hwrite
  obtain ⟨hempty, hwalk⟩ := resolve_eq_ok hresolve
  obtain ⟨habsolute, init, base, hnames, hparts⟩ := directory_spec hempty hslash
  have hne : location ≠ [] := by
    rintro rfl
    exact hfile rfl
  have hkeeps : fs₁.KeepsDirectories (fs₁.put location (.file text.toUTF8)) := by
    intro l hl
    rwa [fs₁.node?_put_of_ne (by rintro rfl; exact hfile hl)]
  have hresolve' := hkeeps.resolve rfl hresolve
  refine ⟨location, hresolve', ?_, hadds.workingDirectory, fun l hl => ?_, fun hrooted l hl hnode => ?_⟩
  · rw [readFile, lookup, hresolve']
    simp only [bind, Except.bind, fs₁.node?_put_self hne, hslash]
    rfl
  · rw [fs₁.node?_put_of_ne hl]
    exact hadds.node l
  · rw [fs₁.node?_put_of_ne hl] at hnode
    obtain ⟨hnone, -, part, hpart, rfl⟩ := (hadds.node l).resolve_left hnode
    have hstart : fs.Rooted (fs.start path) := by
      rw [start]
      split
      · exact .nil fs
      · exact hrooted
    have hstart₁ : fs₁.Rooted (fs.start path) :=
      fun l hl => hadds.keepsDirectories l (hstart l hl)
    have hsame : fs.start (directory path) = fs.start path := by rw [start, start, habsolute]
    have hsame₁ : fs₁.start path = fs.start path := by
      rw [start, start, hadds.workingDirectory]
    rw [hsame₁, hnames] at hwalk
    obtain ⟨hdirectory, rfl⟩ := hstart₁.walk hwalk
    rw [hsame] at hnone ⊢
    have hroot : isAbsolute path = true → fs.start path = [] := fun h => by rw [start, if_pos h]
    rcases hparts hroot hpart with hup | hdown
    · rw [hstart _ hup] at hnone
      cases hnone
    · exact hdown.trans (hdirectory.prefix_lead hfile)

end SierraCasm.FileSystem
