import Mathlib.Data.List.TakeWhile
import SierraCasm.Path

/-! # Where paths lead

A path is read as the names between its slashes (`Path.names`).  Without looking at a file system,
names lead from one location to another: `.` stays, `..` goes up, and any other name goes down
(`Path.leads`).  Cleaning a path keeps where it leads, and what is left goes up some steps and then
down (`Tidy`), so every part of it leads somewhere on the way (`leads_prefix_of_clean`). -/

namespace SierraCasm.Path

/-! ### Names -/

/-- The names in a text. -/
def segments (cs : List Char) : List String :=
  ((splitSlashes cs).filter (!·.isEmpty)).map String.ofList

theorem names_eq (path : String) : names path = segments path.toList := rfl

/-- A name is not empty and has no slash. -/
def IsName (name : String) : Prop := name.toList ≠ [] ∧ '/' ∉ name.toList

theorem splitSlashes_ne_nil (cs : List Char) : splitSlashes cs ≠ [] := by
  cases cs with
  | nil => simp [splitSlashes]
  | cons c cs =>
    simp only [splitSlashes]
    split
    · simp
    · cases splitSlashes cs <;> simp [consName]

theorem splitSlashes_append (as bs : List Char) :
    splitSlashes (as ++ '/' :: bs) = splitSlashes as ++ splitSlashes bs := by
  induction as with
  | nil => simp [splitSlashes]
  | cons c as ih =>
    simp only [List.cons_append, splitSlashes, ih]
    split
    · rfl
    · cases h : splitSlashes as with
      | nil => exact absurd h (splitSlashes_ne_nil as)
      | cons name names => rfl

theorem splitSlashes_of_not_mem {cs : List Char} (h : '/' ∉ cs) : splitSlashes cs = [cs] := by
  induction cs with
  | nil => rfl
  | cons c cs ih =>
    rw [List.mem_cons, not_or] at h
    rw [splitSlashes, if_neg (Ne.symm h.1), ih h.2, consName]

theorem not_mem_of_mem_splitSlashes {cs part : List Char} (h : part ∈ splitSlashes cs) :
    '/' ∉ part := by
  induction cs generalizing part with
  | nil =>
    cases List.mem_singleton.mp h
    exact List.not_mem_nil
  | cons c cs ih =>
    simp only [splitSlashes] at h
    split at h
    · rcases List.mem_cons.mp h with rfl | h
      · exact List.not_mem_nil
      · exact ih h
    · rename_i hc
      cases hsplit : splitSlashes cs with
      | nil => exact absurd hsplit (splitSlashes_ne_nil cs)
      | cons name names =>
        rw [hsplit] at h ih
        rcases List.mem_cons.mp h with rfl | h
        · rw [List.mem_cons, not_or]
          exact ⟨fun h => hc h.symm, ih List.mem_cons_self⟩
        · exact ih (List.mem_cons_of_mem name h)

theorem segments_append (as bs : List Char) :
    segments (as ++ '/' :: bs) = segments as ++ segments bs := by
  simp only [segments, splitSlashes_append, List.filter_append, List.map_append]

@[simp] theorem segments_nil : segments [] = [] := rfl

theorem segments_of_isName {name : String} (h : IsName name) : segments name.toList = [name] := by
  simp [segments, splitSlashes_of_not_mem h.2, h.1]

theorem isName_of_mem_names {path name : String} (h : name ∈ names path) : IsName name := by
  obtain ⟨part, hpart, rfl⟩ := List.mem_map.mp h
  obtain ⟨hmem, hne⟩ := List.mem_filter.mp hpart
  rw [IsName, String.toList_ofList]
  exact ⟨by simpa using hne, not_mem_of_mem_splitSlashes hmem⟩

/-! ### Paths from names -/

theorem toList_ofNames (absolute : Bool) (ns : List String) :
    (ofNames absolute ns).toList =
      (if absolute then ['/'] else []) ++ ['/'].intercalate (ns.map String.toList) := by
  cases absolute <;> simp [ofNames]

theorem segments_intercalate {ns : List String} (h : ∀ name ∈ ns, IsName name) :
    segments (['/'].intercalate (ns.map String.toList)) = ns := by
  induction ns with
  | nil => rfl
  | cons name ns ih =>
    obtain ⟨hname, hrest⟩ := List.forall_mem_cons.mp h
    cases ns with
    | nil => simpa using segments_of_isName hname
    | cons next ns =>
      have hsplit : ['/'].intercalate ((name :: next :: ns).map String.toList) =
          name.toList ++ '/' :: ['/'].intercalate ((next :: ns).map String.toList) := by
        simp [List.intercalate]
      rw [hsplit, segments_append, segments_of_isName hname, ih hrest]
      rfl

theorem names_ofNames (absolute : Bool) {ns : List String} (h : ∀ name ∈ ns, IsName name) :
    names (ofNames absolute ns) = ns := by
  rw [names_eq, toList_ofNames]
  cases absolute with
  | false => exact segments_intercalate h
  | true =>
    have hsplit := segments_append [] (['/'].intercalate (ns.map String.toList))
    rw [segments_nil, List.nil_append, List.nil_append, segments_intercalate h] at hsplit
    exact hsplit

theorem isAbsolute_ofNames (absolute : Bool) {ns : List String} (h : ∀ name ∈ ns, IsName name) :
    isAbsolute (ofNames absolute ns) = absolute := by
  rw [isAbsolute, toList_ofNames]
  cases absolute with
  | true => rfl
  | false =>
    cases ns with
    | nil => rfl
    | cons name ns =>
      obtain ⟨hne, hslash⟩ := h name List.mem_cons_self
      obtain ⟨c, cs, hcs⟩ := List.exists_cons_of_ne_nil hne
      have hc : c ≠ '/' := fun hc => hslash (by rw [hcs, hc]; exact List.mem_cons_self)
      cases ns with
      | nil => simp [hcs, hc]
      | cons next ns => simp [List.intercalate, hcs, hc]

/-! ### Where names lead -/

/-- Where a name leads from a location. -/
def lead (location : List String) (name : String) : List String :=
  if name = "." then location
  else if name = ".." then location.dropLast
  else location ++ [name]

/-- Where names lead from a location. -/
def leads (location : List String) (ns : List String) : List String := ns.foldl lead location

@[simp] theorem leads_nil (location : List String) : leads location [] = location := rfl

@[simp] theorem leads_cons (location : List String) (name : String) (ns : List String) :
    leads location (name :: ns) = leads (lead location name) ns := rfl

theorem leads_append (location : List String) (ns ns' : List String) :
    leads location (ns ++ ns') = leads (leads location ns) ns' := List.foldl_append

/-- A name that goes down. -/
def GoesDown (name : String) : Prop := name ≠ "." ∧ name ≠ ".."

theorem lead_of_goesDown {name : String} (h : GoesDown name) (location : List String) :
    lead location name = location ++ [name] := by
  rw [lead, if_neg h.1, if_neg h.2]

/-- Going up leads to a location that encloses the first one. -/
theorem leads_replicate_prefix (location : List String) (n : Nat) :
    leads location (List.replicate n "..") <+: location := by
  induction n generalizing location with
  | zero => exact List.prefix_rfl
  | succ n ih => exact (ih location.dropLast).trans (List.dropLast_prefix location)

/-! ### Clean paths -/

/-- Names, last first, that go up some steps, none from the root, and then down. -/
inductive Tidy (absolute : Bool) : List String → Prop
  | up (n : Nat) : (absolute = true → n = 0) → Tidy absolute (List.replicate n "..")
  | down {name : String} {before : List String} : GoesDown name → Tidy absolute before →
      Tidy absolute (name :: before)

theorem Tidy.nil (absolute : Bool) : Tidy absolute [] := .up 0 fun _ => rfl

section clean

variable {absolute : Bool} {before : List String}

theorem Tidy.cleanStep (h : Tidy absolute before) (name : String) :
    Tidy absolute (Path.cleanStep absolute before name) := by
  unfold Path.cleanStep
  split
  · exact h
  · rename_i hdot
    split
    · cases h with
      | down hname hbefore => simpa [hname.2] using hbefore
      | up n hroot =>
        cases absolute with
        | true =>
          cases hroot rfl
          exact .nil true
        | false =>
          cases n with
          | zero => exact .up 1 (by simp)
          | succ n =>
            simp only [List.replicate_succ, if_true]
            exact .up (n + 2) (by simp)
    · rename_i hdots
      exact .down ⟨hdot, hdots⟩ h

theorem Tidy.leads_cleanStep (h : Tidy absolute before) {start : List String}
    (hstart : absolute = true → start = []) (name : String) :
    leads start (Path.cleanStep absolute before name).reverse =
      lead (leads start before.reverse) name := by
  unfold Path.cleanStep lead
  split
  · rfl
  · rename_i hdot
    split
    · cases h with
      | down hname hbefore =>
        simp [hname.2, leads_append, lead_of_goesDown hname]
      | up n hroot =>
        cases n with
        | zero =>
          cases absolute with
          | true => simp [hstart rfl]
          | false => simp [lead]
        | succ n => simp [List.replicate_succ, leads_append, lead]
    · rename_i hdots
      simp [leads_append, lead, hdot, hdots]

theorem Tidy.foldl_cleanStep (h : Tidy absolute before) {start : List String}
    (hstart : absolute = true → start = []) (ns : List String) :
    Tidy absolute (ns.foldl (Path.cleanStep absolute) before) ∧
      leads start (ns.foldl (Path.cleanStep absolute) before).reverse =
        leads (leads start before.reverse) ns := by
  induction ns generalizing before with
  | nil => exact ⟨h, rfl⟩
  | cons name ns ih =>
    rw [List.foldl_cons, leads_cons, ← h.leads_cleanStep hstart]
    exact ih (h.cleanStep name)

/-- What a leading part of tidy names leads to encloses the start or what all of them lead to. -/
theorem Tidy.leads_prefix (h : Tidy absolute before) (start : List String) {part : List String}
    (hpart : part <+: before.reverse) :
    leads start part <+: start ∨ leads start part <+: leads start before.reverse := by
  induction h with
  | up n _ =>
    left
    rw [List.reverse_replicate, List.prefix_replicate_iff] at hpart
    rw [hpart.2]
    exact leads_replicate_prefix start _
  | @down name before hname _ ih =>
    rw [List.reverse_cons] at hpart ⊢
    rcases List.prefix_concat_iff.mp hpart with rfl | hpart
    · exact .inr List.prefix_rfl
    · refine (ih hpart).imp_right fun hprefix => hprefix.trans ?_
      rw [leads_append, leads_cons, leads_nil, lead_of_goesDown hname]
      exact List.prefix_append _ _

theorem mem_cleanStep {name n : String} (h : n ∈ Path.cleanStep absolute before name) :
    n = ".." ∨ n = name ∨ n ∈ before := by
  unfold Path.cleanStep at h
  split at h
  · exact .inr (.inr h)
  · split at h
    · split at h
      · split at h <;> simp_all
      · split at h
        · exact (List.mem_cons.mp h).imp_right .inr
        · exact .inr (.inr (List.mem_cons_of_mem _ h))
    · exact .inr (List.mem_cons.mp h)

theorem isName_foldl_cleanStep {ns : List String} (hbefore : ∀ name ∈ before, IsName name)
    (hns : ∀ name ∈ ns, IsName name) :
    ∀ name ∈ ns.foldl (Path.cleanStep absolute) before, IsName name := by
  induction ns generalizing before with
  | nil => exact hbefore
  | cons name ns ih =>
    obtain ⟨hname, hrest⟩ := List.forall_mem_cons.mp hns
    refine ih (fun n hn => ?_) hrest
    rcases mem_cleanStep hn with rfl | rfl | hn
    · exact ⟨by decide, by decide⟩
    · exact hname
    · exact hbefore n hn

end clean

theorem isName_of_mem_cleaned (path : String) :
    ∀ name ∈ ((names path).foldl (cleanStep (isAbsolute path)) []).reverse, IsName name := by
  intro name hname
  exact isName_foldl_cleanStep (by simp) (fun _ => isName_of_mem_names) name
    (List.mem_reverse.mp hname)

theorem isAbsolute_clean (path : String) : isAbsolute (clean path) = isAbsolute path := by
  simp only [clean]
  split
  · rename_i hempty
    rw [Bool.and_eq_true, Bool.not_eq_true'] at hempty
    rw [hempty.2]
    rfl
  · exact isAbsolute_ofNames _ (isName_of_mem_cleaned path)

/-- What a leading part of a clean path leads to encloses the start or what the path leads to. -/
theorem leads_prefix_of_clean (path : String) {start : List String}
    (hstart : isAbsolute path = true → start = []) {part : List String}
    (hpart : part <+: names (clean path)) :
    leads start part <+: start ∨ leads start part <+: leads start (names path) := by
  obtain ⟨htidy, hleads⟩ := (Tidy.nil (isAbsolute path)).foldl_cleanStep hstart (names path)
  simp only [clean] at hpart
  split at hpart
  · left
    have hdot : names "." = ["."] := by decide +kernel
    rw [hdot] at hpart
    rcases List.prefix_cons_iff.mp hpart with rfl | ⟨rest, rfl, hrest⟩
    · exact List.prefix_rfl
    · rw [List.prefix_nil.mp hrest]
      exact List.prefix_rfl
  · rw [names_ofNames _ (isName_of_mem_cleaned path)] at hpart
    rw [List.reverse_nil, leads_nil] at hleads
    rw [← hleads]
    exact htidy.leads_prefix start hpart

/-! ### The directory of a path -/

/-- A path that does not end in a slash has a last name.  The directory of the path starts where the
path does, and its leading parts lead to locations that enclose the start or what the names before
the last one lead to. -/
theorem directory_spec {path : String} (hempty : path.toList ≠ [])
    (hslash : endsInSlash path = false) :
    isAbsolute (directory path) = isAbsolute path ∧ ∃ init base, names path = init ++ [base] ∧
      ∀ {start part : List String}, (isAbsolute path = true → start = []) →
        part <+: names (directory path) →
        leads start part <+: start ∨ leads start part <+: leads start init := by
  let front := (path.toList.reverse.dropWhile (· != '/')).reverse
  let base := (path.toList.reverse.takeWhile (· != '/')).reverse
  have hpath : path.toList = front ++ base := by
    rw [← List.reverse_append, List.takeWhile_append_dropWhile, List.reverse_reverse]
  have hbase : '/' ∉ base := by
    intro hmem
    have hne := List.mem_takeWhile_imp (List.mem_reverse.mp hmem)
    simp at hne
  have hfront : front = [] ∨ ∃ before, front = before ++ ['/'] := by
    cases hdrop : path.toList.reverse.dropWhile (· != '/') with
    | nil => exact .inl (by simp [front, hdrop])
    | cons c cs =>
      have hhead := List.head_dropWhile_not (· != '/') (l := path.toList.reverse) (by simp [hdrop])
      simp only [hdrop, List.head_cons, bne_eq_false_iff_eq] at hhead
      exact .inr ⟨cs.reverse, by simp [front, hdrop, hhead]⟩
  have hne : base ≠ [] := by
    rintro hnil
    rw [hnil, List.append_nil] at hpath
    rcases hfront with hfront | ⟨before, hfront⟩
    · exact hempty (hpath.trans hfront)
    · rw [endsInSlash, hpath, hfront] at hslash
      simp at hslash
  have hname : IsName (String.ofList base) := by
    rw [IsName, String.toList_ofList]
    exact ⟨hne, hbase⟩
  have hsegments : segments base = [String.ofList base] := by
    rw [← segments_of_isName hname, String.toList_ofList]
  have hdirectory : directory path = clean (String.ofList front) := rfl
  have habsolute : isAbsolute (String.ofList front) = isAbsolute path := by
    rw [isAbsolute, isAbsolute, hpath, String.toList_ofList]
    rcases hfront with hfront | ⟨before, hfront⟩
    · obtain ⟨c, cs, hcs⟩ := List.exists_cons_of_ne_nil hne
      have hc : c ≠ '/' := fun hc => hbase (by rw [hcs, hc]; exact List.mem_cons_self)
      simp [hfront, hcs, hc]
    · cases before <;> simp [hfront]
  refine ⟨by rw [hdirectory, isAbsolute_clean, habsolute], names (String.ofList front),
    String.ofList base, ?_, ?_⟩
  · rw [names_eq, names_eq, hpath, String.toList_ofList, ← hsegments]
    rcases hfront with hfront | ⟨before, hfront⟩
    · rw [hfront, List.nil_append, segments_nil, List.nil_append]
    · rw [hfront, List.append_assoc, List.singleton_append, segments_append, segments_append,
        segments_nil, List.append_nil]
  · intro start part hstart hpart
    rw [hdirectory] at hpart
    rw [← habsolute] at hstart
    exact leads_prefix_of_clean _ hstart hpart

end SierraCasm.Path
