import SierraCasm.Json.Parser
import SierraCasm.Proofs.Json.Scanning

/-! # Parsing what is written

The tree that is read from the text of a tree is the tree itself, as it is written (`rendered`):
`parse?_write`.  That tree has the same text (`write_rendered`).  Conversely a tree that is read is
proper (`proper_of_parse?`), so it can be written and read again. -/

namespace SierraCasm.Json

/-! ### Trees as they are written -/

mutual

/-- A tree as it is written: strings with the spelling, arrays and objects with the text they are
written with. -/
def rendered (markup : Bool) : Json → Json
  | .str spelling => .str (escaped markup spelling)
  | .arr text items => .arr (write markup (.arr text items)) (renderedItems markup items)
  | .obj text members => .obj (write markup (.obj text members)) (renderedMembers markup members)
  | j => j

def renderedItems (markup : Bool) : List Json → List Json
  | [] => []
  | j :: items => rendered markup j :: renderedItems markup items

def renderedMembers (markup : Bool) : List (String × Json) → List (String × Json)
  | [] => []
  | (key, j) :: members =>
    (escaped markup key, rendered markup j) :: renderedMembers markup members

end

theorem renderedItems_eq_map (markup : Bool) (items : List Json) :
    renderedItems markup items = items.map (rendered markup) := by
  induction items with
  | nil => rfl
  | cons j items ih => rw [renderedItems, ih, List.map_cons]

theorem renderedMembers_eq_map (markup : Bool) (members : List (String × Json)) :
    renderedMembers markup members =
      members.map fun m => (escaped markup m.1, rendered markup m.2) := by
  induction members with
  | nil => rfl
  | cons m members ih => rw [renderedMembers, ih, List.map_cons]

theorem writeItems_eq_intercalate (markup : Bool) (items : List Json) :
    writeItems markup items = ",".intercalate (items.map (write markup)) := by
  induction items with
  | nil => rfl
  | cons item items ih =>
    cases items with
    | nil => exact String.intercalate_singleton.symm
    | cons next items =>
      have hwrite : writeItems markup (item :: next :: items) =
          write markup item ++ "," ++ writeItems markup (next :: items) := rfl
      rw [hwrite, ih]
      exact String.intercalate_cons_cons.symm

def writeMember (markup : Bool) (m : String × Json) : String :=
  writeString markup m.1 ++ ":" ++ write markup m.2

theorem writeMembers_eq_intercalate (markup : Bool) (members : List (String × Json)) :
    writeMembers markup members = ",".intercalate (members.map (writeMember markup)) := by
  induction members with
  | nil => rfl
  | cons m members ih =>
    obtain ⟨key, value⟩ := m
    cases members with
    | nil => exact String.intercalate_singleton.symm
    | cons next members =>
      have hwrite : writeMembers markup ((key, value) :: next :: members) =
          writeMember markup (key, value) ++ "," ++ writeMembers markup (next :: members) := rfl
      rw [hwrite, ih]
      exact String.intercalate_cons_cons.symm

theorem writeString_escaped (markup : Bool) (s : String) :
    writeString markup (escaped markup s) = writeString markup s :=
  congrArg (fun s => "\"" ++ s ++ "\"") (escaped_escaped markup s)

theorem write_rendered {P : Char → Prop} {n : Nat} {j : Json} (h : Proper P n j) (markup : Bool) :
    write markup (rendered markup j) = write markup j := by
  induction h with
  | null => rfl
  | bool => rfl
  | num => rfl
  | @str _ s => exact writeString_escaped markup s
  | arr _ ih =>
    rw [rendered, write, write, renderedItems_eq_map, writeItems_eq_intercalate,
      writeItems_eq_intercalate, List.map_map]
    exact congrArg (fun texts => "[" ++ ",".intercalate texts ++ "]") (List.map_congr_left ih)
  | obj _ _ ih =>
    rw [rendered, write, write, renderedMembers_eq_map, writeMembers_eq_intercalate,
      writeMembers_eq_intercalate, List.map_map]
    refine congrArg (fun texts => "\x7b" ++ ",".intercalate texts ++ "\x7d")
      (List.map_congr_left fun m hm => ?_)
    show writeString markup (escaped markup m.1) ++ ":" ++ write markup (rendered markup m.2) = _
    rw [writeString_escaped, ih m hm]
    rfl

/-! ### Running the machine on tokens -/

namespace Machine

variable {markup : Bool}

theorem foldlM_of_step {m m' : Machine} {t : Token} (h : m.step t = some m') (ts : List Token) :
    (t :: ts).foldlM step m = ts.foldlM step m' := by
  rw [List.foldlM_cons, h]
  rfl

/-- Wherever a value may start, the tokens of a tree deliver it as it is written, if there is room
for it. -/
def Takes (markup : Bool) (n : Nat) (j : Json) : Prop :=
  ∀ m : Machine, m.wantsValue = true → m.stack.length + n ≤ maxDepth →
    (tokens markup j).foldlM step m =
      some (deliver (rendered markup j) (write markup j).toList.reverse m.stack)

theorem step_word {m : Machine} (hm : m.wantsValue = true) (value : Json) :
    m.step (.word value) = some (deliver value (write false value).toList.reverse m.stack) :=
  if_pos hm

theorem step_str {m : Machine} (hm : m.wantsValue = true) (s : String) :
    m.step (.str s) = some (deliver (.str s) ('"' :: (s.toList.reverse ++ ['"'])) m.stack) :=
  if_pos hm

theorem foldlM_itemTokens {n : Nat} {items : List Json} (hne : items ≠ [])
    (h : ∀ j ∈ items, Takes markup n j) {rest : List Frame}
    (hdepth : rest.length + 1 + n ≤ maxDepth) (t : List Char) (found : List Json) {e : Expect}
    (he : e = .value ∨ e = .itemOrEnd) :
    (itemTokens markup items).foldlM step ⟨.arr t found :: rest, e, none⟩ =
      some ⟨.arr ((writeItems markup items).toList.reverse ++ t)
        ((renderedItems markup items).reverse ++ found) :: rest, .commaOrEnd, none⟩ := by
  induction items generalizing t found e with
  | nil => exact absurd rfl hne
  | cons item items ih =>
    rw [List.forall_mem_cons] at h
    have hwants : wantsValue ⟨.arr t found :: rest, e, none⟩ = true := by
      rcases he with rfl | rfl <;> rfl
    have hitem := h.1 _ hwants hdepth
    cases items with
    | nil => exact hitem
    | cons next items =>
      have hcomma : step (deliver (rendered markup item) (write markup item).toList.reverse
          (.arr t found :: rest)) .comma =
            some ⟨.arr (',' :: ((write markup item).toList.reverse ++ t))
              (rendered markup item :: found) :: rest, .value, none⟩ := rfl
      have hnext := ih (List.cons_ne_nil _ _) h.2 (',' :: ((write markup item).toList.reverse ++ t))
        (rendered markup item :: found) (.inl rfl)
      rw [itemTokens, List.foldlM_append, hitem]
      · refine (foldlM_of_step hcomma _).trans (hnext.trans ?_)
        simp [writeItems, renderedItems]
      · exact fun h => absurd h (List.cons_ne_nil _ _)

theorem foldlM_memberTokens {n : Nat} {members : List (String × Json)} (hne : members ≠ [])
    (h : ∀ m ∈ members, Takes markup n m.2) {rest : List Frame}
    (hdepth : rest.length + 1 + n ≤ maxDepth) (t : List Char) (found : List (String × Json))
    (k : String) {e : Expect} (he : e = .key ∨ e = .keyOrEnd) :
    (memberTokens markup members).foldlM step ⟨.obj t found k :: rest, e, none⟩ =
      some ⟨.obj ((writeMembers markup members).toList.reverse ++ t)
        ((renderedMembers markup members).reverse ++ found) "" :: rest, .commaOrEnd, none⟩ := by
  induction members generalizing t found k e with
  | nil => exact absurd rfl hne
  | cons m members ih =>
    obtain ⟨key, value⟩ := m
    rw [List.forall_mem_cons] at h
    have hkey : step ⟨.obj t found k :: rest, e, none⟩ (.str (escaped markup key)) =
        some ⟨.obj ((writeString markup key).toList.reverse ++ t) found (escaped markup key) ::
          rest, .colon, none⟩ := by
      have htext : (writeString markup key).toList.reverse =
          '"' :: ((escaped markup key).toList.reverse ++ ['"']) := by
        simp [toList_writeString]
      rw [htext]
      rcases he with rfl | rfl <;> rfl
    have hcolon (t : List Char) : step ⟨.obj t found (escaped markup key) :: rest, .colon, none⟩
        .colon = some ⟨.obj (':' :: t) found (escaped markup key) :: rest, .value, none⟩ := rfl
    have hvalue (t : List Char) :=
      h.1 ⟨.obj t found (escaped markup key) :: rest, .value, none⟩ rfl hdepth
    cases members with
    | nil =>
      rw [memberTokens, foldlM_of_step hkey, foldlM_of_step (hcolon _), hvalue]
      simp [deliver, writeMembers, renderedMembers]
    | cons next members =>
      have hcomma (t : List Char) : step (deliver (rendered markup value)
          (write markup value).toList.reverse (.obj t found (escaped markup key) :: rest)) .comma =
            some ⟨.obj (',' :: ((write markup value).toList.reverse ++ t))
              ((escaped markup key, rendered markup value) :: found) "" :: rest, .key, none⟩ := rfl
      rw [memberTokens, foldlM_of_step hkey, foldlM_of_step (hcolon _), List.foldlM_append, hvalue]
      · refine (foldlM_of_step (hcomma _) _).trans
          ((ih (List.cons_ne_nil _ _) h.2 _ _ "" (.inl rfl)).trans ?_)
        simp [writeMembers, renderedMembers]
      · exact fun h => absurd h (List.cons_ne_nil _ _)

theorem foldlM_arr {n : Nat} {items : List Json} (h : ∀ j ∈ items, Takes markup n j) (text : String)
    {stack : List Frame} (hdepth : stack.length + 1 + n ≤ maxDepth) :
    (itemTokens markup items ++ [Token.closeArray]).foldlM step
        ⟨.arr ['['] [] :: stack, .itemOrEnd, none⟩ =
      some (deliver (rendered markup (.arr text items))
        (write markup (.arr text items)).toList.reverse stack) := by
  have hclose {e : Expect} (he : e = .itemOrEnd ∨ e = .commaOrEnd) (t : List Char)
      (found : List Json) : step ⟨.arr t found :: stack, e, none⟩ .closeArray =
        some (deliver (.arr (String.ofList (']' :: t).reverse) found.reverse) (']' :: t)
          stack) := by
    rcases he with rfl | rfl <;> rfl
  have htext : ']' :: ((writeItems markup items).toList.reverse ++ ['[']) =
      (write markup (.arr text items)).toList.reverse := by
    simp [write]
  cases items with
  | nil =>
    refine (foldlM_of_step (hclose (.inl rfl) _ _) []).trans ?_
    rw [show [']', '['] = _ from htext, List.reverse_reverse, String.ofList_toList]
    rfl
  | cons item items =>
    rw [List.foldlM_append,
      foldlM_itemTokens (List.cons_ne_nil _ _) h hdepth ['['] [] (.inr rfl)]
    refine (foldlM_of_step (hclose (.inr rfl) _ _) []).trans ?_
    rw [htext, List.reverse_reverse, String.ofList_toList, List.append_nil, List.reverse_reverse]
    rfl

theorem foldlM_obj {n : Nat} {members : List (String × Json)}
    (h : ∀ m ∈ members, Takes markup n m.2) (text : String) {stack : List Frame}
    (hdepth : stack.length + 1 + n ≤ maxDepth) :
    (memberTokens markup members ++ [Token.closeObject]).foldlM step
        ⟨.obj ['\x7b'] [] "" :: stack, .keyOrEnd, none⟩ =
      some (deliver (rendered markup (.obj text members))
        (write markup (.obj text members)).toList.reverse stack) := by
  have hclose {e : Expect} (he : e = .keyOrEnd ∨ e = .commaOrEnd) (t : List Char)
      (found : List (String × Json)) : step ⟨.obj t found "" :: stack, e, none⟩ .closeObject =
        some (deliver (.obj (String.ofList ('\x7d' :: t).reverse) found.reverse) ('\x7d' :: t)
          stack) := by
    rcases he with rfl | rfl <;> rfl
  have htext : '\x7d' :: ((writeMembers markup members).toList.reverse ++ ['\x7b']) =
      (write markup (.obj text members)).toList.reverse := by
    simp [write]
  cases members with
  | nil =>
    refine (foldlM_of_step (hclose (.inl rfl) _ _) []).trans ?_
    rw [show ['\x7d', '\x7b'] = _ from htext, List.reverse_reverse, String.ofList_toList]
    rfl
  | cons m members =>
    rw [List.foldlM_append,
      foldlM_memberTokens (List.cons_ne_nil _ _) h hdepth ['\x7b'] [] "" (.inr rfl)]
    refine (foldlM_of_step (hclose (.inr rfl) _ _) []).trans ?_
    rw [htext, List.reverse_reverse, String.ofList_toList, List.append_nil, List.reverse_reverse]
    rfl

theorem takes_of_proper {P : Char → Prop} {n : Nat} {j : Json} (h : Proper P n j) :
    Takes markup n j := by
  induction h with
  | null => exact fun m hm _ => foldlM_of_step (step_word hm .null) []
  | @bool _ b => cases b <;> exact fun m hm _ => foldlM_of_step (step_word hm _) []
  | num h => exact fun m hm _ => foldlM_of_step (step_word hm _) []
  | @str _ s h =>
    intro m hm _
    have htext : (write markup (.str s)).toList.reverse =
        '"' :: ((escaped markup s).toList.reverse ++ ['"']) := by
      simp [write, toList_writeString]
    rw [htext]
    exact foldlM_of_step (step_str hm (escaped markup s)) []
  | @arr n text items _ ih =>
    intro m hm hdepth
    have hopen : m.step .openArray = some ⟨.arr ['['] [] :: m.stack, .itemOrEnd, none⟩ := by
      have hroom : m.stack.length < maxDepth := by omega
      simp [step, hm, opened, hroom, reversedText]
    refine (foldlM_of_step hopen _).trans (foldlM_arr ih text ?_)
    omega
  | @obj n text members _ _ ih =>
    intro m hm hdepth
    have hopen : m.step .openObject = some ⟨.obj ['\x7b'] [] "" :: m.stack, .keyOrEnd, none⟩ := by
      have hroom : m.stack.length < maxDepth := by omega
      simp [step, hm, opened, hroom, reversedText]
    refine (foldlM_of_step hopen _).trans (foldlM_obj ih text ?_)
    omega

end Machine

/-- A proper tree is read from its text as it is written. -/
theorem parse?_write {P : Char → Prop} {j : Json} (h : Proper P Machine.maxDepth j)
    (markup : Bool) : parse? (write markup j) = some (rendered markup j) := by
  have htakes : Machine.Takes markup Machine.maxDepth j := Machine.takes_of_proper h
  rw [parse?, (scans_write h).scan_eq]
  show (do let m ← (tokens markup j).foldlM Machine.step {}; m.result) = _
  rw [htakes {} rfl (by simp)]
  rfl

/-! ### What is parsed -/

variable {P : Char → Prop}

/-- What an open array or object holds is proper. -/
def Frame.Sound (P : Char → Prop) (n : Nat) : Frame → Prop
  | .arr _ items => ∀ j ∈ items, Proper P n j
  | .obj _ members key =>
    (∀ m ∈ members, Spells P m.1) ∧ (∀ m ∈ members, Proper P n m.2) ∧ Spells P key

namespace Machine

/-- What is open is proper, with room for what surrounds it. -/
def StackSound (P : Char → Prop) : List Frame → Prop
  | [] => True
  | f :: rest =>
    f.Sound P (maxDepth - (rest.length + 1)) ∧ rest.length < maxDepth ∧ StackSound P rest

/-- All that has been read is proper. -/
structure Sound (P : Char → Prop) (m : Machine) : Prop where
  stack : StackSound P m.stack
  result : ∀ j, m.result = some j → Proper P maxDepth j

theorem StackSound.note {stack : List Frame} (h : StackSound P stack) (text : List Char) :
    StackSound P (Machine.note text stack) := by
  cases stack with
  | nil => exact h
  | cons f rest => cases f <;> exact h

theorem spells_empty : Spells P "" := ⟨.nil, fun _ hc => absurd hc List.not_mem_nil⟩

theorem sound_emptyArr {n : Nat} {t : List Char} : Frame.Sound P n (.arr t []) :=
  fun _ hj => absurd hj List.not_mem_nil

theorem sound_emptyObj {n : Nat} {t : List Char} : Frame.Sound P n (.obj t [] "") :=
  ⟨fun _ hm => absurd hm List.not_mem_nil, fun _ hm => absurd hm List.not_mem_nil, spells_empty⟩

theorem StackSound.deliver {stack : List Frame} (h : StackSound P stack) {value : Json}
    (hvalue : Proper P (maxDepth - stack.length) value) (text : List Char) :
    (Machine.deliver value text stack).Sound P := by
  cases stack with
  | nil => exact ⟨trivial, fun j hj => Option.some.inj hj ▸ hvalue⟩
  | cons f rest =>
    obtain ⟨hframe, hroom, hrest⟩ := h
    cases f with
    | arr t items =>
      exact ⟨⟨List.forall_mem_cons.mpr ⟨hvalue, hframe⟩, hroom, hrest⟩, fun _ hj => by cases hj⟩
    | obj t members key =>
      obtain ⟨hkeys, hmembers, hkey⟩ := hframe
      refine ⟨⟨⟨List.forall_mem_cons.mpr ⟨hkey, hkeys⟩, List.forall_mem_cons.mpr ⟨hvalue, hmembers⟩,
        spells_empty⟩, hroom, hrest⟩, fun _ hj => by cases hj⟩

theorem Sound.opened {m m' : Machine} (hm : m.Sound P) {f : Frame}
    (hf : ∀ n, f.Sound P n) {e : Expect} (h : m.opened f e = some m') : m'.Sound P := by
  unfold Machine.opened at h
  split at h
  case isTrue hroom =>
    cases h
    exact ⟨⟨hf _, hroom, hm.stack⟩, fun _ hj => by cases hj⟩
  case isFalse => cases h

theorem Sound.step {m m' : Machine} (hm : m.Sound P) {t : Token} (ht : t.Sound P)
    (h : m.step t = some m') : m'.Sound P := by
  cases t with
  | blank c =>
    cases h
    exact ⟨hm.stack.note _, hm.result⟩
  | word value =>
    simp only [Machine.step] at h
    split at h
    case isTrue =>
      cases h
      exact hm.stack.deliver (Proper.mono (fun _ hc => hc) ht (Nat.zero_le _)) _
    case isFalse => cases h
  | str spelling =>
    simp only [Machine.step] at h
    split at h
    case isTrue =>
      cases h
      exact hm.stack.deliver (.str ht) _
    case isFalse =>
      split at h
      case isTrue =>
        split at h
        case h_1 t members key rest hstack =>
          cases h
          have hopen := hm.stack
          rw [hstack] at hopen
          obtain ⟨⟨hkeys, hmembers, -⟩, hroom, hrest⟩ := hopen
          exact ⟨⟨⟨hkeys, hmembers, ht⟩, hroom, hrest⟩, fun _ hj => by cases hj⟩
        case h_2 => cases h
      case isFalse => cases h
  | openArray =>
    simp only [Machine.step] at h
    split at h
    case isTrue => exact hm.opened (fun _ => sound_emptyArr) h
    case isFalse => cases h
  | openObject =>
    simp only [Machine.step] at h
    split at h
    case isTrue => exact hm.opened (fun _ => sound_emptyObj) h
    case isFalse => cases h
  | colon =>
    simp only [Machine.step] at h
    split at h
    case isTrue =>
      cases h
      exact ⟨hm.stack.note _, fun _ hj => by cases hj⟩
    case isFalse => cases h
  | comma =>
    simp only [Machine.step] at h
    split at h
    case isTrue =>
      split at h
      case h_1 => cases h
      all_goals
        cases h
        exact ⟨hm.stack.note _, fun _ hj => by cases hj⟩
    case isFalse => cases h
  | closeArray =>
    simp only [Machine.step] at h
    split at h
    case h_1 t items rest hstack =>
      split at h
      case isTrue =>
        cases h
        have hopen := hm.stack
        rw [hstack] at hopen
        obtain ⟨hitems, hroom, hrest⟩ := hopen
        refine hrest.deliver ?_ _
        rw [show maxDepth - rest.length = maxDepth - (rest.length + 1) + 1 by omega]
        exact .arr fun j hj => hitems j (List.mem_reverse.mp hj)
      case isFalse => cases h
    case h_2 => cases h
  | closeObject =>
    simp only [Machine.step] at h
    split at h
    case h_1 t members key rest hstack =>
      split at h
      case isTrue =>
        cases h
        have hopen := hm.stack
        rw [hstack] at hopen
        obtain ⟨⟨hkeys, hmembers, -⟩, hroom, hrest⟩ := hopen
        refine hrest.deliver ?_ _
        rw [show maxDepth - rest.length = maxDepth - (rest.length + 1) + 1 by omega]
        exact .obj (fun m hm => hkeys m (List.mem_reverse.mp hm))
          fun m hm => hmembers m (List.mem_reverse.mp hm)
      case isFalse => cases h
    case h_2 => cases h

theorem Sound.foldlM {ts : List Token} (hts : ∀ t ∈ ts, t.Sound P) {m m' : Machine}
    (hm : m.Sound P) (h : ts.foldlM Machine.step m = some m') : m'.Sound P := by
  induction ts generalizing m with
  | nil =>
    cases h
    exact hm
  | cons t ts ih =>
    rw [List.forall_mem_cons] at hts
    rw [List.foldlM_cons] at h
    obtain ⟨next, hnext, h⟩ := Option.bind_eq_some_iff.mp h
    exact ih hts.2 (hm.step hts.1 hnext) h

end Machine

theorem proper_of_parse? {s : String} (hs : ∀ c ∈ s.toList, P c) {j : Json}
    (h : parse? s = some j) : Proper P Machine.maxDepth j := by
  obtain ⟨ts, hts, h⟩ := Option.bind_eq_some_iff.mp h
  obtain ⟨m, hm, hresult⟩ := Option.bind_eq_some_iff.mp h
  have hstart : Machine.Sound P {} := ⟨trivial, fun _ hj => by cases hj⟩
  exact (hstart.foldlM (sound_of_scan hs hts) hm).result j hresult

end SierraCasm.Json
