import Mathlib.Data.List.Nodup
import Mathlib.Logic.Relation
import SierraCasm.Proofs.Gas.Components

/-! # Components are strongly connected

A component is the set of the nodes that reach one of its nodes and are reached from it
(`mem_component_iff`), and no node is in two components (`components_nodup`).  So the search gives
the condensation of the graph, in reverse topological order (`isCondensation_components`).

One half is the order of components: whatever a component reaches is in it or in an earlier one.
For the other half the search keeps paths (`Linked`).  While it is below a node `v`, every open node
reaches `v`.  A node that is left open reaches a node that was open before, since otherwise the
component would have been closed; so when `v` closes its component, everything above it on the
stack reaches `v`, and was found from `v`. -/

namespace SierraCasm.Graph

open Relation

variable {α : Type} {g : Graph α}

/-- A path leads from one node to another. -/
def Reaches (g : Graph α) : α → α → Prop := ReflTransGen fun v w => w ∈ g.succ v

/-- A path leads from a node back to it. -/
def OnCycle (g : Graph α) (v : α) : Prop := TransGen (fun v w => w ∈ g.succ v) v v

/-- Paths lead between two nodes both ways. -/
def Mutual (g : Graph α) (v w : α) : Prop := g.Reaches v w ∧ g.Reaches w v

theorem Reaches.edge {u v w : α} (h : g.Reaches u v) (hw : w ∈ g.succ v) : g.Reaches u w :=
  ReflTransGen.tail h hw

theorem reaches_of_edge {v w : α} (hw : w ∈ g.succ v) : g.Reaches v w := .single hw

theorem Reaches.mem_nodes {v w : α} (hclosed : g.Closed) (h : g.Reaches v w)
    (hv : v ∈ g.nodes) : w ∈ g.nodes := by
  induction h with
  | refl => exact hv
  | tail _ hw ih => exact hclosed _ ih _ hw

theorem Topological.edge {cs before after : List (List α)} {c : List α} {v w : α}
    (h : Topological g cs) (hcs : cs = before ++ c :: after) (hv : v ∈ c) (hw : w ∈ g.succ v) :
    w ∈ c ∨ ∃ d ∈ before, w ∈ d := by
  induction h generalizing after with
  | nil => simp at hcs
  | @snoc cs last _ hlast ih =>
    rcases List.eq_nil_or_concat after with rfl | ⟨after, d, rfl⟩
    · obtain ⟨rfl, hc⟩ := List.append_inj' hcs rfl
      cases hc
      exact hlast v hv w hw
    · rw [List.concat_eq_append, ← List.cons_append, ← List.append_assoc] at hcs
      exact ih (List.append_inj' hcs rfl).1

theorem Topological.reaches {cs before after : List (List α)} {c : List α} {v w : α}
    (h : Topological g cs) (hcs : cs = before ++ c :: after) (hv : v ∈ c) (hreach : g.Reaches v w) :
    w ∈ c ∨ ∃ d ∈ before, w ∈ d := by
  induction hreach with
  | refl => exact .inl hv
  | tail _ hw ih =>
    rcases ih with hu | ⟨d, hd, hu⟩
    · exact h.edge hcs hu hw
    · obtain ⟨before', between, rfl⟩ := List.append_of_mem hd
      rw [List.append_assoc, List.cons_append] at hcs
      rcases h.edge hcs hu hw with hw | ⟨e, he, hw⟩
      · exact .inr ⟨d, hd, hw⟩
      · exact .inr ⟨e, List.mem_append_left _ he, hw⟩

/-- Where no node is listed twice, no edge leads to a later list. -/
theorem Topological.backward {cs : List (List α)} (h : Topological g cs)
    (hnodup : cs.flatten.Nodup) :
    cs.Pairwise fun c d => ∀ v ∈ c, ∀ w ∈ d, w ∉ g.succ v := by
  induction h with
  | nil => exact .nil
  | @snoc cs last hcs _ ih =>
    rw [List.flatten_append, List.flatten_singleton, List.nodup_append] at hnodup
    obtain ⟨hbefore, -, hdisjoint⟩ := hnodup
    rw [List.pairwise_append]
    refine ⟨ih hbefore, List.pairwise_singleton _ _, ?_⟩
    intro c hc d hd v hv w hw hedge
    rw [List.mem_singleton.mp hd] at hw
    -- The edge stays among the earlier lists, and its end is in the last one too.
    have hearlier : w ∈ cs.flatten := by
      obtain ⟨before, after, hsplit⟩ := List.append_of_mem hc
      rcases hcs.edge hsplit hv hedge with hw' | ⟨e, he, hw'⟩
      · exact List.mem_flatten.mpr ⟨c, hc, hw'⟩
      · refine List.mem_flatten.mpr ⟨e, ?_, hw'⟩
        rw [hsplit]
        exact List.mem_append_left _ he
    exact hdisjoint w hearlier w hw rfl

/-! ### Paths kept by the search -/

/-- Every discovered node is open or in one component, and only once; from each node of a component
a path leads to each. -/
structure Search.Grouped (g : Graph α) (s : Search α) : Prop where
  nodup : s.discovered.Nodup
  perm : (s.stack ++ s.components.flatten).Perm s.discovered
  connected : ∀ c ∈ s.components, ∀ v ∈ c, ∀ w ∈ c, g.Reaches v w

namespace Search.Grouped

variable {s : Search α} {v : α}

theorem discover (h : s.Grouped g) (hv : v ∉ s.discovered) : (s.discover v).Grouped g where
  nodup := List.nodup_append.mpr ⟨h.nodup, List.nodup_singleton v, fun a ha b hb hab => by
    rw [List.mem_singleton.mp hb] at hab
    exact hv (hab ▸ ha)⟩
  perm := (h.perm.cons v).trans (List.perm_append_singleton v s.discovered).symm
  connected := h.connected

variable [DecidableEq α] in
theorem close {new rest : List α} (h : s.Grouped g) (hstack : s.stack = new ++ v :: rest)
    (hv : v ∉ new) (hconnected : ∀ u ∈ new ++ [v], ∀ w ∈ new ++ [v], g.Reaches u w) :
    (s.close v).Grouped g := by
  rw [close_eq hstack hv]
  refine ⟨h.nodup, ?_, fun c hc => ?_⟩
  · have hsplit : s.stack = (new ++ [v]) ++ rest := by rw [hstack]; simp
    calc (rest ++ (s.components ++ [new ++ [v]]).flatten).Perm
          ((rest ++ s.components.flatten) ++ (new ++ [v])) := by simp
      _ |>.Perm ((new ++ [v]) ++ (rest ++ s.components.flatten)) := List.perm_append_comm
      _ |>.Perm (s.stack ++ s.components.flatten) := by rw [hsplit, ← List.append_assoc]
      _ |>.Perm s.discovered := h.perm
  · rcases List.mem_append.mp hc with hc | hc
    · exact h.connected c hc
    · rw [List.mem_singleton.mp hc]
      exact hconnected

end Search.Grouped

variable [DecidableEq α]

/-- What a search from a new node `v` of `s` leaves open was open before or is reached from `v`, and
reaches a node that was open before.  If the index that it returns is an older one, it is that of an
open node which `v` reaches. -/
structure Linked (g : Graph α) (v : α) (s s' : Search α) (low : Nat) : Prop where
  grouped : s'.Grouped g
  found : ∀ u ∈ s'.stack, u ∈ s.stack ∨ g.Reaches v u
  back : ∀ u ∈ s'.stack, ∃ x ∈ s.stack, g.Reaches u x
  low_open : low < s.discovered.length → ∃ x ∈ s.stack, s.index x = low ∧ g.Reaches v x

/-- An explorer keeps paths below every new node that all open nodes reach. -/
def Explorer.Links (g : Graph α) (bound : Nat) (explore : Explorer α) : Prop :=
  ∀ v s, v ∈ g.nodes → v ∉ s.discovered → s.Inv g → s.fresh g ≤ bound → s.Grouped g →
    (∀ u ∈ s.stack, g.Reaches u v) → Linked g v s (explore v s).2 (explore v s).1

/-- What following edges of an open node `v` leaves open reaches `v`, and was open before or is
reached from `v`. -/
structure FollowedFrom (g : Graph α) (v : α) (low₀ : Nat) (s s' : Search α) (low : Nat) : Prop where
  grouped : s'.Grouped g
  found : ∀ u ∈ s'.stack, u ∈ s.stack ∨ g.Reaches v u
  back : ∀ u ∈ s'.stack, g.Reaches u v
  low_open : low < low₀ → ∃ x ∈ s.stack, s.index x = low ∧ g.Reaches v x

theorem follow_links {bound : Nat} {explore : Explorer α} (hsound : explore.Sound g bound)
    (hlinks : explore.Links g bound) {v : α} {ws : List α} {low₀ : Nat} {s : Search α}
    (hws : ∀ w ∈ ws, w ∈ g.succ v) (hnodes : ∀ w ∈ ws, w ∈ g.nodes) (hinv : s.Inv g)
    (hfresh : s.fresh g ≤ bound) (hgrouped : s.Grouped g) (hback : ∀ u ∈ s.stack, g.Reaches u v)
    (hlow : low₀ < s.discovered.length) :
    FollowedFrom g v low₀ s (follow explore ws low₀ s).2 (follow explore ws low₀ s).1 := by
  induction ws generalizing low₀ s with
  | nil => exact ⟨hgrouped, fun _ => .inl, hback, fun h => absurd h (Nat.lt_irrefl _)⟩
  | cons w ws ih =>
    obtain ⟨hw, hws⟩ := List.forall_mem_cons.mp hws
    obtain ⟨hnode, hnodes⟩ := List.forall_mem_cons.mp hnodes
    rw [follow]
    split
    · -- An edge to an open node may lower the index, and then it leads to that node.
      generalize hlow₁ : (if w ∈ s.stack then min low₀ (s.index w) else low₀) = low₁
      obtain ⟨hle, -, hless⟩ := Search.lowered hlow₁
      have h := ih hws hnodes hinv hfresh hgrouped hback (Nat.lt_of_le_of_lt hle hlow)
      refine ⟨h.grouped, h.found, h.back, fun hlt => ?_⟩
      by_cases hlt₁ : (follow explore ws low₁ s).1 < low₁
      · exact h.low_open hlt₁
      · have heq := Nat.le_antisymm
          (follow_sound hsound hnodes hinv hfresh (Nat.lt_of_le_of_lt hle hlow)).low_le
          (Nat.not_lt.mp hlt₁)
        rw [heq] at hlt ⊢
        obtain ⟨hstack, hindex⟩ := hless hlt
        exact ⟨w, hstack, hindex, reaches_of_edge hw⟩
    · rename_i hnew
      obtain ⟨hexplored, -⟩ := hsound w s hnode hnew hinv hfresh
      have hlinked := hlinks w s hnode hnew hinv hfresh hgrouped fun u hu => (hback u hu).edge hw
      generalize explore w s = result at hexplored hlinked ⊢
      obtain ⟨below, s₁⟩ := result
      dsimp only at hexplored hlinked ⊢
      obtain ⟨new, hdiscovered⟩ := hexplored.grows.discovered
      have hlow₁ : min low₀ below < s₁.discovered.length := by
        rw [hdiscovered, List.length_append]
        omega
      have hfresh₁ := Nat.le_trans hexplored.grows.fresh_le hfresh
      have hback₁ : ∀ u ∈ s₁.stack, g.Reaches u v := by
        intro u hu
        obtain ⟨x, hx, hux⟩ := hlinked.back u hu
        exact hux.trans (hback x hx)
      have h := ih hws hnodes hexplored.inv hfresh₁ hlinked.grouped hback₁ hlow₁
      refine ⟨h.grouped, fun u hu => ?_, h.back, fun hlt => ?_⟩
      · rcases h.found u hu with hu | hu
        · exact (hlinked.found u hu).imp_right (reaches_of_edge hw).trans
        · exact .inr hu
      · have hle := (follow_sound hsound hnodes hexplored.inv hfresh₁ hlow₁).low_le
        by_cases hlt₁ : (follow explore ws (min low₀ below) s₁).1 < min low₀ below
        · obtain ⟨x, hx, hindex, hreach⟩ := h.low_open hlt₁
          obtain ⟨hx', hindex'⟩ := hexplored.grows.mem_stack_of_index_lt hinv hx (by omega)
          exact ⟨x, hx', by omega, hreach⟩
        · obtain ⟨x, hx, hindex, hreach⟩ := hlinked.low_open (by omega)
          exact ⟨x, hx, by omega, (reaches_of_edge hw).trans hreach⟩

section node

variable {v : α} {s s₁ : Search α} {low : Nat}
  (h : FollowedFrom g v s.discovered.length (s.discover v) s₁ low)
include h

/-- What is open below a new node was open before or is reached from the node. -/
theorem FollowedFrom.found_below : ∀ u ∈ s₁.stack, u ∈ s.stack ∨ g.Reaches v u := by
  intro u hu
  rcases h.found u hu with hu | hu
  · rcases List.mem_cons.mp hu with rfl | hu
    · exact .inr .refl
    · exact .inl hu
  · exact .inr hu

/-- Paths lead from each node of the new part of the stack to each. -/
theorem FollowedFrom.connected {new : List α} (hstack : s₁.stack = new ++ v :: s.stack)
    (hnew : ∀ u ∈ new ++ [v], u ∉ s.stack) :
    ∀ u ∈ new ++ [v], ∀ w ∈ new ++ [v], g.Reaches u w := by
  have hmem : ∀ u ∈ new ++ [v], u ∈ s₁.stack := by
    intro u hu
    rw [hstack, ← List.singleton_append, ← List.append_assoc]
    exact List.mem_append_left _ hu
  intro u hu w hw
  exact (h.back u (hmem u hu)).trans ((h.found_below w (hmem w hw)).resolve_left (hnew w hw))

theorem FollowedFrom.exists_older (hinv : s.Inv g) (hv : v ∉ s.discovered)
    (hless : low < s.discovered.length) : ∃ x ∈ s.stack, s.index x = low ∧ g.Reaches v x := by
  obtain ⟨x, hx, hindex, hreach⟩ := h.low_open hless
  rcases List.mem_cons.mp hx with rfl | hx
  · have hle : s.discovered.length ≤ (s.discover x).index x := Search.length_le_index rfl hv
    omega
  · refine ⟨x, hx, ?_, hreach⟩
    rw [← hindex]
    exact (Search.index_discover (hinv.stack x hx)).symm

end node

/-- A search keeps paths, as long as its depth covers the nodes that are left. -/
theorem connect_links (hclosed : g.Closed) (depth : Nat) :
    Explorer.Links g depth (connect g depth) := by
  induction depth with
  | zero =>
    intro v s hnode hv hinv hfresh
    have := Search.fresh_discover_lt hnode hv
    omega
  | succ depth ih =>
    intro v s hnode hv hinv hfresh hgrouped hback
    have hlt : s.discovered.length < (s.discover v).discovered.length := by
      simp [Search.discover]
    have hinv₁ := Search.inv_discover hinv v
    have hfresh₁ : (s.discover v).fresh g ≤ depth :=
      Nat.le_of_lt_succ (Nat.lt_of_lt_of_le (Search.fresh_discover_lt hnode hv) hfresh)
    have hback₁ : ∀ u ∈ (s.discover v).stack, g.Reaches u v :=
      List.forall_mem_cons.mpr ⟨.refl, hback⟩
    have hfollow := follow_sound (connect_sound hclosed depth) (hclosed v hnode) hinv₁ hfresh₁ hlt
    have hlinked := follow_links (connect_sound hclosed depth) ih (fun _ hw => hw)
      (hclosed v hnode) hinv₁ hfresh₁ (hgrouped.discover hv) hback₁ hlt
    rw [connect]
    generalize follow (connect g depth) (g.succ v) s.discovered.length (s.discover v) = result
      at hfollow hlinked ⊢
    obtain ⟨low, s₁⟩ := result
    dsimp only at hfollow hlinked ⊢
    obtain ⟨new, hstack, hvnew, hopen⟩ := hfollow.left_open hinv hv
    by_cases hroot : low = s.discovered.length
    · have hnew : ∀ u ∈ new ++ [v], u ∉ s.stack :=
        fun u hu hold => (hopen u hu).1 (hinv.stack u hold)
      have hgrouped' := hlinked.grouped.close hstack hvnew (hlinked.connected hstack hnew)
      rw [if_pos hroot]
      rw [Search.close_eq hstack hvnew] at hgrouped' ⊢
      exact ⟨hgrouped', fun u hu => .inl hu, fun u hu => ⟨u, hu, .refl⟩, fun h => by omega⟩
    · rw [if_neg hroot]
      have holder := hlinked.exists_older hinv hv (Nat.lt_of_le_of_ne hfollow.low_le hroot)
      refine ⟨hlinked.grouped, hlinked.found_below, fun u hu => ?_, fun _ => holder⟩
      obtain ⟨x, hx, -, hreach⟩ := holder
      exact ⟨x, hx, (hlinked.back u hu).trans hreach⟩

theorem searchAll_grouped (hclosed : g.Closed) {vs : List α} {s : Search α}
    (hnodes : ∀ v ∈ vs, v ∈ g.nodes) (hinv : s.Inv g) (hstack : s.stack = [])
    (hgrouped : s.Grouped g) : (searchAll g vs s).Grouped g := by
  induction vs generalizing s with
  | nil => exact hgrouped
  | cons v vs ih =>
    obtain ⟨hnode, hnodes⟩ := List.forall_mem_cons.mp hnodes
    rw [searchAll]
    split
    · exact ih hnodes hinv hstack hgrouped
    · rename_i hv
      have hfresh : s.fresh g ≤ g.nodes.length + 1 :=
        Nat.le_trans (List.length_filter_le _ _) (Nat.le_succ _)
      have hlinked := connect_links hclosed _ v s hnode hv hinv hfresh hgrouped (by simp [hstack])
      have hstack₁ : (connect g (g.nodes.length + 1) v s).2.stack = [] := by
        refine List.eq_nil_iff_forall_not_mem.mpr fun u hu => ?_
        obtain ⟨x, hx, -⟩ := hlinked.back u hu
        rw [hstack] at hx
        cases hx
      exact ih hnodes (connect_sound hclosed _ v s hnode hv hinv hfresh).1.inv hstack₁
        hlinked.grouped

theorem search_grouped (hclosed : g.Closed) : (searchAll g g.nodes {}).Grouped g :=
  searchAll_grouped hclosed (fun _ h => h) ⟨by simp, by simp, .nil⟩ rfl
    ⟨List.nodup_nil, .refl _, by simp⟩

/-! ### Components -/

theorem components_nodup (hclosed : g.Closed) : g.components.flatten.Nodup := by
  have h := search_grouped hclosed
  have hperm := h.perm
  rw [(search_sound hclosed).2.1, List.nil_append] at hperm
  exact hperm.nodup_iff.mpr h.nodup

/-- The component of a node is made of the nodes that it reaches and that reach it. -/
theorem mem_component_iff (hclosed : g.Closed) {c : List α} (hc : c ∈ g.components) {v w : α}
    (hv : v ∈ c) : w ∈ c ↔ g.Mutual v w := by
  have hconnected := (search_grouped hclosed).connected c hc
  refine ⟨fun hw => ⟨hconnected v hv w hw, hconnected w hw v hv⟩, ?_⟩
  rintro ⟨hvw, hwv⟩
  obtain ⟨before, after, hcs⟩ := List.append_of_mem hc
  have htopological := components_topological hclosed
  rcases htopological.reaches hcs hv hvw with hw | ⟨d, hd, hw⟩
  · exact hw
  · -- If `w` were in an earlier component, so would `v` be, which is in this one.
    have hearlier : v ∈ before.flatten := by
      obtain ⟨before', between, rfl⟩ := List.append_of_mem hd
      rw [List.append_assoc, List.cons_append] at hcs
      rcases htopological.reaches hcs hw hwv with hv' | ⟨e, he, hv'⟩
      · exact List.mem_flatten.mpr ⟨d, hd, hv'⟩
      · exact List.mem_flatten.mpr ⟨e, List.mem_append_left _ he, hv'⟩
    have hnodup := components_nodup hclosed
    rw [hcs, List.flatten_append, List.nodup_append] at hnodup
    exact absurd rfl (hnodup.2.2 v hearlier v (List.mem_flatten.mpr ⟨c, List.mem_cons_self, hv⟩))

/-! ### The condensation -/

/-- Some lists are the strongly connected components of a graph, each after those that it leads
to: every node is in exactly one of them and only once, two nodes are together exactly if paths
lead between them both ways, and no edge leads from a list to a later one. -/
structure IsCondensation (g : Graph α) (cs : List (List α)) : Prop where
  perm : cs.flatten.Perm g.nodes
  ne_nil : ∀ c ∈ cs, c ≠ []
  together_iff : ∀ v ∈ g.nodes, ∀ w ∈ g.nodes, (∃ c ∈ cs, v ∈ c ∧ w ∈ c) ↔ g.Mutual v w
  backward : cs.Pairwise fun c d => ∀ v ∈ c, ∀ w ∈ d, w ∉ g.succ v

theorem components_perm (hdistinct : g.nodes.Nodup) (hclosed : g.Closed) :
    g.components.flatten.Perm g.nodes := by
  rw [List.perm_ext_iff_of_nodup (components_nodup hclosed) hdistinct]
  intro v
  rw [List.mem_flatten]
  constructor
  · rintro ⟨c, hc, hv⟩
    exact component_within hclosed hc hv
  · exact mem_components hclosed

/-- The search finds the strongly connected components, in reverse topological order. -/
theorem isCondensation_components (hdistinct : g.nodes.Nodup) (hclosed : g.Closed) :
    g.IsCondensation g.components where
  perm := components_perm hdistinct hclosed
  ne_nil _ hc := component_ne_nil hclosed hc
  together_iff v hv w hw := by
    constructor
    · rintro ⟨c, hc, hvc, hwc⟩
      exact (mem_component_iff hclosed hc hvc).mp hwc
    · intro hmutual
      obtain ⟨c, hc, hvc⟩ := mem_components hclosed hv
      exact ⟨c, hc, hvc, (mem_component_iff hclosed hc hvc).mpr hmutual⟩
  backward := (components_topological hclosed).backward (components_nodup hclosed)

/-- Node `5` leads into a cycle through `2`, `8` and `3`, with a chord and a second way in from `6`;
the cycle leads to the loop at `1`. -/
def loopBehindCycle : Graph Nat where
  nodes := [5, 2, 8, 3, 6, 1]
  succ v :=
    if v = 5 then [2]
    else if v = 2 then [8, 3]
    else if v = 8 then [3, 1]
    else if v = 3 then [2]
    else if v = 6 then [8, 5]
    else [1]

/-- The cycle is one component; it is found before the nodes that lead to it, and after the loop. -/
theorem isCondensation_loopBehindCycle :
    loopBehindCycle.nodes.Nodup ∧ loopBehindCycle.Closed ∧
      loopBehindCycle.IsCondensation [[1], [3, 8, 2], [5], [6]] := by
  have hdistinct : loopBehindCycle.nodes.Nodup := by decide
  have hclosed : loopBehindCycle.Closed := by
    unfold Closed
    decide
  have hcomponents : loopBehindCycle.components = [[1], [3, 8, 2], [5], [6]] := by decide
  rw [← hcomponents]
  exact ⟨hdistinct, hclosed, isCondensation_components hdistinct hclosed⟩

/-! ### Cycles -/

/-- A component is a cycle exactly if its nodes lie on cycles. -/
theorem isCycle_iff (hclosed : g.Closed) {c : List α} (hc : c ∈ g.components) {v : α}
    (hv : v ∈ c) : g.isCycle c = true ↔ g.OnCycle v := by
  have hmem := fun w => mem_component_iff (w := w) hclosed hc hv
  cases c with
  | nil => cases hv
  | cons a rest =>
    cases rest with
    | nil =>
      obtain rfl := List.mem_singleton.mp hv
      rw [isCycle, decide_eq_true_eq]
      refine ⟨fun hloop => .single hloop, fun hcycle => ?_⟩
      -- The first node of the path reaches back, so it is the node itself.
      obtain ⟨w, hw, hback⟩ := TransGen.head'_iff.mp hcycle
      obtain rfl := List.mem_singleton.mp ((hmem w).mpr ⟨reaches_of_edge hw, hback⟩)
      exact hw
    | cons b rest =>
      refine iff_of_true rfl ?_
      obtain ⟨w, hw, hne⟩ : ∃ w ∈ a :: b :: rest, w ≠ v := by
        have hab : a ≠ b := by
          have hnodup := (List.nodup_flatten.mp (components_nodup hclosed)).1 _ hc
          exact fun heq => (List.nodup_cons.mp hnodup).1 (heq ▸ List.mem_cons_self)
        by_cases hav : a = v
        · exact ⟨b, by simp, fun hbv => hab (hav.trans hbv.symm)⟩
        · exact ⟨a, List.mem_cons_self, hav⟩
      obtain ⟨hvw, hwv⟩ := (hmem w).mp hw
      rcases reflTransGen_iff_eq_or_transGen.mp hvw with heq | hpath
      · exact absurd heq hne
      · exact hpath.trans_left hwv

section lowest

variable {g : Graph Nat}

theorem mem_cycles_iff {d : List Nat} :
    d ∈ g.cycles ↔ ∃ c ∈ g.components, g.isCycle c = true ∧ Ascending.ofList c = d := by
  simp only [cycles, List.mem_map, List.mem_filter, and_assoc]

theorem headD_lowest_le {cs : List (List Nat)} {c : List Nat} (h : lowest cs = some c) :
    ∀ d ∈ cs, c.headD 0 ≤ d.headD 0 := by
  cases cs with
  | nil => cases h
  | cons first rest =>
    cases h
    have hlower : ∀ a b : List Nat,
        (lower a b).headD 0 ≤ a.headD 0 ∧ (lower a b).headD 0 ≤ b.headD 0 := by
      intro a b
      unfold lower
      split <;> omega
    have hfold : ∀ (ds : List (List Nat)) (a : List Nat),
        (ds.foldl lower a).headD 0 ≤ a.headD 0 ∧
          ∀ d ∈ ds, (ds.foldl lower a).headD 0 ≤ d.headD 0 := by
      intro ds
      induction ds with
      | nil => simp
      | cons b ds ih =>
        intro a
        rw [List.foldl_cons]
        obtain ⟨hfirst, hrest⟩ := ih (lower a b)
        obtain ⟨ha, hb⟩ := hlower a b
        exact ⟨Nat.le_trans hfirst ha,
          List.forall_mem_cons.mpr ⟨Nat.le_trans hfirst hb, hrest⟩⟩
    exact List.forall_mem_cons.mpr ⟨(hfold rest first).1, (hfold rest first).2⟩

/-- There is no lowest cycle exactly if no node lies on a cycle. -/
theorem lowestCycle_eq_none_iff (hclosed : g.Closed) :
    g.lowestCycle = none ↔ ∀ v ∈ g.nodes, ¬ g.OnCycle v := by
  constructor
  · intro hnone v hv hcycle
    obtain ⟨c, hc, hvc⟩ := mem_components hclosed hv
    have hmem : Ascending.ofList c ∈ g.cycles :=
      mem_cycles_iff.mpr ⟨c, hc, (isCycle_iff hclosed hc hvc).mpr hcycle, rfl⟩
    rw [lowest_eq_none hnone] at hmem
    cases hmem
  · intro hacyclic
    cases hlowest : g.lowestCycle with
    | none => rfl
    | some d =>
      obtain ⟨c, hc, hcycle, -⟩ := mem_cycles_iff.mp (lowest_mem hlowest)
      obtain ⟨v, rest, rfl⟩ : ∃ v rest, c = v :: rest := by
        cases c with
        | nil => cases hcycle
        | cons v rest => exact ⟨v, rest, rfl⟩
      exact absurd ((isCycle_iff hclosed hc List.mem_cons_self).mp hcycle)
        (hacyclic v (component_within hclosed hc List.mem_cons_self))

/-- The lowest cycle starts with the lowest node that lies on a cycle, and is made of the nodes
that this one reaches and is reached from, in ascending order. -/
theorem lowestCycle_eq_some (hclosed : g.Closed) {d : List Nat} (h : g.lowestCycle = some d) :
    d.Pairwise (· < ·) ∧ ∃ v ∈ g.nodes, d.head? = some v ∧ g.OnCycle v ∧
      (∀ w ∈ g.nodes, g.OnCycle w → v ≤ w) ∧ ∀ w, w ∈ d ↔ g.Mutual v w := by
  obtain ⟨c, hc, hcycle, rfl⟩ := mem_cycles_iff.mp (lowest_mem h)
  have hsorted := Ascending.pairwise_ofList c
  obtain ⟨hne, -⟩ := lowestCycle_within hclosed h
  obtain ⟨v, rest, hd⟩ := List.exists_cons_of_ne_nil hne
  have hmem : ∀ w, w ∈ c ↔ w ∈ v :: rest := by
    intro w
    rw [← hd, Ascending.mem_ofList]
  have hv : v ∈ c := (hmem v).mpr List.mem_cons_self
  refine ⟨hsorted, v, component_within hclosed hc hv, by rw [hd]; rfl,
    (isCycle_iff hclosed hc hv).mp hcycle, fun w hw hwcycle => ?_, fun w => ?_⟩
  · -- The cycle of `w` starts at `w` or below, and not below the lowest.
    obtain ⟨e, he, hwe⟩ := mem_components hclosed hw
    have hle := headD_lowest_le h _
      (mem_cycles_iff.mpr ⟨e, he, (isCycle_iff hclosed he hwe).mpr hwcycle, rfl⟩)
    rw [hd, List.headD_cons] at hle
    have hwmem := (Ascending.mem_ofList w e).mpr hwe
    have hesorted := Ascending.pairwise_ofList e
    cases hlist : Ascending.ofList e with
    | nil =>
      rw [hlist] at hwmem
      cases hwmem
    | cons first others =>
      rw [hlist] at hle hwmem hesorted
      rw [List.headD_cons] at hle
      rcases List.mem_cons.mp hwmem with rfl | hothers
      · exact hle
      · exact Nat.le_trans hle (Nat.le_of_lt ((List.pairwise_cons.mp hesorted).1 w hothers))
  · rw [Ascending.mem_ofList]
    exact mem_component_iff hclosed hc hv

end lowest

end SierraCasm.Graph
