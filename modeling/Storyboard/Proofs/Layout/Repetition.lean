import Mathlib
import Storyboard.Proofs.Layout.Drawing
/-!
# How often a screen draws a component

A stack takes in the members of the stacks in it as well, and these draw their members too. So on a
screen whose stacks are all horizontal, a component that no stack holds is drawn once, in the column,
and one that stacks hold is drawn as often as those stacks are, taken together.

* `nodesIn_perm`: the nodes of components are the components and what the nodes hold.
* `countP_children`: how often a component holds another directly.
* `drawn_eq`: how often a component is drawn, by the stacks that hold it.
* `drawn_once_iff`: a component is drawn once exactly if at most one stack holds it.
-/
namespace Storyboard.Layout

open Storyboard.Markup
open Storyboard.Number (Binary64)

/-! ## Counting nodes -/

/-- How many nodes of the components have the id. -/
def drawn (cs : List Component) (i : String) : Nat := (nodesIn cs).countP (·.id == i)

mutual

theorem Component.nodes_perm : ∀ t : Component,
    t.nodes.Perm (t :: t.nodes.flatMap Component.children)
  | .stack axis p children => by
    have ih := nodesIn_perm children
    simp only [Component.nodes, List.flatMap_cons]
    exact ih.cons _
  | .control kind p => by simp [Component.nodes, Component.children]
  | .spacer height i => by simp [Component.nodes, Component.children]

/-- The nodes of components are the components and what the nodes hold directly. -/
theorem nodesIn_perm : ∀ cs : List Component,
    (nodesIn cs).Perm (cs ++ (nodesIn cs).flatMap Component.children)
  | [] => by simp [nodesIn]
  | t :: rest => by
    have h := t.nodes_perm.append (nodesIn_perm rest)
    simp only [nodesIn, List.flatMap_append, List.cons_append] at h ⊢
    exact h.trans ((List.perm_append_comm_assoc _ _ _).cons t)

end

theorem sum_add_ite {β : Type} (f : β → Nat) (p : β → Bool) (bs : List β) :
    (bs.map fun b => f b + if p b then 1 else 0).sum = (bs.map f).sum + bs.countP p := by
  induction bs with
  | nil => rfl
  | cons b rest ih =>
    simp only [List.map_cons, List.sum_cons, List.countP_cons, ih]
    omega

/-- Related pairs can be counted from either side. -/
theorem sum_countP_comm {α β : Type} (r : α → β → Bool) (as : List α) (bs : List β) :
    (as.map fun a => bs.countP (r a)).sum = (bs.map fun b => as.countP (r · b)).sum := by
  induction as with
  | nil => simp
  | cons a rest ih =>
    simp only [List.map_cons, List.sum_cons, List.countP_cons, sum_add_ite, ih]
    omega

/-! ## The stacks that hold an element -/

/-- The stacks below the screen that hold an element. -/
def holders (screen x : Site) : List Site :=
  screen.descendants.filter fun s =>
    isStackName s.name && (members s).any fun m => m.path == x.path

theorem mem_holders {screen x s : Site} (hx : x ∈ screen.descendants) :
    s ∈ holders screen x ↔ s ∈ screen.descendants ∧ isStackName s.name = true ∧ x ∈ members s := by
  simp only [holders, List.mem_filter, Bool.and_eq_true, List.any_eq_true, beq_iff_eq]
  constructor
  · rintro ⟨hs, hstack, m, hm, hpath⟩
    exact ⟨hs, hstack, Site.eq_of_path_eq (mem_descendants_of_members hs hm) hx hpath ▸ hm⟩
  · rintro ⟨hs, hstack, hm⟩
    exact ⟨hs, hstack, x, hm, rfl⟩

/-- A stack that holds the stack at `s` holds all that this one holds. -/
theorem holders_trans {screen s x t : Site} (hx : x ∈ screen.descendants) (hs : s ∈ holders screen x)
    (ht : t ∈ holders screen s) : t ∈ holders screen x := by
  obtain ⟨hsd, -, hxs⟩ := (mem_holders hx).mp hs
  obtain ⟨htd, hstack, hst⟩ := (mem_holders hsd).mp ht
  have hbelow := (members_sublist t).subset hst
  exact (mem_holders hx).mpr ⟨htd, hstack, Site.mem_descendantsUnder_trans hbelow hxs⟩

theorem holders_irrefl {screen s : Site} (hs : s ∈ screen.descendants) : s ∉ holders screen s := by
  intro hself
  obtain ⟨-, -, hm⟩ := (mem_holders hs).mp hself
  exact Nat.lt_irrefl _ (Site.length_path_lt ((members_sublist s).subset hm))

/-- All stacks below the screen are horizontal, and each mapped element there has an id of its own. -/
structure IsRowScreen (screen : Site) : Prop where
  horizontal : ∀ s ∈ screen.descendants, isStackName s.name = true → axisOf s.element = .horizontal
  nodup : (componentIds screen).Nodup
  named : "" ∉ componentIds screen

section
variable {now : Binary64} {placeholder : String} {screen : Site} {cs : List Component}

theorem elementId_mem_componentIds {s : Site} (hs : s ∈ screen.descendants)
    (hm : isMapped s.element = true) : elementId s.element ∈ componentIds screen :=
  List.mem_map.mpr ⟨s, List.mem_filter.mpr ⟨hs, hm⟩, rfl⟩

theorem IsRowScreen.distinctIds (hr : IsRowScreen screen) : DistinctIds screen :=
  hr.nodup.filter _

theorem IsRowScreen.eq_of_id (hr : IsRowScreen screen) {s t : Site} (hs : s ∈ screen.descendants)
    (ht : t ∈ screen.descendants) (hms : isMapped s.element = true)
    (hmt : isMapped t.element = true) (h : elementId s.element = elementId t.element) : s = t :=
  hr.distinctIds.eq_of_id hs ht hms hmt
    (fun he => hr.named (he ▸ elementId_mem_componentIds hs hms)) h

/-- The ids that the component of a site holds directly: those of the mapped members of a stack. -/
theorem children_ids {s : Site} {n : Component} (hn : component? now s.element = .ok (some n)) :
    n.children.map Component.id = if isStackName s.name = true then
      ((members s).filter (isMapped ·.element)).map (elementId ·.element) else [] := by
  cases n with
  | stack axis p children =>
    obtain ⟨hstack, -, mapped, hmapped, rfl⟩ := component?_stack hn
    rw [if_pos (show isStackName s.name = true from hstack)]
    exact map_id_results hmapped
  | control kind p =>
    rcases component?_cases hn with ⟨-, _, _, -, -, hc⟩ | ⟨hstack, -⟩ | ⟨-, hc⟩
    · cases hc
    · rw [if_neg (by simpa [Site.name] using hstack)]
      rfl
    · cases hc
  | spacer height i =>
    rcases component?_cases hn with ⟨-, _, _, -, -, hc⟩ | ⟨-, _, _, _, -, -, -, hc⟩ | ⟨-, hc⟩ <;>
      cases hc

/-- A component holds an id directly if the site it comes from holds the element of that id. -/
theorem IsRowScreen.mem_children_ids (hr : IsRowScreen screen) {s x : Site} {n : Component}
    (hs : s ∈ screen.descendants) (hn : component? now s.element = .ok (some n))
    (hx : x ∈ screen.descendants) (hmx : isMapped x.element = true) :
    elementId x.element ∈ n.children.map Component.id ↔ s ∈ holders screen x := by
  rw [children_ids hn, mem_holders hx]
  split
  · rename_i hstack
    simp only [List.mem_map, List.mem_filter, hs, hstack, true_and]
    constructor
    · rintro ⟨m, ⟨hm, hmm⟩, hid⟩
      exact hr.eq_of_id (mem_descendants_of_members hs hm) hx hmm hmx hid ▸ hm
    · exact fun hm => ⟨x, ⟨hm, hmx⟩, rfl⟩
  · rename_i hstack
    simp [hstack]

theorem IsRowScreen.nodup_children_ids (hr : IsRowScreen screen) {s : Site} {n : Component}
    (hs : s ∈ screen.descendants) (hn : component? now s.element = .ok (some n)) :
    (n.children.map Component.id).Nodup := by
  rw [children_ids hn]
  split
  · have hsub := (members_sublist s).trans (Site.descendants_sublist hs)
    exact hr.nodup.sublist ((hsub.filter _).map _)
  · exact List.nodup_nil

theorem IsRowScreen.nodup_holder_ids (hr : IsRowScreen screen) (x : Site) :
    ((holders screen x).map (elementId ·.element)).Nodup := by
  refine hr.nodup.sublist (List.Sublist.map _ (List.monotone_filter_right _ fun s h => ?_))
  simp only [Bool.and_eq_true] at h
  exact isMapped_of_stack h.1

theorem countP_id (cs : List Component) (i : String) :
    cs.countP (·.id == i) = (cs.map Component.id).count i := by
  rw [List.count, List.countP_map]
  rfl

/-- A component holds the id of an element directly as often as its own id is that of a holder. -/
theorem IsRowScreen.countP_children (hr : IsRowScreen screen) {s x : Site} {n : Component}
    (hs : s ∈ screen.descendants) (hn : component? now s.element = .ok (some n))
    (hx : x ∈ screen.descendants) (hmx : isMapped x.element = true) :
    n.children.countP (·.id == elementId x.element) =
      (holders screen x).countP fun t => n.id == elementId t.element := by
  have hcount : (holders screen x).countP (fun t => n.id == elementId t.element) =
      ((holders screen x).map (elementId ·.element)).count n.id := by
    rw [List.count, List.countP_map]
    exact List.countP_congr fun t _ => by rw [Function.comp_apply, BEq.comm]
  rw [hcount, countP_id, (hr.nodup_children_ids hs hn).count, (hr.nodup_holder_ids x).count]
  have hiff : n.id ∈ (holders screen x).map (elementId ·.element) ↔ s ∈ holders screen x := by
    rw [component?_id hn, List.mem_map]
    refine ⟨fun ⟨t, ht, hid⟩ => ?_, fun h => ⟨s, h, rfl⟩⟩
    obtain ⟨htd, hstack, -⟩ := (mem_holders hx).mp ht
    exact hr.eq_of_id htd hs (isMapped_of_stack hstack) (isMapped_of_component? hn) hid ▸ ht
  exact if_congr ((hr.mem_children_ids hs hn hx hmx).trans hiff.symm) rfl rfl

/-! ## The column -/

section
variable (h : screenComponents now placeholder (some screen) = .ok cs)
include h

/-- A stack below a screen is one of its components. -/
theorem exists_stack {s : Site} (hs : s ∈ screen.descendants) (hstack : isStackName s.name = true) :
    ∃ p children, component? now s.element = .ok (some (.stack (axisOf s.element) p children)) ∧
      Component.stack (axisOf s.element) p children ∈ cs := by
  obtain ⟨n, hn⟩ := exists_component h hs (isMapped_of_stack hstack)
  rcases component?_cases hn with ⟨-, p, children, -, -, hc⟩ | ⟨hno, -⟩ | ⟨-, hc⟩
  · cases hc
    exact ⟨p, children, hn, (mem_screenComponents h).mpr ⟨rfl, s, hs, hn⟩⟩
  · exact absurd hstack (by simp [Site.name, hno])
  · cases hc

theorem IsRowScreen.nodup_ids (hr : IsRowScreen screen) : (cs.map Component.id).Nodup := by
  obtain ⟨mapped, hmapped, hperm⟩ := screenComponents_perm h
  rw [(hperm.map _).nodup_iff]
  refine List.Nodup.sublist (List.filter_sublist.map _) ?_
  rw [map_id_results hmapped]
  exact hr.nodup

/-- Left out of the column is what a stack holds. -/
theorem IsRowScreen.mem_owned (hr : IsRowScreen screen) {x : Site} (hx : x ∈ screen.descendants)
    (hmx : isMapped x.element = true) :
    elementId x.element ∈ owned cs ↔ holders screen x ≠ [] := by
  rw [Layout.mem_owned]
  constructor
  · rintro ⟨-, p, children, hs, c, hc, hid⟩
    obtain ⟨-, s, hsd, hsc⟩ := (mem_screenComponents h).mp hs
    exact List.ne_nil_of_mem
      ((hr.mem_children_ids hsd hsc hx hmx).mp (List.mem_map.mpr ⟨c, hc, hid⟩))
  · intro hne
    obtain ⟨s, hs⟩ := List.exists_mem_of_ne_nil _ hne
    obtain ⟨hsd, hstack, -⟩ := (mem_holders hx).mp hs
    obtain ⟨p, children, hsc, hmem⟩ := exists_stack h hsd hstack
    obtain ⟨c, hc, hid⟩ := List.mem_map.mp ((hr.mem_children_ids hsd hsc hx hmx).mpr hs)
    rw [hr.horizontal s hsd hstack] at hmem
    exact ⟨fun he => hr.named (he ▸ elementId_mem_componentIds hx hmx), p, children, hmem, c, hc, hid⟩

/-- In the column itself a component stands once if no stack holds it, and not at all otherwise. -/
theorem IsRowScreen.countP_unowned (hr : IsRowScreen screen) {x : Site} {c : Component}
    (hx : x ∈ screen.descendants) (hxc : component? now x.element = .ok (some c)) (hc : c ∈ cs) :
    (unowned cs).countP (·.id == c.id) = if holders screen x = [] then 1 else 0 := by
  have hown := hr.mem_owned h hx (isMapped_of_component? hxc)
  rw [← component?_id hxc] at hown
  split
  · rename_i hnone
    have hfree : c.id ∉ owned cs := fun ho => hown.mp ho hnone
    have hcol : (unowned cs).countP (·.id == c.id) = cs.countP (·.id == c.id) := by
      rw [unowned, List.countP_filter]
      refine List.countP_congr fun n _ => ?_
      simp only [Bool.and_eq_true, beq_iff_eq, Bool.not_eq_true', List.contains_eq_mem,
        decide_eq_false_iff_not]
      exact ⟨And.left, fun hid => ⟨hid, hid ▸ hfree⟩⟩
    rw [hcol, countP_id]
    exact List.count_eq_one_of_mem (hr.nodup_ids h) (List.mem_map_of_mem hc)
  · rename_i hsome
    refine List.countP_eq_zero.mpr fun n hn hid => ?_
    rw [beq_iff_eq] at hid
    exact (mem_unowned.mp hn).2 (hid ▸ hown.mpr hsome)

/-- **How often a component is drawn.** Once if no stack holds its element, and otherwise as often as
the stacks that hold it, taken together. -/
theorem IsRowScreen.drawn_eq (hr : IsRowScreen screen) {x : Site} {c : Component}
    (hx : x ∈ screen.descendants) (hxc : component? now x.element = .ok (some c)) (hc : c ∈ cs) :
    drawn (unowned cs) c.id = if holders screen x = [] then 1 else
      ((holders screen x).map fun s => drawn (unowned cs) (elementId s.element)).sum := by
  have hsites : ∀ n ∈ nodesIn (unowned cs),
      ∃ u ∈ screen.descendants, component? now u.element = .ok (some n) := fun n hn =>
    site_of_mem_nodesIn (fun t ht => ((mem_screenComponents h).mp (mem_unowned.mp ht).1).2) hn
  have hheld : ((nodesIn (unowned cs)).map fun n => n.children.countP (·.id == c.id)).sum =
      ((holders screen x).map fun s => drawn (unowned cs) (elementId s.element)).sum := by
    unfold drawn
    rw [← sum_countP_comm fun (n : Component) (s : Site) => n.id == elementId s.element]
    refine congrArg List.sum (List.map_congr_left fun n hn => ?_)
    obtain ⟨u, hu, hun⟩ := hsites n hn
    rw [component?_id hxc]
    exact hr.countP_children hu hun hx (isMapped_of_component? hxc)
  have hsplit : drawn (unowned cs) c.id = (unowned cs).countP (·.id == c.id) +
      ((nodesIn (unowned cs)).map fun n => n.children.countP (·.id == c.id)).sum := by
    rw [drawn, (nodesIn_perm _).countP_eq, List.countP_append, List.countP_flatMap]
    rfl
  rw [hsplit, hr.countP_unowned h hx hxc hc, hheld]
  split
  · rename_i hnone
    simp [hnone]
  · exact Nat.zero_add _

theorem IsRowScreen.drawn_pos (hr : IsRowScreen screen) {c : Component} (hc : c ∈ cs) :
    0 < drawn (unowned cs) c.id :=
  List.countP_pos_iff.mpr ⟨c, mem_nodesIn_unowned h hr.distinctIds hc, beq_self_eq_true _⟩

/-- A component is drawn once exactly if at most one stack holds its element. -/
theorem IsRowScreen.drawn_eq_one_iff (hr : IsRowScreen screen) {x : Site} {c : Component}
    (hx : x ∈ screen.descendants) (hxc : component? now x.element = .ok (some c)) (hc : c ∈ cs) :
    drawn (unowned cs) c.id = 1 ↔ (holders screen x).length ≤ 1 := by
  have hstack : ∀ s ∈ holders screen x, ∃ n ∈ cs, component? now s.element = .ok (some n) := by
    intro s hs
    obtain ⟨hsd, hstack, -⟩ := (mem_holders hx).mp hs
    obtain ⟨p, children, hsc, hmem⟩ := exists_stack h hsd hstack
    exact ⟨_, hmem, hsc⟩
  rw [hr.drawn_eq h hx hxc hc]
  match hh : holders screen x with
  | [] => simp
  | [s] =>
    -- the only stack that holds it is held by none, since that would hold it too
    have hs : s ∈ holders screen x := hh ▸ List.mem_singleton_self s
    obtain ⟨n, hn, hsn⟩ := hstack s hs
    have hsd := ((mem_holders hx).mp hs).1
    have hnone : holders screen s = [] := by
      refine List.eq_nil_iff_forall_not_mem.mpr fun t ht => holders_irrefl hsd ?_
      have htx := holders_trans hx hs ht
      rw [hh, List.mem_singleton] at htx
      exact htx ▸ ht
    have hone := hr.drawn_eq h hsd hsn hn
    rw [hnone, if_pos rfl, component?_id hsn] at hone
    simp [hone]
  | s :: t :: rest =>
    have hpos : ∀ u ∈ holders screen x, 0 < drawn (unowned cs) (elementId u.element) := by
      intro u hu
      obtain ⟨n, hn, hun⟩ := hstack u hu
      exact component?_id hun ▸ hr.drawn_pos h hn
    have hs := hpos s (by simp [hh])
    have ht := hpos t (by simp [hh])
    simp only [List.map_cons, List.sum_cons, List.length_cons, reduceCtorEq, if_false]
    omega

end

end

/-- **A component is drawn once exactly if at most one stack holds it.** A stack inside another one
does not keep what it holds from the other, so the components of nested stacks are drawn again. -/
theorem drawn_once_iff (now : Binary64) (placeholder : String) (screen : Site) (cs : List Component)
    (h : screenComponents now placeholder (some screen) = .ok cs) (hr : IsRowScreen screen)
    (x : Site) (hx : x ∈ screen.descendants) (c : Component)
    (hxc : component? now x.element = .ok (some c)) (hc : c ∈ cs) :
    (nodesIn (unowned cs)).filter (·.id == c.id) = [c] ↔ (holders screen x).length ≤ 1 := by
  rw [← hr.drawn_eq_one_iff h hx hxc hc, drawn, List.countP_eq_length_filter]
  refine ⟨fun heq => by rw [heq]; rfl, fun hlen => ?_⟩
  obtain ⟨n, hn⟩ := List.length_eq_one_iff.mp hlen
  have hmem : c ∈ (nodesIn (unowned cs)).filter (·.id == c.id) :=
    List.mem_filter.mpr ⟨mem_nodesIn_unowned h hr.distinctIds hc, beq_self_eq_true _⟩
  rw [hn, List.mem_singleton] at hmem
  rw [hn, hmem]

theorem isRowScreen_nestedRows : IsRowScreen nestedRows :=
  ⟨by decide +kernel, by decide +kernel, by decide +kernel⟩

/-- The inner row is held by the outer one only, and is drawn once. -/
theorem drawn_once_iff_inner : ∃ cs c, screenComponents 42 "" (some nestedRows) = .ok cs ∧ c ∈ cs ∧
    c.id = "b" ∧ (nodesIn (unowned cs)).filter (·.id == c.id) = [c] :=
  ⟨_, _, rfl, List.mem_cons_of_mem _ List.mem_cons_self, rfl,
    (drawn_once_iff 42 "" nestedRows _ rfl isRowScreen_nestedRows nestedRows.descendants[2]
      (List.getElem_mem _) _ rfl (List.mem_cons_of_mem _ List.mem_cons_self)).mpr (by decide +kernel)⟩

/-- The label is held by both rows, and is drawn twice. -/
theorem drawn_twice_nestedRows : IsRowScreen nestedRows ∧
    ∃ cs c, screenComponents 42 "" (some nestedRows) = .ok cs ∧ c ∈ cs ∧
      (nodesIn (unowned cs)).filter (·.id == c.id) = [c, c] :=
  ⟨isRowScreen_nestedRows, _, _, rfl,
    List.mem_cons_of_mem _ (List.mem_cons_of_mem _ List.mem_cons_self), rfl⟩

end Storyboard.Layout
