import Mathlib
import Storyboard.Proofs.Layout.Drawing
import Storyboard.Proofs.Layout.Extracted
/-!
# How often a stack holds an element

A stack takes in the elements of the stacks in it beside these stacks themselves, so an element comes up
once more in every stack that lies in between. Each of them doubles the number: deep stacks hold their
innermost elements exponentially often.

* `mem_descendantsUnder_iff`: the members of a stack are the elements whose parent is a list of subviews.
* `copies_stack`, `copies_control`: the nodes of an id, by what an element becomes.
* `sum_copies_sitesUnderIn`: along the tree, each listed stack doubles what is below it.
* `copies_eq_two_pow`: the number of nodes of one element, exactly.
-/
namespace Storyboard.Markup

/-! ## Elements by their parents -/

mutual

theorem Node.mem_sitesUnder_iff (parent : String) : ∀ (n : Node) (here : Bool) (path : List Nat)
    {x : Site}, x ∈ n.sitesUnder parent here path ↔
      (here = true ∧ x ∈ (n.element?.map (Site.mk path)).toList) ∨
        ∃ p ∈ n.sites path, p.name = parent ∧ x ∈ p.children
  | .element tag children, here, path, x => by
    have ih := mem_sitesUnderIn_iff parent children (tag.name.text == parent) path 0 (x := x)
    have hself : Site.name ⟨path, ⟨tag, children⟩⟩ = tag.name.text := rfl
    cases here <;>
      simp [Node.sitesUnder, Node.sites, Node.element?, Site.children, hself, ih]
  | .text _, _, _, _ => by simp [Node.sitesUnder, Node.sites, Node.element?]
  | .comment _, _, _, _ => by simp [Node.sitesUnder, Node.sites, Node.element?]
  | .instruction _ _, _, _, _ => by simp [Node.sitesUnder, Node.sites, Node.element?]
  | .reference _, _, _, _ => by simp [Node.sitesUnder, Node.sites, Node.element?]

theorem mem_sitesUnderIn_iff (parent : String) : ∀ (ns : List Node) (here : Bool) (path : List Nat)
    (i : Nat) {x : Site}, x ∈ sitesUnderIn parent here path i ns ↔
      (here = true ∧ x ∈ childrenIn path i ns) ∨
        ∃ p ∈ sitesIn path i ns, p.name = parent ∧ x ∈ p.children
  | [], _, _, _, _ => by simp [sitesUnderIn, childrenIn, sitesIn]
  | n :: rest, here, path, i, x => by
    simp only [sitesUnderIn, childrenIn, sitesIn, List.mem_append,
      n.mem_sitesUnder_iff parent here (path ++ [i]), mem_sitesUnderIn_iff parent rest here path (n.next i)]
    grind

end

/-- The elements below under parents of a name are those whose parent is below and has the name. -/
theorem Site.mem_descendantsUnder_iff {s x : Site} {parent : String} :
    x ∈ s.descendantsUnder parent ↔ ∃ p ∈ s.descendants, p.name = parent ∧ x ∈ p.children := by
  rw [Site.descendantsUnder, mem_sitesUnderIn_iff]
  simp [Site.descendants]

end Storyboard.Markup

namespace Storyboard.Layout

open Storyboard.Markup
open Storyboard.Number (Binary64)

/-! ## Copies -/

/-- How many nodes of the component of an element have the id. -/
def copies (now : Binary64) (i : String) (s : Site) : Nat :=
  match component? now s.element with
  | .ok (some t) => t.nodes.countP (·.id == i)
  | _ => 0

/-- Is the element mapped, and does it have the id? -/
def isOfId (i : String) (s : Site) : Bool := isMapped s.element && elementId s.element == i

/-- Is the first element below the second? -/
def isBelow (x t : Site) : Bool := t.descendants.any (·.path == x.path)

/-- Is the element below, and its parent a list of subviews? -/
def isListed (s x : Site) : Bool :=
  s.descendants.any fun p => p.name == subviews && p.children.any (·.path == x.path)

/-- The stacks strictly between two elements that are themselves in lists of subviews. -/
def stacksBetween (s x : Site) : List Site :=
  s.descendants.filter fun t => isStackName t.name && isListed s t && isBelow x t

section
variable {now : Binary64} {i : String}

theorem countP_nodesIn (cs : List Component) :
    (nodesIn cs).countP (·.id == i) = (cs.map fun c => c.nodes.countP (·.id == i)).sum := by
  induction cs with
  | nil => rfl
  | cons c rest ih => simp [nodesIn, ih]

theorem sum_copies {sites : List Site} {mapped : List (Option Component)}
    (h : List.Forall₂ (fun s c? => component? now s.element = .ok c?) sites mapped) :
    (sites.map (copies now i)).sum = (nodesIn (mapped.filterMap id)).countP (·.id == i) := by
  rw [countP_nodesIn]
  induction h with
  | nil => rfl
  | @cons s c? _ _ hs _ ih =>
    cases c? with
    | none => simpa [copies, hs] using ih
    | some c => simpa [copies, hs] using ih

/-- A stack has the copies of its members, and is one itself if it has the id. -/
theorem copies_stack {s : Site} (hstack : isStackName s.name = true)
    (hok : ∃ c?, component? now s.element = .ok c?) :
    copies now i s = (if isOfId i s then 1 else 0) + ((members s).map (copies now i)).sum := by
  obtain ⟨c?, hc⟩ := hok
  have hmapped : isMapped s.element = true := isMapped_of_stack hstack
  rcases component?_cases hc with ⟨-, p, children, hp, -, rfl⟩ | ⟨hno, -⟩ | ⟨hno, -⟩
  · obtain ⟨-, -, mapped, hmembers, rfl⟩ := component?_stack hc
    have hcopies : copies now i s = (Component.stack (axisOf s.element) p
        (mapped.filterMap id)).nodes.countP (·.id == i) := by
      rw [copies, hc]
    rw [hcopies, sum_copies hmembers, Component.nodes, List.countP_cons, Nat.add_comm]
    simp [isOfId, hmapped, Component.id, placementOf_id hp]
  · exact absurd hstack (by simp [Site.name, hno])
  · rw [hmapped] at hno
    cases hno

/-- Any other element has no copies but itself. -/
theorem copies_control {s : Site} (hstack : isStackName s.name = false)
    (hok : ∃ c?, component? now s.element = .ok c?) : copies now i s = if isOfId i s then 1 else 0 := by
  obtain ⟨c?, hc⟩ := hok
  have hmapped := component?_isSome hc
  rcases component?_cases hc with ⟨hyes, -⟩ | ⟨-, _, kind, p, -, -, hp, rfl⟩ | ⟨hno, rfl⟩
  · exact absurd (show isStackName s.name = true from hyes) (by simp [hstack])
  · rw [copies, hc]
    simp [isOfId, ← hmapped, Component.nodes, Component.id, placementOf_id hp]
  · rw [copies, hc]
    simp [isOfId, hno]

/-- The copies of an element together with those of the sites listed below it, which a stack has for itself
once more. -/
theorem copies_add_sum {e : Site} {under : List Site} (hok : ∃ c?, component? now e.element = .ok c?)
    (hunder : isStackName e.name = true → members e = under) :
    copies now i e + (under.map (copies now i)).sum =
      (if isOfId i e then 1 else 0) +
        (if isStackName e.name then 2 else 1) * (under.map (copies now i)).sum := by
  by_cases hstack : isStackName e.name = true
  · rw [copies_stack hstack hok, hunder hstack, if_pos hstack]
    omega
  · rw [Bool.not_eq_true] at hstack
    rw [copies_control hstack hok, hstack, if_neg Bool.false_ne_true, Nat.one_mul]

/-! ## Along the tree -/

/-- What an element of the id adds to the copies in the sites of a list: nothing if it is not among
them, and otherwise one copy, doubled for each stack among them that it is below. -/
def share (i : String) (sites : List Site) (x : Site) : Nat :=
  if isOfId i x && sites.any (·.path == x.path) then
    2 ^ sites.countP fun t => isStackName t.name && isBelow x t
  else 0

/-- What is below an element has a path that goes on with the element's own. -/
theorem prefix_of_isBelow {x t : Site} (h : isBelow x t = true) :
    t.path <+: x.path ∧ t.path.length < x.path.length := by
  obtain ⟨u, hu, hpath⟩ := List.any_eq_true.mp h
  rw [beq_iff_eq] at hpath
  obtain ⟨j, -, hj⟩ := path_of_mem_sitesIn _ _ _ hu
  rw [← hpath]
  exact ⟨(List.prefix_append _ _).trans hj, Site.length_path_lt hu⟩

theorem isBelow_of_mem {x t : Site} (h : x ∈ t.descendants) : isBelow x t = true :=
  List.any_eq_true.mpr ⟨x, h, beq_self_eq_true _⟩

/-- Sites whose paths do not lead to the element count for nothing. -/
theorem share_append_left {sites others : List Site} {x : Site}
    (h : ∀ t ∈ others, ¬t.path <+: x.path) : share i (sites ++ others) x = share i sites x := by
  have hany : others.any (·.path == x.path) = false :=
    List.any_eq_false.mpr fun t ht he => h t ht (beq_iff_eq.mp he ▸ List.prefix_rfl)
  have hcount : others.countP (fun t => isStackName t.name && isBelow x t) = 0 :=
    List.countP_eq_zero.mpr fun t ht hb =>
      h t ht (prefix_of_isBelow (Bool.and_eq_true _ _ ▸ hb).2).1
  rw [share, share, List.any_append, List.countP_append, hany, hcount, Bool.or_false, Nat.add_zero]

theorem share_append_right {sites others : List Site} {x : Site}
    (h : ∀ t ∈ others, ¬t.path <+: x.path) : share i (others ++ sites) x = share i sites x := by
  have hleft : share i (sites ++ others) x = share i sites x := share_append_left h
  rw [← hleft, share, share, List.any_append, List.any_append, List.countP_append, List.countP_append,
    Bool.or_comm, Nat.add_comm]

theorem share_eq_zero {sites : List Site} {x : Site} (h : ∀ t ∈ sites, ¬t.path <+: x.path) :
    share i sites x = 0 := by
  rw [← List.nil_append sites, share_append_left h]
  simp [share]

/-- An element beside sites below it has itself as its only copy. -/
theorem share_self {e : Site} {sites : List Site} (h : ∀ t ∈ sites, ¬t.path <+: e.path) :
    share i (e :: sites) e = if isOfId i e then 1 else 0 := by
  have hself : isBelow e e = false :=
    Bool.eq_false_iff.mpr fun hb => Nat.lt_irrefl _ (prefix_of_isBelow hb).2
  rw [← List.singleton_append, share_append_left h, share]
  simp [hself]

/-- One more listed stack above an element doubles its copies, any other element leaves them. -/
theorem share_cons {e x : Site} (hx : x ∈ e.descendants) (sites : List Site) :
    share i (e :: sites) x = (if isStackName e.name then 2 else 1) * share i sites x := by
  have hne : (e.path == x.path) = false :=
    beq_false_of_ne fun he => Nat.lt_irrefl _ (he ▸ Site.length_path_lt hx)
  rw [share, share, List.any_cons, hne, Bool.false_or, List.countP_cons, isBelow_of_mem hx,
    Bool.and_true]
  by_cases hstack : isStackName e.name = true
  · simp only [hstack, if_true, Nat.pow_succ]
    split
    · exact Nat.mul_comm _ _
    · rfl
  · simp [hstack]

theorem sum_share_cons {e : Site} (sites : List Site) :
    (e.descendants.map (share i (e :: sites))).sum =
      (if isStackName e.name then 2 else 1) * (e.descendants.map (share i sites)).sum := by
  rw [← List.sum_map_mul_left]
  exact congrArg List.sum (List.map_congr_left fun x hx => share_cons hx sites)

mutual

theorem sum_copies_sitesUnder : ∀ (n : Node) (here : Bool) (path : List Nat),
    (∀ t ∈ n.sitesUnder subviews here path, ∃ c?, component? now t.element = .ok c?) →
    ((n.sitesUnder subviews here path).map (copies now i)).sum =
      ((n.sites path).map (share i (n.sitesUnder subviews here path))).sum
  | .element tag children, here, path, hok => by
    let e : Site := ⟨path, ⟨tag, children⟩⟩
    let under := sitesUnderIn subviews (tag.name.text == subviews) path 0 children
    have hbehind : ∀ t ∈ under, ¬t.path <+: e.path := fun t ht hpre => by
      have hlt := Site.length_path_lt (s := e) ((sitesUnderIn_sublist _ _ _ _ _).subset ht)
      exact Nat.not_lt.mpr hpre.length_le hlt
    have hsum := sum_copies_sitesUnderIn children (tag.name.text == subviews) path 0 fun t ht =>
      hok t (List.mem_append_right _ ht)
    have hbelow : (under.map (copies now i)).sum = (e.descendants.map (share i under)).sum := hsum
    cases here with
    | false =>
      change (under.map _).sum = ((e :: e.descendants).map (share i under)).sum
      rw [List.map_cons, List.sum_cons, share_eq_zero hbehind, Nat.zero_add]
      exact hbelow
    | true =>
      -- the members of a stack are what is listed below it
      have hmembers : isStackName e.name = true → members e = under := fun hstack => by
        have hname : (tag.name.text == subviews) = false := by
          rw [isStackName, beq_iff_eq] at hstack
          rw [show tag.name.text = "stackView" from hstack]
          rfl
        rw [members, Site.descendantsUnder, ← hname]
      change ((e :: under).map _).sum = ((e :: e.descendants).map (share i (e :: under))).sum
      rw [List.map_cons, List.sum_cons, List.map_cons, List.sum_cons, share_self hbehind, sum_share_cons,
        ← hbelow]
      exact copies_add_sum (hok e List.mem_cons_self) hmembers
  | .text _, _, _, _ => by simp [Node.sitesUnder, Node.sites]
  | .comment _, _, _, _ => by simp [Node.sitesUnder, Node.sites]
  | .instruction _ _, _, _, _ => by simp [Node.sitesUnder, Node.sites]
  | .reference _, _, _, _ => by simp [Node.sitesUnder, Node.sites]

/-- The copies of an id among listed elements are the shares of all elements of that id. -/
theorem sum_copies_sitesUnderIn : ∀ (ns : List Node) (here : Bool) (path : List Nat) (j : Nat),
    (∀ t ∈ sitesUnderIn subviews here path j ns, ∃ c?, component? now t.element = .ok c?) →
    ((sitesUnderIn subviews here path j ns).map (copies now i)).sum =
      ((sitesIn path j ns).map (share i (sitesUnderIn subviews here path j ns))).sum
  | [], _, _, _, _ => by simp [sitesUnderIn, sitesIn]
  | n :: rest, here, path, j, hok => by
    have hn := sum_copies_sitesUnder n here (path ++ [j]) fun t ht => hok t (List.mem_append_left _ ht)
    have hrest := sum_copies_sitesUnderIn rest here path (n.next j) fun t ht =>
      hok t (List.mem_append_right _ ht)
    have hin : ∀ x ∈ n.sites (path ++ [j]), share i (sitesUnderIn subviews here path j (n :: rest)) x =
        share i (n.sitesUnder subviews here (path ++ [j])) x := fun x hx =>
      share_append_left fun t ht =>
        (not_prefix_of_mem_sites hx ((sitesUnderIn_sublist _ _ _ _ _).subset ht)).1
    have hbehind : ∀ x ∈ sitesIn path (n.next j) rest,
        share i (sitesUnderIn subviews here path j (n :: rest)) x =
          share i (sitesUnderIn subviews here path (n.next j) rest) x := fun x hx =>
      share_append_right fun t ht =>
        (not_prefix_of_mem_sites ((n.sitesUnder_sublist _ _ _).subset ht) hx).2
    rw [sitesIn, List.map_append, List.sum_append, List.map_congr_left hin, List.map_congr_left hbehind,
      ← hn, ← hrest, ← List.sum_append, ← List.map_append]
    rfl

end

end

/-! ## One element -/

/-- The element is a stack, and no two of it and the mapped elements below it share an id. -/
structure IsNamedStack (s : Site) : Prop where
  isStack : isStackName s.name = true
  nodup : (elementId s.element :: componentIds s).Nodup

theorem isListed_iff {s x : Site} (hx : x ∈ s.descendants) : isListed s x = true ↔ x ∈ members s := by
  simp only [isListed, members, Site.mem_descendantsUnder_iff, List.any_eq_true, Bool.and_eq_true, beq_iff_eq]
  constructor
  · rintro ⟨p, hp, hname, c, hc, hpath⟩
    have hcs : c ∈ s.descendants := (Site.descendants_sublist hp).subset (p.children_sublist.subset hc)
    exact ⟨p, hp, hname, Site.eq_of_path_eq hcs hx hpath ▸ hc⟩
  · rintro ⟨p, hp, hname, hc⟩
    exact ⟨p, hp, hname, x, hc, rfl⟩

/-- The members of an element are the listed elements below it. -/
theorem members_perm (s : Site) : (members s).Perm (s.descendants.filter (isListed s)) := by
  have hnodup : s.descendants.Nodup := s.descendants_nodup_path.of_map
  refine (List.perm_ext_iff_of_nodup (hnodup.sublist (members_sublist s)) (hnodup.filter _)).mpr fun x => ?_
  rw [List.mem_filter]
  constructor
  · intro hx
    have hbelow := (members_sublist s).subset hx
    exact ⟨hbelow, (isListed_iff hbelow).mpr hx⟩
  · rintro ⟨hbelow, hlisted⟩
    exact (isListed_iff hbelow).mp hlisted

theorem length_stacksBetween (s x : Site) :
    (stacksBetween s x).length = (members s).countP fun t => isStackName t.name && isBelow x t := by
  rw [(members_perm s).countP_eq, List.countP_filter, stacksBetween, ← List.countP_eq_length_filter]
  refine List.countP_congr fun t _ => ?_
  simp only [Bool.and_eq_true]
  exact ⟨fun ⟨⟨hstack, hlisted⟩, hbelow⟩ => ⟨⟨hstack, hbelow⟩, hlisted⟩,
    fun ⟨⟨hstack, hbelow⟩, hlisted⟩ => ⟨⟨hstack, hlisted⟩, hbelow⟩⟩

/-- A sum in which one place counts only. -/
theorem sum_map_eq_single {α : Type} {f : α → Nat} {l : List α} (hnodup : l.Nodup) {a : α} (ha : a ∈ l)
    (h : ∀ b ∈ l, b ≠ a → f b = 0) : (l.map f).sum = f a := by
  obtain ⟨before, behind, rfl⟩ := List.append_of_mem ha
  have hne := (List.nodup_middle.mp hnodup).notMem
  have hzero : ∀ part ⊆ before ++ behind, (part.map f).sum = 0 := fun part hpart =>
    List.sum_eq_zero fun n hn => by
      obtain ⟨b, hb, rfl⟩ := List.mem_map.mp hn
      have hin := List.mem_append.mp (hpart hb)
      exact h b (List.mem_append.mpr (hin.imp_right (List.mem_cons_of_mem a))) fun he =>
        hne (he ▸ hpart hb)
  simp [hzero before (List.subset_append_left _ _), hzero behind (List.subset_append_right _ _)]

section
variable {now : Binary64} {s x : Site}

/-- If a stack has a component, each of its members has one or becomes nothing. -/
theorem exists_member {t : Component} (hstack : isStackName s.name = true)
    (ht : component? now s.element = .ok (some t)) :
    ∀ m ∈ members s, ∃ c?, component? now m.element = .ok c? := by
  intro m hm
  rcases component?_cases ht with ⟨-, p, children, -, -, hc⟩ | ⟨hno, -⟩ | ⟨hno, -⟩
  · cases hc
    obtain ⟨-, -, mapped, hmembers, -⟩ := component?_stack ht
    obtain ⟨c?, -, hc⟩ := exists_left_of_forall₂ hmembers.flip hm
    exact ⟨c?, hc⟩
  · exact absurd (show isStackName s.element.name = true from hstack) (by simp [hno])
  · rw [isMapped_of_stack hstack] at hno
    cases hno

/-- The nodes of a stack that carry another id than its own come from the listed elements of that id. -/
theorem countP_nodes_stack {i : String} {t : Component} (hstack : isStackName s.name = true)
    (ht : component? now s.element = .ok (some t)) (hi : elementId s.element ≠ i) :
    t.nodes.countP (·.id == i) = (s.descendants.map (share i (members s))).sum := by
  have hcopies : t.nodes.countP (·.id == i) = copies now i s := by rw [copies, ht]
  have hnot : isOfId i s = false := by simp [isOfId, hi]
  rw [hcopies, copies_stack hstack ⟨_, ht⟩, hnot, if_neg Bool.false_ne_true, Nat.zero_add]
  exact sum_copies_sitesUnderIn s.element.children false s.path 0 (exists_member hstack ht)

theorem IsNamedStack.eq_of_isOfId (hs : IsNamedStack s) (hx : x ∈ s.descendants)
    (hmx : isMapped x.element = true) {y : Site} (hy : y ∈ s.descendants)
    (h : isOfId (elementId x.element) y = true) : y = x := by
  rw [isOfId, Bool.and_eq_true, beq_iff_eq] at h
  exact List.inj_on_of_nodup_map (List.nodup_cons.mp hs.nodup).2 (List.mem_filter.mpr ⟨hy, h.1⟩)
    (List.mem_filter.mpr ⟨hx, hmx⟩) h.2

theorem IsNamedStack.ne_elementId (hs : IsNamedStack s) (hx : x ∈ s.descendants)
    (hmx : isMapped x.element = true) : elementId s.element ≠ elementId x.element := fun he =>
  (List.nodup_cons.mp hs.nodup).1 (he ▸ List.mem_map.mpr ⟨x, List.mem_filter.mpr ⟨hx, hmx⟩, rfl⟩)

/-- What a mapped element adds to the copies of its own id. -/
theorem share_own (hx : x ∈ s.descendants) (hmx : isMapped x.element = true) :
    share (elementId x.element) (members s) x =
      if isListed s x then 2 ^ (stacksBetween s x).length else 0 := by
  have hself : isOfId (elementId x.element) x = true := by simp [isOfId, hmx]
  have hlisted : (members s).any (·.path == x.path) = isListed s x := by
    rw [Bool.eq_iff_iff, isListed_iff hx, List.any_eq_true]
    constructor
    · rintro ⟨m, hm, hpath⟩
      exact Site.eq_of_path_eq ((members_sublist s).subset hm) hx (beq_iff_eq.mp hpath) ▸ hm
    · exact fun hm => ⟨x, hm, beq_self_eq_true _⟩
  rw [share, hself, hlisted, Bool.true_and, length_stacksBetween]

end

/-- **How often a stack holds an element.** The component of a stack, which there is if no attribute has
a separator, has no node of an element below whose parent is no list of subviews. Of any other mapped
element it has as many nodes as there are sets of listed stacks in between. -/
theorem copies_eq_two_pow (now : Binary64) (s : Site) (hs : IsNamedStack s) :
    (s.element.isUnseparated = true → ∃ t, component? now s.element = .ok (some t)) ∧
    ∀ t, component? now s.element = .ok (some t) → ∀ x ∈ s.descendants, isMapped x.element = true →
      t.nodes.countP (·.id == elementId x.element) =
        if isListed s x then 2 ^ (stacksBetween s x).length else 0 := by
  refine ⟨fun hunseparated => ?_, fun t ht x hx hmx => ?_⟩
  · obtain ⟨c?, hc, -⟩ := exists_component? now hunseparated
    have hsome := component?_isSome hc
    rw [isMapped_of_stack hs.isStack, Option.isSome_iff_exists] at hsome
    obtain ⟨t, rfl⟩ := hsome
    exact ⟨t, hc⟩
  · have hothers : ∀ y ∈ s.descendants, y ≠ x → share (elementId x.element) (members s) y = 0 := by
      intro y hy hne
      have hid : isOfId (elementId x.element) y = false :=
        Bool.eq_false_iff.mpr fun hof => hne (hs.eq_of_isOfId hx hmx hy hof)
      rw [share, hid]
      rfl
    rw [countP_nodes_stack hs.isStack ht (hs.ne_elementId hx hmx),
      sum_map_eq_single s.descendants_nodup_path.of_map hx hothers, share_own hx hmx]

/-- A label three rows deep. -/
def rowsInRows : Site where
  path := []
  element := ⟨plainTag "stackView" [("id", "a")],
    [plain "subviews" [] [plain "stackView" [("id", "b")] [plain "subviews" []
      [plain "stackView" [("id", "c")] [plain "subviews" [] [plain "label" [("id", "d")] []]]]]]]⟩

theorem copies_eq_two_pow_rowsInRows : IsNamedStack rowsInRows ∧
    ∃ t, component? 42 rowsInRows.element = .ok (some t) ∧ t.nodes.countP (·.id == "d") = 4 := by
  have hs : IsNamedStack rowsInRows := ⟨by decide +kernel, by decide +kernel⟩
  obtain ⟨hexists, hcount⟩ := copies_eq_two_pow 42 rowsInRows hs
  obtain ⟨t, ht⟩ := hexists (by decide +kernel)
  have hfour := hcount t ht rowsInRows.descendants[5] (List.getElem_mem _) (by decide +kernel)
  exact ⟨hs, t, ht, hfour.trans (by decide +kernel)⟩

end Storyboard.Layout
