import Mathlib.Data.List.Nodup
import Mathlib.Data.List.Infix
import Storyboard.Markup.Site
/-!
# The elements below an element

The queries that go through everything below an element answer with sites whose paths extend its
own, so an element is never below itself, and no two sites of an answer are at one place. What is
below an element that is itself below another is below that one too.

* `descendants_ordered`: the elements below are listed in document order.
* `descendants_nodup_path`: their places are pairwise distinct.
* `descendants_sublist`: what is below an element below is below.
* `mem_ancestors`: the elements that an element stands in are those that it is below.
* `follow_cons`: a way down goes to a child first and on from there.
* `of_mem_follow`: what passes from elements to their children holds wherever a way down leads.
* `follow_map`: a change to elements that keeps names and children keeps the ways down.
* `descendantsUnder_sublist`: the elements under parents of a name are among those below.
* `mem_descendantsUnder_trans`: an element under such a parent, seen from further up, still is.
-/
namespace Storyboard.Markup

/-! ## Paths -/

mutual

theorem Node.path_of_mem_sites : ∀ (n : Node) (path : List Nat) {s : Site}, s ∈ n.sites path →
    path <+: s.path
  | .element tag children, path, s, h => by
    simp only [Node.sites, List.mem_cons] at h
    rcases h with rfl | h
    · exact List.prefix_rfl
    · obtain ⟨j, -, hj⟩ := path_of_mem_sitesIn children path 0 h
      exact (List.prefix_append path [j]).trans hj
  | .text _, _, _, h => by simp [Node.sites] at h
  | .comment _, _, _, h => by simp [Node.sites] at h
  | .instruction _ _, _, _, h => by simp [Node.sites] at h
  | .reference _, _, _, h => by simp [Node.sites] at h

/-- A site among nodes numbered from `i` on is at or below one of them. -/
theorem path_of_mem_sitesIn : ∀ (ns : List Node) (path : List Nat) (i : Nat) {s : Site},
    s ∈ sitesIn path i ns → ∃ j, i ≤ j ∧ path ++ [j] <+: s.path
  | [], _, _, _, h => by simp [sitesIn] at h
  | n :: rest, path, i, s, h => by
    simp only [sitesIn, List.mem_append] at h
    rcases h with h | h
    · exact ⟨i, Nat.le_refl i, n.path_of_mem_sites (path ++ [i]) h⟩
    · obtain ⟨j, hj, hp⟩ := path_of_mem_sitesIn rest path (n.next i) h
      refine ⟨j, ?_, hp⟩
      unfold Node.next at hj
      split at hj <;> omega

end

theorem Site.prefix_of_mem_descendants {s t : Site} (h : t ∈ s.descendants) : s.path <+: t.path := by
  obtain ⟨j, -, hj⟩ := path_of_mem_sitesIn _ _ _ h
  exact (List.prefix_append s.path [j]).trans hj

theorem Site.length_path_lt {s t : Site} (h : t ∈ s.descendants) : s.path.length < t.path.length := by
  obtain ⟨j, -, hj⟩ := path_of_mem_sitesIn _ _ _ h
  have := hj.length_le
  simp only [List.length_append, List.length_singleton] at this
  omega

/-- Paths below two different children differ. -/
theorem index_unique {path p : List Nat} {i j : Nat} (hi : path ++ [i] <+: p)
    (hj : path ++ [j] <+: p) : i = j := by
  have h := List.prefix_of_prefix_length_le hi hj (by simp)
  simpa using h.eq_of_length (by simp)

/-- The elements at and below a node are beside those behind it. -/
theorem not_prefix_of_mem_sites {n : Node} {rest : List Node} {path : List Nat} {i : Nat} {s t : Site}
    (hs : s ∈ n.sites (path ++ [i])) (ht : t ∈ sitesIn path (n.next i) rest) :
    ¬t.path <+: s.path ∧ ¬s.path <+: t.path := by
  have hi := n.path_of_mem_sites _ hs
  obtain ⟨j, hj, hjt⟩ := path_of_mem_sitesIn rest path _ ht
  have hne : i ≠ j := by
    cases n with
    | element tag children =>
      simp only [Node.next, Node.isElement, if_true] at hj
      omega
    | _ => simp [Node.sites] at hs
  exact ⟨fun h => hne (index_unique hi (hjt.trans h)),
    fun h => hne (index_unique (hi.trans h) hjt)⟩

/-- What is below comes behind, in the lexicographic order of paths. -/
theorem lt_of_below {path p : List Nat} {j : Nat} (h : path ++ [j] <+: p) : path < p := by
  obtain ⟨rest, rfl⟩ := h
  have hlt : path ++ [] < path ++ (j :: rest) := List.append_left_lt (List.nil_lt_cons j rest)
  simpa using hlt

/-- What is below a child comes in front of what is below a later one. -/
theorem lt_of_index_lt {path p q : List Nat} {i j : Nat} (hij : i < j) (hp : path ++ [i] <+: p)
    (hq : path ++ [j] <+: q) : p < q := by
  obtain ⟨below, rfl⟩ := hp
  obtain ⟨behind, rfl⟩ := hq
  have hlt : path ++ (i :: below) < path ++ (j :: behind) :=
    List.append_left_lt (List.cons_lt_cons_iff.mpr (.inl hij))
  simpa using hlt

mutual

theorem Node.sites_ordered : ∀ (n : Node) (path : List Nat),
    (n.sites path).Pairwise fun s t => s.path < t.path
  | .element tag children, path => by
    simp only [Node.sites]
    refine List.pairwise_cons.mpr ⟨fun s hs => ?_, sitesIn_ordered children path 0⟩
    obtain ⟨j, -, hj⟩ := path_of_mem_sitesIn children path 0 hs
    exact lt_of_below hj
  | .text _, _ => by simp [Node.sites]
  | .comment _, _ => by simp [Node.sites]
  | .instruction _ _, _ => by simp [Node.sites]
  | .reference _, _ => by simp [Node.sites]

theorem sitesIn_ordered : ∀ (ns : List Node) (path : List Nat) (i : Nat),
    (sitesIn path i ns).Pairwise fun s t => s.path < t.path
  | [], _, _ => by simp [sitesIn]
  | n :: rest, path, i => by
    simp only [sitesIn]
    refine List.pairwise_append.mpr
      ⟨n.sites_ordered (path ++ [i]), sitesIn_ordered rest path (n.next i), ?_⟩
    intro s hs t ht
    -- only an element has sites, and the nodes behind it are numbered from the next number on
    cases n with
    | element tag children =>
      obtain ⟨j, hj, hpj⟩ := path_of_mem_sitesIn rest path _ ht
      simp only [Node.next, Node.isElement, if_true] at hj
      exact lt_of_index_lt (by omega) (Node.path_of_mem_sites _ _ hs) hpj
    | _ => simp [Node.sites] at hs

end

/-- The elements below are listed in document order: by their paths, from left to right. -/
theorem Site.descendants_ordered (s : Site) : s.descendants.Pairwise fun t u => t.path < u.path :=
  sitesIn_ordered _ _ _

/-- An element comes in front of those below it. -/
theorem Site.ordered (s : Site) : (s :: s.descendants).Pairwise fun t u => t.path < u.path := by
  refine List.pairwise_cons.mpr ⟨fun t ht => ?_, s.descendants_ordered⟩
  obtain ⟨j, -, hj⟩ := path_of_mem_sitesIn _ _ _ ht
  exact lt_of_below hj

theorem nodup_path_of_ordered {l : List Site} (h : l.Pairwise fun s t => s.path < t.path) :
    (l.map Site.path).Nodup :=
  List.pairwise_map.mpr <| h.imp fun {t u} h he => by
    rw [he] at h
    exact List.lt_irrefl u.path h

theorem Site.descendants_nodup_path (s : Site) : (s.descendants.map Site.path).Nodup :=
  nodup_path_of_ordered s.descendants_ordered

/-- Two elements below one element are the same if they are at one place. -/
theorem Site.eq_of_path_eq {s t u : Site} (ht : t ∈ s.descendants) (hu : u ∈ s.descendants)
    (h : t.path = u.path) : t = u :=
  List.inj_on_of_nodup_map s.descendants_nodup_path ht hu h

/-! ## Subtrees -/

mutual

theorem Node.descendants_sublist : ∀ (n : Node) (path : List Nat) {s : Site}, s ∈ n.sites path →
    s.descendants.Sublist (n.sites path)
  | .element tag children, path, s, h => by
    simp only [Node.sites, List.mem_cons] at h ⊢
    rcases h with rfl | h
    · exact List.sublist_cons_self _ _
    · exact (sitesIn_descendants_sublist children path 0 h).cons _
  | .text _, _, _, h => by simp [Node.sites] at h
  | .comment _, _, _, h => by simp [Node.sites] at h
  | .instruction _ _, _, _, h => by simp [Node.sites] at h
  | .reference _, _, _, h => by simp [Node.sites] at h

theorem sitesIn_descendants_sublist : ∀ (ns : List Node) (path : List Nat) (i : Nat) {s : Site},
    s ∈ sitesIn path i ns → s.descendants.Sublist (sitesIn path i ns)
  | [], _, _, _, h => by simp [sitesIn] at h
  | n :: rest, path, i, s, h => by
    simp only [sitesIn, List.mem_append] at h ⊢
    rcases h with h | h
    · exact (n.descendants_sublist (path ++ [i]) h).trans (List.sublist_append_left _ _)
    · exact (sitesIn_descendants_sublist rest path (n.next i) h).trans
        (List.sublist_append_right _ _)

end

theorem Site.descendants_sublist {s t : Site} (h : t ∈ s.descendants) :
    t.descendants.Sublist s.descendants :=
  sitesIn_descendants_sublist _ _ _ h

/-! ## Ancestors -/

mutual

theorem Node.mem_descendants_of_prefix : ∀ (n : Node) (path : List Nat) {s t : Site},
    s ∈ n.sites path → t ∈ n.sites path → t.path <+: s.path → t.path ≠ s.path → s ∈ t.descendants
  | .element tag children, path, s, t, hs, ht, hpre, hne => by
    simp only [Node.sites, List.mem_cons] at hs ht
    rcases ht with rfl | ht
    · rcases hs with rfl | hs
      · exact absurd rfl hne
      · exact hs
    · rcases hs with rfl | hs
      · obtain ⟨j, -, hj⟩ := path_of_mem_sitesIn children path 0 ht
        have hlength := (hj.trans hpre).length_le
        simp only [List.length_append, List.length_singleton] at hlength
        omega
      · exact mem_descendants_of_prefixIn children path 0 hs ht hpre hne
  | .text _, _, _, _, hs, _, _, _ => by simp [Node.sites] at hs
  | .comment _, _, _, _, hs, _, _, _ => by simp [Node.sites] at hs
  | .instruction _ _, _, _, _, hs, _, _, _ => by simp [Node.sites] at hs
  | .reference _, _, _, _, hs, _, _, _ => by simp [Node.sites] at hs

/-- An element whose path goes on from that of another is below it. -/
theorem mem_descendants_of_prefixIn : ∀ (ns : List Node) (path : List Nat) (i : Nat) {s t : Site},
    s ∈ sitesIn path i ns → t ∈ sitesIn path i ns → t.path <+: s.path → t.path ≠ s.path →
    s ∈ t.descendants
  | [], _, _, _, _, hs, _, _, _ => by simp [sitesIn] at hs
  | n :: rest, path, i, s, t, hs, ht, hpre, hne => by
    simp only [sitesIn, List.mem_append] at hs ht
    rcases hs with hs | hs
    · rcases ht with ht | ht
      · exact n.mem_descendants_of_prefix (path ++ [i]) hs ht hpre hne
      · exact absurd hpre (not_prefix_of_mem_sites hs ht).1
    · rcases ht with ht | ht
      · exact absurd hpre (not_prefix_of_mem_sites ht hs).2
      · exact mem_descendants_of_prefixIn rest path (n.next i) hs ht hpre hne

end

namespace Document

/-- The elements that the element at `s` stands in, from the root down. -/
def ancestors (d : Document) (s : Site) : List Site :=
  d.sites.filter fun t => decide (t.path <+: s.path ∧ t.path ≠ s.path)

theorem sites_ordered (d : Document) : d.sites.Pairwise fun s t => s.path < t.path :=
  d.site.ordered

variable {d : Document}

/-- Two elements of a document are the same if they are at one place. -/
theorem eq_of_path_eq {s t : Site} (hs : s ∈ d.sites) (ht : t ∈ d.sites) (h : s.path = t.path) :
    s = t :=
  List.inj_on_of_nodup_map (nodup_path_of_ordered d.sites_ordered) hs ht h

theorem mem_sites_of_descendants {s t : Site} (hs : s ∈ d.sites) (ht : t ∈ s.descendants) :
    t ∈ d.sites := by
  rcases List.mem_cons.mp hs with rfl | hs
  · exact List.mem_cons_of_mem _ ht
  · exact List.mem_cons_of_mem _ ((Site.descendants_sublist hs).subset ht)

/-- The elements that an element stands in are those that it is below. -/
theorem mem_ancestors {s t : Site} (hs : s ∈ d.sites) :
    t ∈ d.ancestors s ↔ t ∈ d.sites ∧ s ∈ t.descendants := by
  rw [ancestors, List.mem_filter, decide_eq_true_iff]
  refine and_congr_right fun ht => ⟨fun ⟨hpre, hne⟩ => ?_, fun hbelow => ?_⟩
  · rcases List.mem_cons.mp ht with rfl | ht
    · rcases List.mem_cons.mp hs with rfl | hs
      · exact absurd rfl hne
      · exact hs
    · rcases List.mem_cons.mp hs with rfl | hs
      · exact absurd (List.prefix_nil.mp hpre) hne
      · exact mem_descendants_of_prefixIn _ _ _ hs ht hpre hne
  · refine ⟨Site.prefix_of_mem_descendants hbelow, fun he => ?_⟩
    exact Nat.lt_irrefl _ (he ▸ Site.length_path_lt hbelow)

end Document

/-! ## Children -/

theorem childrenIn_sublist (path : List Nat) (i : Nat) (ns : List Node) :
    (childrenIn path i ns).Sublist (sitesIn path i ns) := by
  induction ns generalizing i with
  | nil => exact List.Sublist.refl _
  | cons n rest ih =>
    have hself : ((n.element?.map (Site.mk (path ++ [i]))).toList).Sublist (n.sites (path ++ [i])) := by
      cases n <;> simp [Node.element?, Node.sites]
    exact hself.append (ih (n.next i))

theorem Site.children_sublist (s : Site) : s.children.Sublist s.descendants :=
  childrenIn_sublist _ _ _

/-! ## Ways down -/

section
variable (s : Site)

@[simp] theorem Site.follow_nil : s.follow [] = [s] := rfl

/-- A way down goes to a child first and on from there. -/
theorem Site.follow_cons (name : String) (names : List String) :
    s.follow (name :: names) = (s.childrenNamed name).flatMap (·.follow names) := by
  have hfold : ∀ (names : List String) (sites : List Site),
      names.foldl (fun sites name => sites.flatMap (·.childrenNamed name)) sites =
        sites.flatMap (·.follow names) := by
    intro names
    induction names with
    | nil => exact fun sites => (List.flatMap_singleton' sites).symm
    | cons name names ih =>
      intro sites
      rw [List.foldl_cons, ih, List.flatMap_assoc]
      refine List.flatMap_congr fun t _ => ?_
      rw [follow, List.foldl_cons, List.flatMap_singleton, ih]
  rw [follow, List.foldl_cons, List.flatMap_singleton, hfold]

end

/-- What holds of an element and passes from elements to their children holds wherever a way down
leads. -/
theorem Site.of_mem_follow {P : Site → Prop} (hstep : ∀ s, P s → ∀ t ∈ s.children, P t) {s : Site}
    (hs : P s) (names : List String) : ∀ t ∈ s.follow names, P t := by
  induction names generalizing s with
  | nil => simpa using hs
  | cons name names ih =>
    intro t ht
    rw [follow_cons] at ht
    obtain ⟨c, hc, ht⟩ := List.mem_flatMap.mp ht
    exact ih (hstep s hs c (List.mem_of_mem_filter hc)) t ht

/-- A change to elements that keeps their names and comes to their children with them changes nothing
about the ways down. -/
theorem Site.follow_map {f : Site → Site} (hname : ∀ s, (f s).name = s.name)
    (hchildren : ∀ s, (f s).children = s.children.map f) (s : Site) (names : List String) :
    (f s).follow names = (s.follow names).map f := by
  induction names generalizing s with
  | nil => rfl
  | cons name names ih =>
    have hnamed : (f s).childrenNamed name = (s.childrenNamed name).map f := by
      rw [childrenNamed, hchildren, List.filter_map, childrenNamed]
      refine congrArg (List.map f) (List.filter_congr fun t _ => ?_)
      rw [Function.comp_apply, hname]
    rw [follow_cons, hnamed, List.flatMap_map, follow_cons, List.map_flatMap]
    exact List.flatMap_congr fun t _ => ih t

/-! ## Under parents of a name -/

/-- A node counts itself in if its parent has the name, and what is below it either way. -/
theorem Node.sitesUnder_true (parent : String) (n : Node) (path : List Nat) :
    n.sitesUnder parent true path =
      (n.element?.map (Site.mk path)).toList ++ n.sitesUnder parent false path := by
  cases n <;> simp [Node.sitesUnder, Node.element?]

mutual

theorem Node.sitesUnder_sublist (parent : String) : ∀ (n : Node) (here : Bool) (path : List Nat),
    (n.sitesUnder parent here path).Sublist (n.sites path)
  | .element tag children, here, path => by
    have ih := sitesUnderIn_sublist parent children (tag.name.text == parent) path 0
    cases here with
    | true => simpa [Node.sitesUnder, Node.sites] using ih
    | false => simpa [Node.sitesUnder, Node.sites] using ih.cons _
  | .text _, _, _ => by simp [Node.sitesUnder]
  | .comment _, _, _ => by simp [Node.sitesUnder]
  | .instruction _ _, _, _ => by simp [Node.sitesUnder]
  | .reference _, _, _ => by simp [Node.sitesUnder]

theorem sitesUnderIn_sublist (parent : String) : ∀ (ns : List Node) (here : Bool)
    (path : List Nat) (i : Nat), (sitesUnderIn parent here path i ns).Sublist (sitesIn path i ns)
  | [], _, _, _ => by simp [sitesUnderIn]
  | n :: rest, here, path, i => by
    simp only [sitesUnderIn, sitesIn]
    exact (n.sitesUnder_sublist parent here (path ++ [i])).append
      (sitesUnderIn_sublist parent rest here path (n.next i))

end

theorem Site.descendantsUnder_sublist (s : Site) (parent : String) :
    (s.descendantsUnder parent).Sublist s.descendants :=
  sitesUnderIn_sublist _ _ _ _ _

/-- If the nodes' own parent has the name, only more elements are under such a parent. -/
theorem sitesUnderIn_false_sublist (parent : String) (here : Bool) (path : List Nat) (i : Nat)
    (ns : List Node) :
    (sitesUnderIn parent false path i ns).Sublist (sitesUnderIn parent here path i ns) := by
  cases here with
  | false => exact List.Sublist.refl _
  | true =>
    induction ns generalizing i with
    | nil => simp [sitesUnderIn]
    | cons n rest ih =>
      simp only [sitesUnderIn, Node.sitesUnder_true]
      exact (List.sublist_append_right _ _).append (ih _)

mutual

theorem Node.descendantsUnder_sublist (parent : String) : ∀ (n : Node) (here : Bool)
    (path : List Nat) {s : Site}, s ∈ n.sites path →
    (s.descendantsUnder parent).Sublist (n.sitesUnder parent here path)
  | .element tag children, here, path, s, h => by
    simp only [Node.sites, List.mem_cons] at h
    simp only [Node.sitesUnder]
    rcases h with rfl | h
    · exact (sitesUnderIn_false_sublist parent _ path 0 children).trans
        (List.sublist_append_right _ _)
    · exact (sitesIn_descendantsUnder_sublist parent children _ path 0 h).trans
        (List.sublist_append_right _ _)
  | .text _, _, _, _, h => by simp [Node.sites] at h
  | .comment _, _, _, _, h => by simp [Node.sites] at h
  | .instruction _ _, _, _, _, h => by simp [Node.sites] at h
  | .reference _, _, _, _, h => by simp [Node.sites] at h

theorem sitesIn_descendantsUnder_sublist (parent : String) : ∀ (ns : List Node) (here : Bool)
    (path : List Nat) (i : Nat) {s : Site}, s ∈ sitesIn path i ns →
    (s.descendantsUnder parent).Sublist (sitesUnderIn parent here path i ns)
  | [], _, _, _, _, h => by simp [sitesIn] at h
  | n :: rest, here, path, i, s, h => by
    simp only [sitesIn, List.mem_append] at h
    simp only [sitesUnderIn]
    rcases h with h | h
    · exact (n.descendantsUnder_sublist parent here (path ++ [i]) h).trans
        (List.sublist_append_left _ _)
    · exact (sitesIn_descendantsUnder_sublist parent rest here path (n.next i) h).trans
        (List.sublist_append_right _ _)

end

theorem Site.mem_descendantsUnder_trans {parent : String} {s t u : Site} (hs : s ∈ u.descendants)
    (ht : t ∈ s.descendantsUnder parent) : t ∈ u.descendantsUnder parent :=
  (sitesIn_descendantsUnder_sublist parent _ _ _ _ hs).subset ht

end Storyboard.Markup
