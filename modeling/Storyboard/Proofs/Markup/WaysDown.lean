import Storyboard.Proofs.Markup.Below
import Storyboard.Proofs.Markup.Plain
/-!
# Ways down

A way down from an element goes to one of the elements directly inside, and on from there. It passes as
many names as it goes levels down. Going down through children of given names leads to the ends of all
ways that pass these names: each once, in document order. Put differently, it selects from all elements
below those that stand under, and have, the given names. Nodes that are no elements make no difference:
without them the same ways lead to the same places.

* `IsWay`: a way down, by the numbers and names of the elements that it passes.
* `mem_follow`: going down leads to the ends of all ways that pass the names.
* `wayTo_of_child`: the elements that an element stands in, seen from one level up.
* `follow_eq_filter`: going down selects from all elements below.
* `follow_onlyElements`: other nodes make no difference.
* `ways_followed`: all of this for the elements that are found.
-/
namespace Storyboard.Markup

/-- A way from the first element down to the last: at each level it goes to the element of a number
among those directly inside, and passes its name. -/
inductive IsWay : Element → List Nat → List String → Element → Prop where
  | here (e : Element) : IsWay e [] [] e
  | down {e c t : Element} {i : Nat} {path : List Nat} {names : List String}
    (hc : e.elements[i]? = some c) (h : IsWay c path names t) : IsWay e (i :: path) (c.name :: names) t

theorem IsWay.length_path {e t : Element} {path : List Nat} {names : List String}
    (h : IsWay e path names t) : path.length = names.length := by
  induction h with
  | here => rfl
  | down _ _ ih => rw [List.length_cons, List.length_cons, ih]

/-- Children are the elements directly inside, numbered. -/
theorem childrenIn_eq (path : List Nat) (i : Nat) (ns : List Node) :
    childrenIn path i ns =
      ((ns.filterMap Node.element?).zipIdx i).map fun (e, j) => ⟨path ++ [j], e⟩ := by
  induction ns generalizing i with
  | nil => rfl
  | cons n rest ih =>
    rw [childrenIn, ih]
    cases n <;> rfl

/-! ## Lists of lists -/

theorem flatMap_filter {α β : Type} (p : α → Bool) (f : α → List β) (l : List α) :
    (l.filter p).flatMap f = l.flatMap fun a => if p a then f a else [] := by
  induction l with
  | nil => rfl
  | cons a rest ih => cases h : p a <;> simp [h, ih]

theorem flatMap_of_only {α β : Type} {f : α → List β} {a : α} {l : List α} (hnodup : l.Nodup)
    (ha : a ∈ l) (h : ∀ b ∈ l, b ≠ a → f b = []) : l.flatMap f = f a := by
  induction l with
  | nil => cases ha
  | cons b rest ih =>
    obtain ⟨hb, hrest⟩ := List.nodup_cons.mp hnodup
    obtain ⟨hfirst, hothers⟩ := List.forall_mem_cons.mp h
    rw [List.flatMap_cons]
    rcases List.mem_cons.mp ha with rfl | ha
    · have hnone : rest.flatMap f = [] := List.flatMap_eq_nil_iff.mpr fun c hc =>
        hothers c hc fun he => hb (he ▸ hc)
      rw [hnone, List.append_nil]
    · rw [hfirst fun he => hb (he ▸ ha), ih hrest ha hothers, List.nil_append]

namespace Site

/-! ## Children and what is below them -/

theorem mem_children {s c : Site} :
    c ∈ s.children ↔ ∃ i, s.element.elements[i]? = some c.element ∧ c.path = s.path ++ [i] := by
  obtain ⟨path, e⟩ := c
  rw [children, childrenIn_eq, List.mem_map]
  constructor
  · rintro ⟨⟨e', i⟩, hmem, heq⟩
    obtain ⟨rfl, rfl⟩ := Site.mk.inj heq
    exact ⟨i, List.mk_mem_zipIdx_iff_getElem?.mp hmem, rfl⟩
  · rintro ⟨i, he, rfl⟩
    exact ⟨(e, i), List.mk_mem_zipIdx_iff_getElem?.mpr he, rfl⟩

theorem length_path_of_mem_children {s c : Site} (h : c ∈ s.children) :
    c.path.length = s.path.length + 1 := by
  obtain ⟨i, -, hpath⟩ := mem_children.mp h
  rw [hpath, List.length_append, List.length_singleton]

theorem prefix_of_mem_cons_descendants {s t : Site} (h : t ∈ s :: s.descendants) : s.path <+: t.path := by
  rcases List.mem_cons.mp h with rfl | h
  · exact List.prefix_rfl
  · exact prefix_of_mem_descendants h

/-- The elements below are the children, each with what is below it behind it. -/
theorem descendants_eq_flatMap (s : Site) :
    s.descendants = s.children.flatMap fun c => c :: c.descendants := by
  have hall : ∀ (ns : List Node) (i : Nat),
      sitesIn s.path i ns = (childrenIn s.path i ns).flatMap fun c => c :: c.descendants := by
    intro ns
    induction ns with
    | nil => exact fun _ => rfl
    | cons n rest ih =>
      intro i
      rw [sitesIn, childrenIn, List.flatMap_append, ih]
      cases n with
      | element tag children => simp [Node.sites, Node.element?, descendants]
      | _ => simp [Node.sites, Node.element?]
  exact hall _ _

/-! ## The ends of ways -/

/-- **Going down leads to the ends of ways**: of all that pass the given names. -/
theorem mem_follow {s t : Site} {names : List String} :
    t ∈ s.follow names ↔ ∃ path, t.path = s.path ++ path ∧ IsWay s.element path names t.element := by
  induction names generalizing s with
  | nil =>
    rw [follow_nil, List.mem_singleton]
    constructor
    · rintro rfl
      exact ⟨[], (List.append_nil _).symm, .here _⟩
    · rintro ⟨path, hpath, hway⟩
      obtain ⟨place, e⟩ := t
      cases hway
      obtain rfl : place = s.path := hpath.trans (List.append_nil _)
      rfl
  | cons first names ih =>
    rw [follow_cons, List.mem_flatMap]
    constructor
    · rintro ⟨c, hc, ht⟩
      obtain ⟨hchild, hname⟩ := List.mem_filter.mp hc
      obtain ⟨i, hi, hci⟩ := mem_children.mp hchild
      obtain ⟨path, hpath, hway⟩ := ih.mp ht
      refine ⟨i :: path, by rw [hpath, hci, List.append_assoc, List.singleton_append], ?_⟩
      rw [← beq_iff_eq.mp hname]
      exact .down hi hway
    · rintro ⟨path, hpath, hway⟩
      cases hway with
      | @down _ c _ i path _ hi hrest =>
        refine ⟨⟨s.path ++ [i], c⟩, List.mem_filter.mpr ⟨mem_children.mpr ⟨i, hi, rfl⟩, ?_⟩, ?_⟩
        · exact beq_iff_eq.mpr rfl
        · exact ih.mpr ⟨path, by rw [hpath, List.append_assoc, List.singleton_append], hrest⟩

/-! ## The elements that an element stands in -/

/-- The elements below `s` that `t` is or stands in, from the outermost to `t` itself. -/
def wayTo (s t : Site) : List Site := s.descendants.filter fun u => decide (u.path <+: t.path)

@[simp] theorem wayTo_self (s : Site) : s.wayTo s = [] := by
  refine List.filter_eq_nil_iff.mpr fun u hu hpre => ?_
  have hshort := (of_decide_eq_true hpre).length_le
  have hlong := length_path_lt hu
  omega

theorem mem_wayTo {s t : Site} (h : t ∈ s.descendants) : t ∈ s.wayTo t :=
  List.mem_filter.mpr ⟨h, by simp⟩

/-- No other child, and nothing below one, is above an element that is at or below a child. -/
theorem filter_wayTo_of_other {s c d t : Site} (hc : c ∈ s.children) (hd : d ∈ s.children)
    (hne : d.path ≠ c.path) (ht : t ∈ c :: c.descendants) :
    (d :: d.descendants).filter (fun u => decide (u.path <+: t.path)) = [] := by
  refine List.filter_eq_nil_iff.mpr fun u hu hut => hne ?_
  have hdt := (prefix_of_mem_cons_descendants hu).trans (of_decide_eq_true hut)
  have hlength : d.path.length = c.path.length := by
    rw [length_path_of_mem_children hd, length_path_of_mem_children hc]
  exact (List.prefix_of_prefix_length_le hdt (prefix_of_mem_cons_descendants ht)
    hlength.le).eq_of_length hlength

/-- The way to an element goes to the child that it is at or below, and on from there. -/
theorem wayTo_of_child {s c t : Site} (hc : c ∈ s.children) (ht : t ∈ c :: c.descendants) :
    s.wayTo t = c :: c.wayTo t := by
  have hbelow := s.children_sublist.subset
  have hnodup : s.children.Nodup := (List.Nodup.of_map _ s.descendants_nodup_path).sublist s.children_sublist
  have hothers : ∀ d ∈ s.children, d ≠ c →
      (d :: d.descendants).filter (fun u => decide (u.path <+: t.path)) = [] := fun d hd hne =>
    filter_wayTo_of_other hc hd (mt (eq_of_path_eq (hbelow hd) (hbelow hc)) hne) ht
  rw [wayTo, descendants_eq_flatMap, List.filter_flatMap, flatMap_of_only hnodup hc hothers]
  exact List.filter_cons_of_pos (decide_eq_true (prefix_of_mem_cons_descendants ht))

/-! ## A selection from all elements -/

/-- **The elements found** are those on the way to which the names are the given ones. -/
theorem follow_eq_filter (s : Site) (names : List String) :
    s.follow names =
      (s :: s.descendants).filter fun t => decide ((s.wayTo t).map name = names) := by
  induction names generalizing s with
  | nil =>
    have hnone : s.descendants.filter (fun t => decide ((s.wayTo t).map name = [])) = [] := by
      refine List.filter_eq_nil_iff.mpr fun t ht hnil => ?_
      exact List.ne_nil_of_mem (mem_wayTo ht) (List.map_eq_nil_iff.mp (of_decide_eq_true hnil))
    rw [List.filter_cons_of_pos (by simp), hnone, follow_nil]
  | cons first names ih =>
    rw [List.filter_cons_of_neg (by simp), descendants_eq_flatMap, List.filter_flatMap, follow_cons,
      childrenNamed, flatMap_filter]
    refine List.flatMap_congr fun c hc => ?_
    -- seen from the parent, the name of the child is in front
    have hway : ∀ t ∈ c :: c.descendants,
        decide ((s.wayTo t).map name = first :: names) =
          (c.name == first && decide ((c.wayTo t).map name = names)) := by
      intro t ht
      simp only [wayTo_of_child hc ht, List.map_cons, List.cons.injEq, Bool.decide_and]
      rfl
    rw [List.filter_congr hway]
    cases hname : c.name == first with
    | true => simpa using ih c
    | false => simp

/-- The elements found are in document order, and no two are at one place. -/
theorem follow_ordered (s : Site) (names : List String) :
    (s.follow names).Pairwise fun t u => t.path < u.path := by
  rw [follow_eq_filter]
  exact s.ordered.filter _

end Site

/-! ## Nodes that are no elements -/

mutual

/-- A node with what is behind it, and of both the elements only. -/
def Node.onlyElements (behind : List Node) : Node → List Node
  | .element tag children => .element tag (onlyElements children) :: behind
  | _ => behind

def onlyElements : List Node → List Node
  | [] => []
  | n :: rest => n.onlyElements (onlyElements rest)

end

/-- The site with nothing in it but elements. -/
def Site.onlyElements (s : Site) : Site :=
  ⟨s.path, s.element.tag, Markup.onlyElements s.element.children⟩

theorem Site.children_onlyElements (s : Site) :
    s.onlyElements.children = s.children.map Site.onlyElements := by
  have hall : ∀ (ns : List Node) (i : Nat),
      childrenIn s.path i (Markup.onlyElements ns) = (childrenIn s.path i ns).map Site.onlyElements := by
    intro ns
    induction ns with
    | nil => exact fun _ => rfl
    | cons n rest ih =>
      intro i
      rw [Markup.onlyElements]
      cases n with
      | element tag children => exact congrArg (_ :: ·) (ih (i + 1))
      | text | comment | instruction | reference => exact ih i
  exact hall _ _

/-- Ways down lead to the same places without the other nodes. -/
theorem Site.follow_onlyElements (s : Site) (names : List String) :
    s.onlyElements.follow names = (s.follow names).map Site.onlyElements :=
  follow_map (f := Site.onlyElements) (fun _ => rfl) children_onlyElements s names

/-- **Ways are followed.** Going down through children of the given names leads to an element exactly if
a way down to it passes these names, one at each of as many levels. The elements found stand in the order
of the document, each once, and it makes no difference what other nodes there are. -/
theorem Site.ways_followed (s : Site) (names : List String) :
    (∀ t, t ∈ s.follow names ↔ ∃ path, path.length = names.length ∧ t.path = s.path ++ path ∧
      IsWay s.element path names t.element) ∧
    (s.follow names).Sublist (s :: s.descendants) ∧
    (s.follow names).Pairwise (fun t u => t.path < u.path) ∧
    s.onlyElements.follow names = (s.follow names).map Site.onlyElements := by
  refine ⟨fun t => ?_, ?_, s.follow_ordered names, s.follow_onlyElements names⟩
  · rw [mem_follow]
    exact ⟨fun ⟨path, hpath, hway⟩ => ⟨path, hway.length_path, hpath, hway⟩,
      fun ⟨path, _, hpath, hway⟩ => ⟨path, hpath, hway⟩⟩
  · rw [follow_eq_filter]
    exact List.filter_sublist

example : ((plainScreen [plain "a" [] [.comment "", plain "a" [] [], plain "b" [] []], .reference "r",
      plain "b" [] [plain "a" [] []], .text "", plain "a" [] [plain "a" [] []]]).follow ["a", "a"]).map
    Site.path = [[0, 0], [2, 0]] := by
  decide +kernel

end Storyboard.Markup
