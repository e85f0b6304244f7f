import Storyboard.Proofs.Markup.Below
import Storyboard.Text.Blank
/-!
# Documents without separators

The information separators are no legal characters of markup, so a document that has been read has
none in the values of its attributes, whether these are written or filled in by a declaration. The
condition is stated for nodes and passes to everything below them.

* `Node.isUnseparated`: no value of an attribute at or below the node has a separator.
* `isUnseparated_attribute`: what an element answers when it is asked for an attribute has none.
* `Site.isUnseparated_descendants`: the condition passes to all elements below.
-/
namespace Storyboard.Markup

open Storyboard.Text

/-- No character of the text is an information separator. -/
def isUnseparatedText (s : String) : Bool := !s.toList.any isSeparator

/-- No value that the tag states or falls back to has a separator. -/
def Tag.isUnseparated (t : Tag) : Bool :=
  t.attributes.all (fun a => isUnseparatedText a.value) && t.fallbacks.all fun f => isUnseparatedText f.2

mutual

/-- No value of an attribute at or below the node has a separator. -/
def Node.isUnseparated : Node → Bool
  | .element tag children => tag.isUnseparated && areUnseparated children
  | _ => true

def areUnseparated : List Node → Bool
  | [] => true
  | n :: rest => n.isUnseparated && areUnseparated rest

end

def Element.isUnseparated (e : Element) : Bool := e.tag.isUnseparated && areUnseparated e.children

theorem areUnseparated_iff {ns : List Node} :
    areUnseparated ns = true ↔ ∀ n ∈ ns, n.isUnseparated = true := by
  induction ns with
  | nil => simp [areUnseparated]
  | cons n rest ih => simp [areUnseparated, ih]

/-! ## One element -/

section
variable {e : Element}

theorem isUnseparated_own {name : Name} {value : String} (h : e.isUnseparated = true)
    (hv : e.own? name = some value) : isUnseparatedText value = true := by
  simp only [Element.isUnseparated, Tag.isUnseparated, Bool.and_eq_true, List.all_eq_true] at h
  obtain ⟨a, ha, rfl⟩ := Option.map_eq_some_iff.mp hv
  exact h.1.1 a (List.mem_of_find?_eq_some ha)

theorem isUnseparated_attribute {name value : String} (h : e.isUnseparated = true)
    (hv : e.attribute? name = some value) : isUnseparatedText value = true := by
  unfold Element.attribute? Element.valueOf? at hv
  cases hown : e.own? ⟨none, name⟩ with
  | some own =>
    rw [hown] at hv
    cases hv
    exact isUnseparated_own h hown
  | none =>
    rw [hown] at hv
    simp only [Element.isUnseparated, Tag.isUnseparated, Bool.and_eq_true, List.all_eq_true] at h
    obtain ⟨before, after, hsplit, -⟩ := List.lookup_eq_some_iff.mp hv
    exact h.1.2 (⟨none, name⟩, value) (by rw [hsplit]; simp)

theorem isUnseparated_elements {c : Element} (h : e.isUnseparated = true) (hc : c ∈ e.elements) :
    c.isUnseparated = true := by
  obtain ⟨n, hn, hc⟩ := List.mem_filterMap.mp hc
  simp only [Element.isUnseparated, Bool.and_eq_true, areUnseparated_iff] at h
  have hn := h.2 n hn
  cases n with
  | element tag children =>
    cases hc
    exact hn
  | text | comment | instruction | reference => cases hc

theorem isUnseparated_firstChildWith {c : Element} {name : String} {wanted : List (String × String)}
    (h : e.isUnseparated = true) (hc : e.firstChildWith? name wanted = some c) :
    c.isUnseparated = true :=
  isUnseparated_elements h (List.mem_of_mem_filter (List.mem_of_find?_eq_some hc))

end

/-! ## Elements below -/

mutual

theorem Node.isUnseparated_sites : ∀ (n : Node) (path : List Nat), n.isUnseparated = true →
    ∀ s ∈ n.sites path, s.element.isUnseparated = true
  | .element tag children, path, h => by
    intro s hs
    have hchildren : areUnseparated children = true := by
      simp only [Node.isUnseparated, Bool.and_eq_true] at h
      exact h.2
    simp only [Node.sites, List.mem_cons] at hs
    rcases hs with rfl | hs
    · exact h
    · exact isUnseparated_sitesIn children path 0 hchildren s hs
  | .text _, _, _ => by simp [Node.sites]
  | .comment _, _, _ => by simp [Node.sites]
  | .instruction _ _, _, _ => by simp [Node.sites]
  | .reference _, _, _ => by simp [Node.sites]

theorem isUnseparated_sitesIn : ∀ (ns : List Node) (path : List Nat) (i : Nat),
    areUnseparated ns = true → ∀ s ∈ sitesIn path i ns, s.element.isUnseparated = true
  | [], _, _, _ => by simp [sitesIn]
  | n :: rest, path, i, h => by
    intro s hs
    simp only [areUnseparated, Bool.and_eq_true] at h
    simp only [sitesIn, List.mem_append] at hs
    rcases hs with hs | hs
    · exact n.isUnseparated_sites (path ++ [i]) h.1 s hs
    · exact isUnseparated_sitesIn rest path (n.next i) h.2 s hs

end

theorem Site.isUnseparated_descendants {s : Site} (h : s.element.isUnseparated = true) :
    ∀ t ∈ s.descendants, t.element.isUnseparated = true := by
  rw [Element.isUnseparated, Bool.and_eq_true] at h
  exact isUnseparated_sitesIn _ _ _ h.2

theorem Document.isUnseparated_sites {d : Document} (h : d.root.isUnseparated = true) :
    ∀ s ∈ d.sites, s.element.isUnseparated = true :=
  List.forall_mem_cons.mpr ⟨h, Site.isUnseparated_descendants (s := d.site) h⟩

theorem Site.isUnseparated_follow {s : Site} (h : s.element.isUnseparated = true) (names : List String) :
    ∀ t ∈ s.follow names, t.element.isUnseparated = true :=
  Site.of_mem_follow (P := fun t => t.element.isUnseparated = true)
    (fun t ht u hu => t.isUnseparated_descendants ht u (t.children_sublist.subset hu)) h names

end Storyboard.Markup
