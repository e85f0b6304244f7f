import Storyboard.Proofs.Markup.Below
/-!
# The texts of a document

What a document says stands in the values of its attributes and in its text. Whatever is read from an
element, and from the elements below it, is one of its texts, or is put together from some of them.

* `Element.texts`: the texts at and below an element.
* `attribute_mem_texts`, `text_eq_join`: what is read from one element.
* `texts_of_mem_elements`, `Document.texts_of_mem_sites`: the texts of elements below.
-/
namespace Storyboard.Markup

/-- The values that a tag states or falls back to. -/
def Tag.texts (t : Tag) : List String := t.attributes.map Attribute.value ++ t.fallbacks.map Prod.snd

mutual

/-- The attribute values and texts at and below a node. -/
def Node.texts : Node → List String
  | .element tag children => tag.texts ++ textsInside children
  | .text content => [content]
  | _ => []

def textsInside : List Node → List String
  | [] => []
  | n :: rest => n.texts ++ textsInside rest

end

/-- The attribute values and texts at and below an element. -/
def Element.texts (e : Element) : List String := e.tag.texts ++ textsInside e.children

theorem texts_of_mem {n : Node} {ns : List Node} (h : n ∈ ns) : n.texts ⊆ textsInside ns := by
  induction ns with
  | nil => cases h
  | cons m rest ih =>
    intro s hs
    rw [textsInside, List.mem_append]
    rcases List.mem_cons.mp h with rfl | h
    · exact .inl hs
    · exact .inr (ih h hs)

/-! ## One element -/

section
variable {e : Element}

theorem own_mem_texts {name : Name} {value : String} (h : e.own? name = some value) :
    value ∈ e.texts := by
  obtain ⟨a, ha, rfl⟩ := Option.map_eq_some_iff.mp h
  have hvalue : a.value ∈ e.tag.texts :=
    List.mem_append_left _ (List.mem_map_of_mem (List.mem_of_find?_eq_some ha))
  exact List.mem_append_left _ hvalue

/-- What an element answers when it is asked for an attribute is one of its texts. -/
theorem attribute_mem_texts {name value : String} (h : e.attribute? name = some value) :
    value ∈ e.texts := by
  unfold Element.attribute? Element.valueOf? at h
  cases hown : e.own? ⟨none, name⟩ with
  | some own =>
    rw [hown] at h
    cases h
    exact own_mem_texts hown
  | none =>
    rw [hown] at h
    obtain ⟨before, after, hsplit, -⟩ := List.lookup_eq_some_iff.mp h
    have hvalue : value ∈ e.tag.fallbacks.map Prod.snd := by
      rw [hsplit]
      simp
    exact List.mem_append_left _ (List.mem_append_right _ hvalue)

theorem attributes_mem_texts {p : String × String} (h : p ∈ e.attributes) : p.2 ∈ e.texts := by
  obtain ⟨a, ha, rfl⟩ := List.mem_map.mp h
  exact List.mem_append_left _ (List.mem_append_left _ (List.mem_map_of_mem ha))

theorem texts_of_mem_elements {c : Element} (h : c ∈ e.elements) : c.texts ⊆ e.texts := by
  obtain ⟨n, hn, hc⟩ := List.mem_filterMap.mp h
  cases n with
  | element tag children =>
    cases hc
    have hinside : Node.texts (.element tag children) ⊆ textsInside e.children := texts_of_mem hn
    exact fun s hs => List.mem_append_right _ (hinside hs)
  | text | comment | instruction | reference => cases hc

theorem leadingText_subset (ns : List Node) : leadingText ns ⊆ textsInside ns := by
  induction ns with
  | nil => exact List.Subset.refl _
  | cons n rest ih =>
    cases n with
    | text content =>
      intro s hs
      rw [textsInside, List.mem_append]
      rcases List.mem_cons.mp hs with rfl | hs
      · exact .inl List.mem_cons_self
      · exact .inr (ih hs)
    | element | comment | instruction | reference => exact List.nil_subset _

/-- The text of an element is put together from texts. -/
theorem text_eq_join {text : String} (h : e.text? = some text) :
    ∃ parts ⊆ e.texts, text = String.join parts := by
  have hsub : leadingText e.children ⊆ e.texts := fun s hs =>
    List.mem_append_right _ (leadingText_subset _ hs)
  unfold Element.text? at h
  split at h
  · cases h
  · cases h
    exact ⟨_, hsub, rfl⟩

end

/-! ## Elements below -/

mutual

theorem Node.texts_of_mem_sites : ∀ (n : Node) (path : List Nat) {s : Site}, s ∈ n.sites path →
    s.element.texts ⊆ n.texts
  | .element tag children, path, s, h => by
    simp only [Node.sites, List.mem_cons] at h
    rcases h with rfl | h
    · exact List.Subset.refl _
    · have hbelow := texts_of_mem_sitesIn children path 0 h
      exact fun t ht => List.mem_append_right _ (hbelow ht)
  | .text _, _, _, h => by simp [Node.sites] at h
  | .comment _, _, _, h => by simp [Node.sites] at h
  | .instruction _ _, _, _, h => by simp [Node.sites] at h
  | .reference _, _, _, h => by simp [Node.sites] at h

theorem texts_of_mem_sitesIn : ∀ (ns : List Node) (path : List Nat) (i : Nat) {s : Site},
    s ∈ sitesIn path i ns → s.element.texts ⊆ textsInside ns
  | [], _, _, _, h => by simp [sitesIn] at h
  | n :: rest, path, i, s, h => by
    simp only [sitesIn, List.mem_append] at h
    intro t ht
    rw [textsInside, List.mem_append]
    rcases h with h | h
    · exact .inl (n.texts_of_mem_sites (path ++ [i]) h ht)
    · exact .inr (texts_of_mem_sitesIn rest path (n.next i) h ht)

end

theorem Site.texts_of_mem_descendants {s t : Site} (h : t ∈ s.descendants) :
    t.element.texts ⊆ s.element.texts := fun _ hx =>
  List.mem_append_right _ (texts_of_mem_sitesIn _ _ _ h hx)

theorem Document.texts_of_mem_sites {d : Document} {s : Site} (h : s ∈ d.sites) :
    s.element.texts ⊆ d.root.texts := by
  rcases List.mem_cons.mp h with rfl | h
  · exact List.Subset.refl _
  · exact Site.texts_of_mem_descendants h

theorem Site.texts_of_mem_follow {s t : Site} {names : List String} (h : t ∈ s.follow names) :
    t.element.texts ⊆ s.element.texts :=
  Site.of_mem_follow (P := fun t => t.element.texts ⊆ s.element.texts)
    (fun u ht _ hv => List.Subset.trans (texts_of_mem_descendants (u.children_sublist.subset hv)) ht)
    (List.Subset.refl _) names t h

end Storyboard.Markup
