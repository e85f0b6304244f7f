import Storyboard.Proofs.Markup.Below
/-!
# Documents without asides

Comments and processing instructions are asides: they stand beside the elements and texts of a document
and are none of them. Without its asides, a document has the same elements at the same places, each with
the same tag. Only the text of an element can change: it ends at the first node that is no text, and
without an aside it goes on behind it.

* `nodesWithoutAsides`, `Document.withoutAsides`: asides left out, and the texts around them joined.
* `sitesIn_withoutAsides`, `Site.follow_withoutAsides`, `elements_withoutAsides`: every query for elements
  finds the same ones.
* `wholeText?`, `text?_withoutAsides`: the text of an element that asides do not end.
-/
namespace Storyboard.Markup

/-- A text in front of nodes, joined with the text that they start with. -/
def consText (s : String) : List Node → List Node
  | .text t :: rest => .text (s ++ t) :: rest
  | nodes => .text s :: nodes

mutual

/-- A node with what is behind it, without the asides in it and without the node if it is one. -/
def Node.withoutAsides (behind : List Node) : Node → List Node
  | .element tag children => .element tag (nodesWithoutAsides children) :: behind
  | .text s => consText s behind
  | .reference entity => .reference entity :: behind
  | .comment _ => behind
  | .instruction _ _ => behind

def nodesWithoutAsides : List Node → List Node
  | [] => []
  | n :: rest => n.withoutAsides (nodesWithoutAsides rest)

end

def Element.withoutAsides (e : Element) : Element := ⟨e.tag, nodesWithoutAsides e.children⟩

def Site.withoutAsides (s : Site) : Site := ⟨s.path, s.element.withoutAsides⟩

def Document.withoutAsides (d : Document) : Document := ⟨d.root.withoutAsides⟩

/-- What passes over texts does not tell a joined text from two. -/
theorem apply_consText {α : Type} {f : List Node → α} (h : ∀ t ns, f (.text t :: ns) = f ns) (s : String)
    (ns : List Node) : f (consText s ns) = f ns := by
  unfold consText
  split
  · rw [h, h]
  · exact h s ns

/-! ## Tags -/

section
variable (e : Element)

@[simp] theorem Element.name_withoutAsides : e.withoutAsides.name = e.name := rfl

@[simp] theorem Element.attribute?_withoutAsides (name : String) :
    e.withoutAsides.attribute? name = e.attribute? name := rfl

end

@[simp] theorem Site.name_withoutAsides (s : Site) : s.withoutAsides.name = s.name := rfl

@[simp] theorem Site.attribute?_withoutAsides (s : Site) (name : String) :
    s.withoutAsides.attribute? name = s.attribute? name := rfl

/-! ## Elements inside -/

theorem filterMap_element?_withoutAsides : ∀ ns : List Node,
    (nodesWithoutAsides ns).filterMap Node.element? =
      (ns.filterMap Node.element?).map Element.withoutAsides
  | [] => rfl
  | n :: rest => by
    have ih := filterMap_element?_withoutAsides rest
    rw [nodesWithoutAsides]
    cases n with
    | element tag children => exact congrArg (Element.withoutAsides ⟨tag, children⟩ :: ·) ih
    | text s =>
      rw [Node.withoutAsides, apply_consText (f := List.filterMap Node.element?) fun _ _ => rfl]
      exact ih
    | comment | instruction | reference => exact ih

section
variable (e : Element)

theorem Element.elements_withoutAsides :
    e.withoutAsides.elements = e.elements.map Element.withoutAsides :=
  filterMap_element?_withoutAsides e.children

theorem Element.childrenNamed_withoutAsides (name : String) :
    e.withoutAsides.childrenNamed name = (e.childrenNamed name).map Element.withoutAsides := by
  simp only [Element.childrenNamed, elements_withoutAsides, List.filter_map]
  rfl

theorem Element.firstChild?_withoutAsides (name : String) :
    e.withoutAsides.firstChild? name = (e.firstChild? name).map Element.withoutAsides := by
  simp only [Element.firstChild?, childrenNamed_withoutAsides, List.head?_map]

theorem Element.firstChildWith?_withoutAsides (name : String) (wanted : List (String × String)) :
    e.withoutAsides.firstChildWith? name wanted =
      (e.firstChildWith? name wanted).map Element.withoutAsides := by
  simp only [Element.firstChildWith?, childrenNamed_withoutAsides, List.find?_map]
  rfl

end

/-! ## Elements in their place -/

theorem childrenIn_withoutAsides (path : List Nat) : ∀ (ns : List Node) (i : Nat),
    childrenIn path i (nodesWithoutAsides ns) = (childrenIn path i ns).map Site.withoutAsides
  | [], _ => rfl
  | n :: rest, i => by
    have ih := childrenIn_withoutAsides path rest (n.next i)
    rw [nodesWithoutAsides]
    cases n with
    | element tag children =>
      simp only [Node.withoutAsides, childrenIn, List.map_append]
      exact congrArg (_ :: ·) ih
    | text s =>
      rw [Node.withoutAsides, apply_consText (f := childrenIn path i) fun _ _ => rfl]
      exact ih
    | comment | instruction | reference => exact ih

-- a text is joined with the one behind it, so one node is looked at in front of others
mutual

theorem Node.sitesIn_withoutAsides (behind : List Node) : ∀ (n : Node) (path : List Nat) (i : Nat),
    sitesIn path i (n.withoutAsides behind) =
      (n.sites (path ++ [i])).map Site.withoutAsides ++ sitesIn path (n.next i) behind
  | .element tag children, path, i => by
    simp only [Node.withoutAsides, sitesIn, Node.sites, List.map_cons,
      sitesIn_withoutAsides children (path ++ [i]) 0]
    rfl
  | .text s, path, i => by
    rw [Node.withoutAsides, apply_consText (f := sitesIn path i) fun _ _ => rfl]
    rfl
  | .comment _, _, _ => rfl
  | .instruction _ _, _, _ => rfl
  | .reference _, _, _ => rfl

/-- The elements at and below nodes are the same without asides, at the same places. -/
theorem sitesIn_withoutAsides : ∀ (ns : List Node) (path : List Nat) (i : Nat),
    sitesIn path i (nodesWithoutAsides ns) = (sitesIn path i ns).map Site.withoutAsides
  | [], _, _ => rfl
  | n :: rest, path, i => by
    rw [nodesWithoutAsides, n.sitesIn_withoutAsides, sitesIn_withoutAsides rest, sitesIn,
      List.map_append]

end

section
variable (s : Site)

theorem Site.children_withoutAsides :
    s.withoutAsides.children = s.children.map Site.withoutAsides :=
  childrenIn_withoutAsides s.path s.element.children 0

theorem Site.descendants_withoutAsides :
    s.withoutAsides.descendants = s.descendants.map Site.withoutAsides :=
  sitesIn_withoutAsides s.element.children s.path 0

/-- Going down from an element leads to the same elements. -/
theorem Site.follow_withoutAsides (names : List String) :
    s.withoutAsides.follow names = (s.follow names).map Site.withoutAsides :=
  s.follow_map name_withoutAsides children_withoutAsides names

end

section
variable (d : Document)

theorem Document.site_withoutAsides : d.withoutAsides.site = d.site.withoutAsides := rfl

theorem Document.sites_withoutAsides : d.withoutAsides.sites = d.sites.map Site.withoutAsides := by
  rw [Document.sites, site_withoutAsides, Site.descendants_withoutAsides]
  rfl

theorem Document.sitesNamed_withoutAsides (name : String) :
    d.withoutAsides.sitesNamed name = (d.sitesNamed name).map Site.withoutAsides := by
  simp only [Document.sitesNamed, sites_withoutAsides, List.filter_map]
  rfl

end

/-! ## Texts -/

/-- The texts in front of the first element or reference. -/
def textsAhead : List Node → List String
  | .text content :: rest => content :: textsAhead rest
  | .comment _ :: rest => textsAhead rest
  | .instruction _ _ :: rest => textsAhead rest
  | _ => []

/-- Texts in one; `none` if there are none. -/
def joinedText? : List String → Option String
  | [] => none
  | parts => some (String.join parts)

/-- The text before the first element or reference; `none` if there is no such text node. -/
def Element.wholeText? (e : Element) : Option String := joinedText? (textsAhead e.children)

theorem joinedText?_cons (s : String) (parts : List String) :
    joinedText? (s :: parts) = some (s ++ (joinedText? parts).getD "") := by
  cases parts with
  | nil => simp [joinedText?]
  | cons t rest => simp [joinedText?, String.join_cons]

theorem joinedText?_leadingText_consText (s : String) (ns : List Node) :
    joinedText? (leadingText (consText s ns)) = some (s ++ (joinedText? (leadingText ns)).getD "") := by
  unfold consText
  split
  · simp only [leadingText, joinedText?_cons, Option.getD_some, String.append_assoc]
  · rw [leadingText, joinedText?_cons]

theorem joinedText?_withoutAsides : ∀ ns : List Node,
    joinedText? (leadingText (nodesWithoutAsides ns)) = joinedText? (textsAhead ns)
  | [] => rfl
  | n :: rest => by
    have ih := joinedText?_withoutAsides rest
    rw [nodesWithoutAsides]
    cases n with
    | text s =>
      rw [Node.withoutAsides, joinedText?_leadingText_consText, ih, textsAhead, joinedText?_cons]
    | comment | instruction => exact ih
    | element | reference => rfl

/-- Without asides, a text goes on to the first element or reference. -/
theorem Element.text?_withoutAsides (e : Element) : e.withoutAsides.text? = e.wholeText? :=
  joinedText?_withoutAsides e.children

end Storyboard.Markup
