import Storyboard.Markup.Node
/-!
# Elements in their place

A site is an element together with its place in the document: the child indexes on the way down from
the root, counting elements only. Two sites of one document are the same element exactly if their
paths are equal. All queries answer with sites, in document order, and pass over text, comments,
instructions and references.
-/
namespace Storyboard.Markup

structure Site where
  path : List Nat
  element : Element
  deriving Repr

/-- The number of the next element behind a node. -/
def Node.next (i : Nat) (n : Node) : Nat := if n.isElement then i + 1 else i

/-- The elements among the nodes, numbered from `i`. -/
def childrenIn (path : List Nat) (i : Nat) : List Node → List Site
  | [] => []
  | n :: rest => (n.element?.map (Site.mk (path ++ [i]))).toList ++ childrenIn path (n.next i) rest

mutual

/-- A node, if it is an element, and the elements below it, each before what it contains. -/
def Node.sites (path : List Nat) : Node → List Site
  | .element tag children => ⟨path, ⟨tag, children⟩⟩ :: sitesIn path 0 children
  | _ => []

/-- The elements among the nodes and below them, numbered from `i`. -/
def sitesIn (path : List Nat) (i : Nat) : List Node → List Site
  | [] => []
  | n :: rest => n.sites (path ++ [i]) ++ sitesIn path (n.next i) rest

end

mutual

/-- The elements at and below a node whose parent has the given name; `here` says whether the
node's own parent has it. -/
def Node.sitesUnder (parent : String) (here : Bool) (path : List Nat) : Node → List Site
  | .element tag children =>
    (if here then [⟨path, ⟨tag, children⟩⟩] else []) ++
      sitesUnderIn parent (tag.name.text == parent) path 0 children
  | _ => []

def sitesUnderIn (parent : String) (here : Bool) (path : List Nat) (i : Nat) :
    List Node → List Site
  | [] => []
  | n :: rest =>
    n.sitesUnder parent here (path ++ [i]) ++ sitesUnderIn parent here path (n.next i) rest

end

namespace Site

def name (s : Site) : String := s.element.name

def attribute? (s : Site) (name : String) : Option String := s.element.attribute? name

def children (s : Site) : List Site := childrenIn s.path 0 s.element.children

/-- All elements below. Mirrors `iter_elements`. -/
def descendants (s : Site) : List Site := sitesIn s.path 0 s.element.children

/-- The elements below whose parent is also below and has the given name.
Mirrors `find_by_xpath` for `.//parent/*`. -/
def descendantsUnder (s : Site) (parent : String) : List Site :=
  sitesUnderIn parent false s.path 0 s.element.children

/-- Mirrors `find_children`. -/
def childrenNamed (s : Site) (name : String) : List Site := s.children.filter (·.name == name)

/-- The elements reached by going down through children of the given names in turn.
Mirrors `find_path`. -/
def follow (s : Site) (names : List String) : List Site :=
  names.foldl (fun sites name => sites.flatMap (·.childrenNamed name)) [s]

end Site

namespace Document

def site (d : Document) : Site := ⟨[], d.root⟩

/-- All elements of the document, the root first. -/
def sites (d : Document) : List Site := d.site :: d.site.descendants

/-- Mirrors `find_by_xpath` for `//name`. -/
def sitesNamed (d : Document) (name : String) : List Site := d.sites.filter (·.name == name)

/-- The element at a place. -/
def siteAt? (d : Document) (path : List Nat) : Option Site :=
  path.foldl (fun site i => site.bind fun s => s.children[i]?) (some d.site)

end Document

end Storyboard.Markup
