/-!
# The markup tree

A document is one element; an element has a tag and a list of nodes. Text, comments, processing
instructions and references to entities are nodes beside the elements, so what an element contains
can be asked for with or without them. A reference inside an attribute value keeps its name next to
the text it stands for: reading the attribute gives the text, writing it back gives the reference.

An element may have fallbacks for attributes it does not have. Looking up an attribute by name finds
them; what lists or compares the element's own attributes does not.
-/
namespace Storyboard.Markup

/-- A name in a namespace (or in none). -/
structure Name where
  space : Option String
  base : String
  deriving Repr, DecidableEq

/-- The name as one text: the namespace in braces, then the name itself. -/
def Name.text (n : Name) : String :=
  match n.space with
  | none => n.base
  | some uri => "\x7b" ++ uri ++ "\x7d" ++ n.base

/-- A name as it is written with its label. -/
def writtenName (label : Option String) (base : String) : String :=
  match label with
  | none => base
  | some label => label ++ ":" ++ base

/-- A part of an attribute value. -/
inductive Piece where
  | text (content : String)
  | reference (entity expansion : String)
  deriving Repr, DecidableEq

def Piece.value : Piece → String
  | .text content => content
  | .reference _ expansion => expansion

/-- An attribute; `label` is the namespace label it is written with. -/
structure Attribute where
  name : Name
  label : Option String
  pieces : List Piece
  deriving Repr, DecidableEq

/-- The attribute's value, references replaced by what they stand for. -/
def Attribute.value (a : Attribute) : String := String.join (a.pieces.map Piece.value)

/-- What a start tag says. `declared` lists the namespaces it declares, by label; `fallbacks` are
values that the document's declarations give to attributes of such an element. -/
structure Tag where
  name : Name
  label : Option String
  declared : List (Option String × String)
  attributes : List Attribute
  fallbacks : List (Name × String)
  deriving Repr, DecidableEq

inductive Node where
  | element (tag : Tag) (children : List Node)
  | text (content : String)
  | comment (content : String)
  | instruction (target : String) (content : Option String)
  | reference (entity : String)
  deriving Repr

structure Element where
  tag : Tag
  children : List Node
  deriving Repr

def Node.isElement : Node → Bool
  | .element .. => true
  | _ => false

/-- The element of a node, if it is one. -/
def Node.element? : Node → Option Element
  | .element tag children => some ⟨tag, children⟩
  | _ => none

/-- A document is its outermost element. -/
structure Document where
  root : Element
  deriving Repr

namespace Element

/-- The element's name, as one text. -/
def name (e : Element) : String := e.tag.name.text

/-- The value that the element itself has for the attribute of this name. -/
def own? (e : Element) (name : Name) : Option String :=
  (e.tag.attributes.find? (·.name == name)).map Attribute.value

/-- The value of the attribute of this name, its fallback if the element does not have it. -/
def valueOf? (e : Element) (name : Name) : Option String :=
  e.own? name <|> e.tag.fallbacks.lookup name

/-- The value of the attribute of this name in no namespace. Mirrors `get_attr`. -/
def attribute? (e : Element) (name : String) : Option String := e.valueOf? ⟨none, name⟩

/-- The element's own value of the attribute of this name in no namespace. -/
def ownAttribute? (e : Element) (name : String) : Option String := e.own? ⟨none, name⟩

/-- The element's attributes by name, in the order they were written. -/
def attributes (e : Element) : List (String × String) :=
  e.tag.attributes.map fun a => (a.name.text, a.value)

/-- The elements directly inside. -/
def elements (e : Element) : List Element := e.children.filterMap Node.element?

/-- Mirrors `find_children`. -/
def childrenNamed (e : Element) (name : String) : List Element :=
  e.elements.filter (·.name == name)

/-- Does the element have all these attribute values? -/
def matchesAll (e : Element) (wanted : List (String × String)) : Bool :=
  wanted.all fun (name, value) => e.attribute? name == some value

/-- The first child of the given name. -/
def firstChild? (e : Element) (name : String) : Option Element := (e.childrenNamed name).head?

/-- The first child of the given name and attribute values. Mirrors `find_first`. -/
def firstChildWith? (e : Element) (name : String) (wanted : List (String × String)) :
    Option Element :=
  (e.childrenNamed name).find? (·.matchesAll wanted)

end Element

/-- The text nodes at the head of a list of nodes. -/
def leadingText : List Node → List String
  | .text content :: rest => content :: leadingText rest
  | _ => []

/-- The text before the first node of any other kind; `none` if there is no such text node.
Mirrors `text_content`. -/
def Element.text? (e : Element) : Option String :=
  match leadingText e.children with
  | [] => none
  | parts => some (String.join parts)

end Storyboard.Markup
