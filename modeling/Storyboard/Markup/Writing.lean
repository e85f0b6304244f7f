import Storyboard.Markup.Site
import Storyboard.Text.Lines
/-!
# Writing markup

An element is written with each of its nodes on a line of its own, two spaces deeper than the
element, unless one of them is text or a reference: then nothing is added around any node inside it,
however deep. What is written reads back as the same element, so it is written with the namespaces
that were declared around it.
-/
namespace Storyboard.Markup

/-- A character inside text. -/
def escapeInText (c : Char) : String :=
  if c = '&' then "&amp;"
  else if c = '<' then "&lt;"
  else if c = '>' then "&gt;"
  else if c = '\r' then "&#13;"
  else c.toString

/-- A character inside an attribute value: white space other than the space is written by number,
since it would be read as a space. -/
def escapeInValue (c : Char) : String :=
  if c = '"' then "&quot;"
  else if c = '\n' then "&#10;"
  else if c = '\t' then "&#9;"
  else escapeInText c

def escapeAll (escape : Char → String) (s : String) : String := String.join (s.toList.map escape)

def Piece.written : Piece → String
  | .text content => escapeAll escapeInValue content
  | .reference entity _ => "&" ++ entity ++ ";"

def Attribute.written (a : Attribute) : String :=
  " " ++ writtenName a.label a.name.base ++ "=\"" ++ String.join (a.pieces.map Piece.written) ++
    "\""

/-- A namespace declaration. -/
def writtenDeclaration (label : Option String) (uri : String) : String :=
  let name := match label with
    | none => "xmlns"
    | some label => "xmlns:" ++ label
  " " ++ name ++ "=\"" ++ escapeAll escapeInValue uri ++ "\""

def Tag.written (tag : Tag) : String := writtenName tag.label tag.name.base

/-- The name and the attributes of a start tag that declares the given namespaces. -/
def Tag.opening (tag : Tag) (declared : List (Option String × String)) : String :=
  tag.written ++ String.join (declared.map fun (label, uri) => writtenDeclaration label uri) ++
    String.join (tag.attributes.map Attribute.written)

/-- Text and references, around which nothing may be added. -/
def Node.isInline : Node → Bool
  | .text _ | .reference _ => true
  | _ => false

/-- The space in front of a line; beyond thirty levels it grows no further. -/
def margin (level : Nat) : String := String.ofList (Text.spaces (2 * min level 30))

/-- An element around what is inside it. -/
def wrap (onLines : Bool) (level : Nat) (tag : Tag) (declared : List (Option String × String))
    (children : List Node) (inside : String) : String :=
  "<" ++ tag.opening declared ++
    if children.isEmpty then "/>"
    else
      (if onLines then ">\n" ++ inside ++ margin level else ">" ++ inside) ++
        "</" ++ tag.written ++ ">"

mutual

/-- A node; `onLines` says whether its parent has each node on a line of its own. -/
def Node.written (onLines : Bool) (level : Nat) : Node → String
  | .element tag children =>
    let onLines := onLines && !children.any Node.isInline
    wrap onLines level tag tag.declared children (writtenNodes onLines (level + 1) children)
  | .text content => escapeAll escapeInText content
  | .comment content => "<!--" ++ content ++ "-->"
  | .instruction target content =>
    "<?" ++ target ++ (content.map fun content => " " ++ content).getD "" ++ "?>"
  | .reference entity => "&" ++ entity ++ ";"

def writtenNodes (onLines : Bool) (level : Nat) : List Node → String
  | [] => ""
  | n :: rest =>
    (if onLines then margin level ++ n.written onLines level ++ "\n"
      else n.written onLines level) ++ writtenNodes onLines level rest

end

/-- The namespaces declared on the way down to an element, the element itself included, the nearest
first. -/
def declaredOnWay (e : Element) : List Nat → List (Option String × String)
  | [] => e.tag.declared
  | i :: rest =>
    match (childrenIn [] 0 e.children)[i]? with
    | some child => declaredOnWay child.element rest ++ e.tag.declared
    | none => e.tag.declared

/-- The declarations whose label is in none of the earlier ones. -/
def addMissing (known : List (Option String × String)) :
    List (Option String × String) → List (Option String × String)
  | [] => known
  | (label, uri) :: rest =>
    if (known.lookup label).isSome then addMissing known rest
    else addMissing (known ++ [(label, uri)]) rest

/-- The namespaces that the names in a start tag are in, with their labels: that of the element
first. -/
def Tag.used (tag : Tag) : List (Option String × String) :=
  let ofName (label : Option String) (name : Name) : Option (Option String × String) :=
    if label = some "xml" then none else name.space.map (label, ·)
  (ofName tag.label tag.name).toList ++
    tag.attributes.filterMap fun a => ofName a.label a.name

/-- An element taken out of its document: `around` are the namespaces declared around it, the
nearest first, `behind` is the text behind it. -/
structure Excerpt where
  tag : Tag
  children : List Node
  around : List (Option String × String)
  behind : String
  deriving Repr

/-- The element with the namespaces around it, the text behind it, and the end of its line. The
namespaces it uses come before the others. -/
def Excerpt.written (x : Excerpt) : String :=
  let onLines := !x.children.any Node.isInline
  let declared := addMissing (addMissing x.tag.declared x.tag.used) x.around
  wrap onLines 0 x.tag declared x.children
      (writtenNodes onLines 1 x.children) ++
    escapeAll escapeInText x.behind ++ "\n"

mutual

/-- The element that a node is and the elements below it, in document order. -/
def Node.excerpts (around : List (Option String × String)) (behind : String) :
    Node → List Excerpt
  | .element tag children =>
    ⟨tag, children, around, behind⟩ :: excerptsIn (tag.declared ++ around) children
  | _ => []

def excerptsIn (around : List (Option String × String)) : List Node → List Excerpt
  | [] => []
  | n :: rest => n.excerpts around (String.join (leadingText rest)) ++ excerptsIn around rest

end

/-- All elements below a site of the document, in document order. -/
def Document.excerptsBelow (d : Document) (s : Site) : List Excerpt :=
  excerptsIn (declaredOnWay d.root s.path) s.element.children

end Storyboard.Markup
