import Storyboard.Markup.Aside
import Storyboard.Markup.StartTag
/-!
# Content

The content of an element is text, elements, comments, instructions and references. Elements are put
together from left to right: a `Growth` holds those whose end tag has not come yet.

A reference to an entity stays a reference. The entity's text is read as content of its own when it
is referred to for the first time, outside all declared namespaces, to see that it is sound.
-/
namespace Storyboard.Markup

/-! ## Growing elements -/

/-- An element without its end tag; `before` holds the nodes in front of it, last first. -/
structure Unclosed where
  written : String
  tag : Tag
  scope : Scope
  before : List Node
  deriving Repr

/-- The unclosed elements, the innermost first, and the nodes of the innermost one, last first. -/
structure Growth where
  scope : Scope
  outer : List Unclosed
  nodes : List Node
  deriving Repr

namespace Growth

/-- Nothing yet, in a scope. -/
def empty (scope : Scope) : Growth := ⟨scope, [], []⟩

/-- One node more. -/
def push (g : Growth) (n : Node) : Growth := { g with nodes := n :: g.nodes }

/-- More text, which goes on with the text in front of it. -/
def pushText (g : Growth) (s : String) : Growth :=
  match g.nodes with
  | .text before :: rest => { g with nodes := .text (before ++ s) :: rest }
  | _ => g.push (.text s)

def pushAll (g : Growth) (n? : Option Node) : Growth := n?.elim g g.push

/-- The scope inside the innermost element. -/
def inside (g : Growth) : Scope := (g.outer.head?.map Unclosed.scope).getD g.scope

def openElement (g : Growth) (o : Reading.Opening) : Growth :=
  { g with outer := ⟨o.written, o.tag, o.scope, g.nodes⟩ :: g.outer, nodes := [] }

/-- Ends the innermost element, if there is one. -/
def closeElement (g : Growth) : Growth :=
  match g.outer with
  | [] => g
  | inner :: outer =>
    { g with outer, nodes := .element inner.tag g.nodes.reverse :: inner.before }

/-- The nodes in the order in which they come. -/
def finish (g : Growth) : List Node := g.nodes.reverse

end Growth

/-- What nodes are as the text of an entity in a value. -/
def partsOfNodes (nodes : List Node) : List Part :=
  nodes.filterMap fun n =>
    match n with
    | .text s => some (.characters s.toList)
    | .reference name => some (.entity name)
    | _ => none

namespace Reading

/-! ## Text -/

/-- Text up to markup or a fault. -/
def text (g : Growth) : Reading Growth := do
  let s ← run fun s =>
    match s with
    | '<' :: _ | '&' :: _ | ']' :: ']' :: '>' :: _ => true
    | _ => false
  match ← rest with
  | ']' :: _ =>
    report .closingBracketsInText
    skip 1
  | c :: _ =>
    if c != '<' && c != '&' then
      report (.illegalCharacter c)
      skip 1
  | [] => pure ()
  return if s.isEmpty then g else g.pushText (String.ofList s)

/-- A section of character data, behind its opening. -/
def section? (g : Growth) : Reading Growth := do
  match ← runUpTo "]]>" with
  | some s => return g.pushText (String.ofList s)
  | none =>
    report (.unfinished "a section of character data")
    return g

/-! ## Elements -/

/-- The start of an element, or all of one that ends with its start tag; `around` is how many
elements stand around the current text, and `fuel` bounds how many attributes there are. -/
def element (fuel around : Nat) (g : Growth) : Reading Growth := do
  if deepestElement ≤ around + g.outer.length then giveUp .tooDeep
  match ← startTag? fuel g.inside with
  | none => return g
  | some o =>
    let g := g.openElement o
    return if o.closed then g.closeElement else g

/-- The end tag of the innermost element, behind `</`. -/
def elementEnd (g : Growth) : Reading Growth := do
  match g.outer with
  | [] => return g
  | inner :: _ =>
    endTag inner.written
    return g.closeElement

/-! ## Entities in content -/

/-- Notes what the text of an entity is as content, and what it has expanded to. -/
def noteContent (name : String) (nodes : List Node) (expanded : Nat) : Reading Unit := do
  let fresh := (← get).log.isSound
  updateDeclarations fun d =>
    match d.entity? name with
    | none => d
    | some e =>
      let size := if e.measured then e.size else expanded + e.length
      let parts := if fresh then some (partsOfNodes nodes) else e.parts
      d.replaceEntity { e with measured := true, size, parts }

/-- Reads the text of an entity as content, unless that was done before; `content` reads it. -/
def enterEntity (content : Reading (List Node)) (e : Entity) : Reading Unit := do
  match e.body, e.parts with
  | .internal text, none =>
    if ← isOpen e.name then giveUp (.entityLoop e.name)
    let (nodes, expanded) ← within e.name text e.measured content
    noteContent e.name nodes expanded
  | _, _ => pure ()

/-- A reference, behind its ampersand. -/
def reference (content : Reading (List Node)) (g : Growth) : Reading Growth := do
  let (referent, rest) := referenceFrom (← rest)
  moveTo rest
  match referent with
  | .error fault =>
    report fault
    return g
  | .ok (.character c) => return g.pushText c.toString
  | .ok (.entity name) =>
    match predefined? name with
    | some c => return g.pushText c.toString
    | none =>
      match ← entity? false name with
      | none => pure ()
      | some e =>
        if ← isSound then
          enterEntity content e
          charge (← sizeOf name)
      return g.push (.reference name)

/-! ## Content -/

/-- Content up to an end tag that ends no element in it, or to its end; `enter` reads the text of an
entity inside so many elements, and `fuel` bounds the number of nodes. -/
def contentFrom (enter : Nat → Reading (List Node)) (around : Nat) :
    Nat → Growth → Reading Growth
  | 0, g => return g
  | fuel + 1, g => do
    match ← rest with
    | [] => return g
    | '&' :: s =>
      moveTo s
      contentFrom enter around fuel (← reference (enter (around + g.outer.length)) g)
    | '<' :: s =>
      if ← accept "<?" then contentFrom enter around fuel (g.pushAll (← instruction?))
      else if ← accept "<![CDATA[" then contentFrom enter around fuel (← section? g)
      else if ← accept "<!--" then contentFrom enter around fuel (g.pushAll (← comment? fuel))
      else if s.head? = some '/' then
        if g.outer.isEmpty then return g
        skip 2
        contentFrom enter around fuel (← elementEnd g)
      else
        skip 1
        contentFrom enter around fuel (← element fuel around g)
    | _ => contentFrom enter around fuel (← text g)

/-- The nodes that the current text is up to an end tag that ends none of them. Its end must not
leave elements without their end tag. -/
def contentOf (enter : Nat → Reading (List Node)) (around : Nat) (scope : Scope) :
    Reading (List Node) := do
  let g ← contentFrom enter around ((← rest).length + 1) (.empty scope)
  if !g.outer.isEmpty && (← isSound) then
    report (.unfinished ((g.outer.head?.map Unclosed.written).getD ""))
  return g.finish

/-- The nodes that the text of an entity is, inside so many elements; `left` is how deep texts may
still go. -/
def entityContent : Nat → Nat → Reading (List Node)
  | 0, _ => giveUp .tooDeep
  | left + 1, around => do
    if deepestElement ≤ around then giveUp .tooDeep
    let nodes ← contentOf (entityContent left) (around + 1) .outermost
    if (← get).log.isMild && !(← rest).isEmpty then report .strayContent
    return nodes

/-- The nodes inside the outermost element of a document. -/
def rootContent (scope : Scope) : Reading (List Node) :=
  contentOf (entityContent (deepestText - 1)) 1 scope

end Reading

end Storyboard.Markup
