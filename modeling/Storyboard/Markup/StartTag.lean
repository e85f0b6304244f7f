import Storyboard.Markup.Value
/-!
# Start tags

A start tag is read in the order in which it is written, and its names are resolved afterwards:
namespaces may be declared behind the names that use their labels. Declared default values add to
the namespaces, but not to the attributes.

An attribute may come only once, under whatever label. Labels without a namespace are a fault, and
part of the name.
-/
namespace Storyboard.Markup

/-- An attribute as it is written. -/
structure Assignment where
  name : LabelledName
  parts : List Part
  deriving Repr, DecidableEq

/-- What a start tag says before its names are resolved. -/
structure RawTag where
  name : LabelledName
  declared : List (Option String × String)
  assignments : List Assignment
  deriving Repr, DecidableEq

/-- A name as it is written. -/
def LabelledName.written (n : LabelledName) : String := writtenName n.label n.base

/-- The label that an attribute of this name gives a namespace to: `xmlns` itself declares the
default namespace. -/
def LabelledName.declares? (n : LabelledName) : Option (Option String) :=
  match n.label with
  | none => if n.base = "xmlns" then some none else none
  | some label => if label = "xmlns" then some (some n.base) else none

/-- The text of a value in which nothing is referred to. -/
def textOf (parts : List Part) : String :=
  String.join (parts.map fun part =>
    match part with
    | .characters s => String.ofList s
    | .entity _ => "")

/-- A name in its namespace; `written` is how it is written. A label that stands for nothing makes
the name none in any namespace. -/
structure Resolved where
  written : LabelledName
  name : Name
  isKnown : Bool
  deriving Repr, DecidableEq

/-- The label that stands for the name's namespace. -/
def Resolved.label (r : Resolved) : Option String := if r.isKnown then r.written.label else none

/-- A name without a label is in the given namespace. -/
def Scope.resolve (scope : Scope) (default : Option String) (n : LabelledName) : Resolved :=
  match n.label with
  | none => ⟨n, ⟨default, n.base⟩, true⟩
  | some label =>
    match scope.find? label with
    | some uri => ⟨n, ⟨some uri, n.base⟩, true⟩
    | none => ⟨n, ⟨none, n.written⟩, false⟩

/-- What is wrong with the label of a name. -/
def Resolved.faults (r : Resolved) : List Fault :=
  if r.isKnown then [] else [.undeclaredLabel (r.written.label.getD "")]

/-- The first of a list that comes again later. -/
def repeated? {α : Type} [BEq α] : List α → Option α
  | [] => none
  | a :: rest => if rest.contains a then some a else repeated? rest

/-- The faults of names that come again; `seen` are those that came before. -/
def repeatFaults (seen : List Resolved) : List Resolved → List Fault
  | [] => []
  | r :: rest =>
    if !r.isKnown then repeatFaults seen rest
    else match seen.find? (·.name == r.name) with
      | none => repeatFaults (r :: seen) rest
      | some old =>
        (if old.written.label = r.written.label then .repeatedAttribute r.written.written
          else .sameAttribute r.written.written) :: repeatFaults seen rest

/-- The faults of the attributes of one tag that come again. Where several come under two labels,
one of them may come under one label twice as well. -/
def attributeFaults (rs : List Resolved) : List Fault :=
  let faults := repeatFaults [] rs
  if 1 < faults.length && faults.all (·.gravity != .fatal) then
    match repeated? (rs.map Resolved.written) with
    | some name => faults ++ [.repeatedAttribute name.written]
    | none => faults
  else faults

/-- The text without white space at its ends. -/
def withoutMargins (s : List Char) : List Char :=
  ((s.dropWhile isSpace).reverse.dropWhile isSpace).reverse

namespace Reading

/-! ## As it is written -/

/-- Notes a namespace that a tag declares. -/
def declareSpace (tag : RawTag) (label : Option String) (uri : String) : Reading RawTag := do
  let (faults, counts) := checkDeclaration label uri
  reportAll faults
  if !counts then return tag
  if (tag.declared.lookup label).isSome then
    report (.repeatedAttribute (writtenName (some "xmlns") (label.getD "")))
    return tag
  else return { tag with declared := tag.declared ++ [(label, uri)] }

/-- Notes an attribute or a namespace. -/
def addAssignment (tag : RawTag) (name : LabelledName) (parts : List Part) : Reading RawTag := do
  if name.label = some "xml" && name.base = "space" then
    let value := rawText parts
    if value != "default" && value != "preserve" then report (.unknownSpacing value)
  match name.declares? with
  | some label => declareSpace tag label (textOf parts)
  | none => return { tag with assignments := tag.assignments ++ [⟨name, parts⟩] }

/-- The value of an attribute, behind its name. -/
def assignedValue? (tag : RawTag) (name : LabelledName) : Reading (Option (List Part)) := do
  let _ ← skipSpaces
  if ← accept "=" then
    let _ ← skipSpaces
    let rule := (← get).declarations.rule? tag.name.written name.written
    value? ((rule.map fun r => r.type != .text).getD false) name.declares?.isSome
  else
    report (.badTag tag.name.written)
    return none

/-- Is the end of a tag in sight? -/
def seesTagEnd : Reading Bool := do
  match ← rest with
  | '>' :: _ | '/' :: '>' :: _ => return true
  | _ => return false

/-- The attributes of a tag as far as they are sound; `fuel` bounds how many. -/
def assignmentsFrom : Nat → RawTag → Reading RawTag
  | 0, tag => return tag
  | fuel + 1, tag => do
    if (← seesTagEnd) || (← rest).isEmpty then return tag
    match ← labelledName? with
    | none =>
      report (.badName "a tag")
      return tag
    | some name =>
      let tag ← match ← assignedValue? tag name with
        | none => pure tag
        | some parts => addAssignment tag name parts
      if ← seesTagEnd then return tag
      if ← expectSpaces (.badTag tag.name.written) then assignmentsFrom fuel tag else return tag

/-! ## Resolved -/

/-- Adds the namespaces that default values declare, where the tag does not. -/
def addDefaultSpaces (tag : RawTag) : List AttributeRule → Reading RawTag
  | [] => return tag
  | rule :: more => do
    match rule.name.declares?, rule.default with
    | some label, some uri =>
      charge (byteCount rule.named.toList + byteCount uri.toList)
      if (tag.declared.lookup label).isSome || (label = some "xml" && uri = xmlSpace) then
        addDefaultSpaces tag more
      else addDefaultSpaces { tag with declared := tag.declared ++ [(label, uri)] } more
    | _, _ => addDefaultSpaces tag more

/-- Checks the names of the attributes that have a default value against those that are there. -/
def checkDefaults (scope : Scope) : List Resolved → List AttributeRule → Reading Unit
  | _, [] => return ()
  | seen, rule :: more => do
    if rule.name.declares?.isSome then checkDefaults scope seen more
    else
      let r := scope.resolve none rule.name
      reportAll r.faults
      match seen.find? (·.name == r.name) with
      | none =>
        charge (byteCount rule.named.toList + byteCount (rule.default.getD "").toList)
        checkDefaults scope (r :: seen) more
      | some old =>
        if old.written.label != r.written.label && r.isKnown then
          report (.sameAttribute rule.named)
        checkDefaults scope seen more

def addIdentifier (value : String) : Reading Unit := do
  let known := (← get).identifiers
  if value = "" || known.contains value then report (.repeatedIdentifier value)
  else modify fun r => { r with identifiers := value :: known }

/-- Notes the identifier that an attribute is, if it is one. A value that refers to an entity
identifies nothing. -/
def noteIdentifier (element : String) (a : Attribute) : Reading Unit := do
  let d := (← get).declarations
  let isText := a.pieces.all fun piece =>
    match piece with
    | .text _ => true
    | .reference .. => false
  if isText then
    if a.name = ⟨some xmlSpace, "id"⟩ then
      if !isPlainName (withoutMargins a.value.toList) then report (.badIdentifier a.value)
      addIdentifier a.value
    else if d.identifies element ⟨a.label, a.name.base⟩ then addIdentifier a.value

/-- The tag in the scope around it, and the scope inside it. -/
def resolveTag (scope : Scope) (tag : RawTag) : Reading (Tag × Scope) := do
  let defaults := (← get).declarations.defaultsFor tag.name
  let tag ← addDefaultSpaces tag defaults
  let scope : Scope := tag.declared ++ scope
  let names := tag.assignments.map fun a => scope.resolve none a.name
  reportAll (names.flatMap Resolved.faults)
  reportAll (attributeFaults names)
  checkDefaults scope (names.reverse.filter Resolved.isKnown) defaults
  let element := scope.resolve scope.default? tag.name
  reportAll element.faults
  let attributes ← (names.zip tag.assignments).mapM fun (r, a) =>
    return Attribute.mk r.name r.label (← a.parts.mapM pieceOf)
  if (← isSound) && (← get).depth ≤ 1 then attributes.forM (noteIdentifier tag.name.written)
  let fallbacks := (← get).declarations.fallbacks tag.name.written scope
  return (⟨element.name, element.label, tag.declared, attributes, fallbacks⟩, scope)

/-- A start tag as it was read. -/
structure Opening where
  /-- The name that the end tag has to repeat. -/
  written : String
  tag : Tag
  /-- What is in scope inside the element. -/
  scope : Scope
  /-- Is the element over with its start tag? -/
  closed : Bool

/-- A start tag, behind its angle bracket; `fuel` bounds how many attributes it has. -/
def startTag? (fuel : Nat) (scope : Scope) : Reading (Option Opening) := do
  match ← labelledName? with
  | none =>
    report (.badName "a tag")
    return none
  | some name =>
    let _ ← skipSpaces
    let raw ← assignmentsFrom fuel ⟨name, [], []⟩
    let (tag, scope) ← resolveTag scope raw
    if ← accept "/>" then return some ⟨name.written, tag, scope, true⟩
    else if ← accept ">" then return some ⟨name.written, tag, scope, false⟩
    else
      report (.badTag name.written)
      return none

/-- The end of an end tag, behind `</`, that has to repeat the written name. -/
def endTag (written : String) : Reading Unit := do
  let name ← name?
  let _ ← skipSpaces
  if !(← accept ">") then report (.badTag written)
  if name != some written then report (.mismatchedEnd written)

end Reading

end Storyboard.Markup
