import Storyboard.Markup.Namespace
import Storyboard.Markup.Node
/-!
# Declarations of the document type

The declarations of a document name entities, and give attributes types and default values. Content
models and notations are checked for their form and otherwise forgotten: documents are not
validated. Of several declarations of one entity or attribute the first counts. Nothing outside the
document is ever read.

A default value is no part of an element: it is not among the element's attributes and is not
written with them. It answers only when an attribute that the element does not have is looked up.
-/
namespace Storyboard.Markup

/-! ## Entities -/

inductive EntityBody where
  /-- What stands for the entity, character references already replaced. -/
  | internal (text : List Char)
  | external
  /-- Data in a notation of its own, never referred to. -/
  | unparsed
  deriving Repr, DecidableEq

structure Entity where
  name : String
  body : EntityBody
  /-- Was its text found to be fit for attribute values? -/
  fit : Bool
  /-- Is its written-out length known? -/
  measured : Bool
  /-- What it expands to, as far as that is known, with the cost of the references in it. -/
  size : Nat
  /-- The parts of its text, since its first use. -/
  parts : Option (List Part)
  deriving Repr, DecidableEq

def Entity.ofBody (name : String) (body : EntityBody) : Entity :=
  ⟨name, body, false, false, 0, none⟩

/-- The length of a text in bytes. -/
def byteCount (s : List Char) : Nat := s.foldl (fun n c => n + c.utf8Size) 0

/-- The length of the entity's own text. -/
def Entity.length (e : Entity) : Nat :=
  match e.body with
  | .internal text => byteCount text
  | _ => 0

/-! ## Attribute rules -/

inductive AttributeType where
  | text
  | identifier
  | identifierReference
  | identifierReferences
  | entity
  | entities
  | word
  | words
  | notationName
  | choice
  deriving Repr, DecidableEq

/-- The words between spaces. -/
def wordsBetween (s : List Char) : List (List Char) :=
  (s.splitBy fun a b => (a == ' ') == (b == ' ')).filter fun w => w.head? != some ' '

/-- Does a value without superfluous spaces fit the type? -/
def AttributeType.fits (type : AttributeType) (value : List Char) : Bool :=
  match type with
  | .text => true
  | .identifier | .identifierReference | .entity | .notationName => isName value
  | .identifierReferences | .entities => value != [] && (wordsBetween value).all isName
  | .word => isWord value
  | .words | .choice => value != [] && (wordsBetween value).all isWord

/-- What is declared about an attribute of an element, both named as they are written. -/
structure AttributeRule where
  element : String
  named : String
  type : AttributeType
  /-- The default value as it is written, references to entities kept. -/
  default : Option String
  deriving Repr, DecidableEq

namespace AttributeRule

/-- The default value, if it fits the type. -/
def fitting? (r : AttributeRule) : Option String := r.default.filter (r.type.fits ·.toList)

/-- The attribute's name, cut at its colon. -/
def name (r : AttributeRule) : LabelledName := .cut r.named

end AttributeRule

/-! ## Declarations -/

structure Declarations where
  entities : List Entity
  parameters : List Entity
  /-- The elements whose content is declared. -/
  elements : List String
  notations : List String
  rules : List AttributeRule
  /-- Some declarations may stand outside the document. -/
  partly : Bool
  standalone : Bool
  deriving Repr, DecidableEq

namespace Declarations

def empty : Declarations := ⟨[], [], [], [], [], false, false⟩

/-- Is an undeclared entity tolerated, since its declaration may stand elsewhere? -/
def lenient (d : Declarations) : Bool := d.partly && !d.standalone

def entity? (d : Declarations) (name : String) : Option Entity :=
  d.entities.find? (·.name == name)

def parameter? (d : Declarations) (name : String) : Option Entity :=
  d.parameters.find? (·.name == name)

/-- One entity more, unless its name is taken. -/
def addEntity (d : Declarations) (e : Entity) : Declarations :=
  if (d.entity? e.name).isSome then d else { d with entities := d.entities ++ [e] }

def addParameter (d : Declarations) (e : Entity) : Declarations :=
  if (d.parameter? e.name).isSome then d else { d with parameters := d.parameters ++ [e] }

/-- Puts an entity in the stead of the one of its name. -/
def replaceEntity (d : Declarations) (e : Entity) : Declarations :=
  { d with entities := d.entities.map fun old => if old.name == e.name then e else old }

def replaceParameter (d : Declarations) (e : Entity) : Declarations :=
  { d with parameters := d.parameters.map fun old => if old.name == e.name then e else old }

/-- The rule for an attribute of an element. -/
def rule? (d : Declarations) (element name : String) : Option AttributeRule :=
  d.rules.find? fun r => r.element == element && r.named == name

/-- The rules that give an element's attributes a default. -/
def defaultsFor (d : Declarations) (element : LabelledName) : List AttributeRule :=
  d.rules.filter fun r => r.default.isSome && LabelledName.cut r.element == element

/-- Do the values of an attribute identify their elements? -/
def identifies (d : Declarations) (element : String) (name : LabelledName) : Bool :=
  d.rules.any fun r => r.element == element && r.name == name && r.type == .identifier

/-- The declarations in a scope that no nearer one of the same label hides. -/
def visible : Scope → Scope
  | [] => []
  | (label, uri) :: rest => (label, uri) :: (visible rest).filter (·.1 != label)

/-- What an element's default values answer to, by name: a rule's label stands for its namespace in
the element's scope, and of several rules for one name the first settles the matter. -/
def fallbacks (d : Declarations) (element : String) (scope : Scope) : List (Name × String) :=
  let rules := d.rules.filter (·.element == element)
  let plain := (rules.filter (·.name.label.isNone)).map fun r =>
    (Name.mk none r.name.base, r.fitting?)
  let inSpace := (visible scope).flatMap fun (label, uri) =>
    if uri = "" || (uri = xmlSpace && label != some "xml") then []
    else (rules.filter (·.name.label == label)).map fun r =>
      (Name.mk (some uri) r.name.base, r.fitting?)
  let all := plain ++ inSpace
  all.filterMap fun (name, value) =>
    if all.lookup name == some value then value.map (Prod.mk name) else none

end Declarations

end Storyboard.Markup
