import Storyboard.Markup.Character
import Storyboard.Markup.Site
/-!
# Looking up by written names

A written name is a local name, perhaps with a namespace in braces before it: `{uri}name`. Empty
braces stand for no namespace. Not every text is a name; the fault is found when the name is used,
so a search that never comes to look at an element never finds it.
-/
namespace Storyboard.Markup

/-- Why a text cannot be looked up. -/
inductive NameFault where
  /-- The text holds a character that no document can. -/
  | illegal
  | empty
  /-- The brace is not closed. -/
  | unclosed
  deriving Repr, DecidableEq

def NameFault.text : NameFault → String
  | .illegal =>
    "All strings must be XML compatible: Unicode or ASCII, no NULL bytes or control characters"
  | .empty => "Empty tag name"
  | .unclosed => "Invalid tag name"

/-- A text that a document can hold. -/
def legalText (s : String) : Except NameFault String :=
  if s.toList.all isLegal then .ok s else .error .illegal

/-- The name that is in a space, if it is one. -/
def Name.ofParts (space base : List Char) : Except NameFault Name :=
  if base.isEmpty then .error .empty
  else .ok ⟨if space.isEmpty then none else some (String.ofList space), String.ofList base⟩

/-- The name that a text writes. -/
def Name.ofText (s : String) : Except NameFault Name := do
  match (← legalText s).toList with
  | '\x7b' :: rest =>
    match rest.dropWhile (· != '\x7d') with
    | [] => throw .unclosed
    | _ :: base => Name.ofParts (rest.takeWhile (· != '\x7d')) base
  | base => Name.ofParts [] base

namespace Element

/-- The value of the attribute of a written name. -/
def valueNamed? (e : Element) (name : String) : Except NameFault (Option String) :=
  return e.valueOf? (← Name.ofText name)

/-- Does the element have all these attribute values? They are looked up one after the other, up to
the first that differs. -/
def hasEach (e : Element) : List (String × String) → Except NameFault Bool
  | [] => return true
  | (name, value) :: rest => do
    if (← e.valueNamed? name) = some value then e.hasEach rest else return false

end Element

/-- The first of these sites that has all these attribute values. -/
def firstWith? (wanted : List (String × String)) : List Site → Except NameFault (Option Site)
  | [] => return none
  | s :: rest => do
    if ← s.element.hasEach wanted then return some s else firstWith? wanted rest

/-- The first child of the given name that has all these attribute values. Mirrors `find_first`. -/
def Site.firstChildNamed? (s : Site) (name : String) (wanted : List (String × String)) :
    Except NameFault (Option Site) :=
  firstWith? wanted (s.childrenNamed name)

end Storyboard.Markup
