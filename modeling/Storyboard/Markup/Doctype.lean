import Storyboard.Markup.Aside
import Storyboard.Markup.Definition
/-!
# The document type

A document type names an element and may refer to declarations outside the document, which are never
read, and hold declarations between brackets. A parameter entity between two declarations stands for
the declarations in its text.
-/
namespace Storyboard.Markup.Reading

/-- A declaration, a comment or an instruction, in front of its angle bracket; `fuel` bounds how
often two hyphens come in a comment. -/
def declaration (fuel : Nat) : Reading Unit := do
  if ← accept "<?" then
    let _ ← instruction?
  else if ← accept "<!ENTITY" then entityDeclaration
  else if ← accept "<!ELEMENT" then elementDeclaration
  else if ← accept "<!ATTLIST" then attributesDeclaration
  else if ← accept "<!NOTATION" then notationDeclaration
  else if ← accept "<!--" then
    let _ ← comment? fuel
  else
    report (.badDeclaration "DOCTYPE")
    skip 2

/-- Notes what the text of a parameter entity has expanded to, when it was read for the first time,
and adds it to what the current text has. -/
def chargeParameter (e : Entity) (expanded : Nat) : Reading Unit := do
  let size := if e.measured then e.size else expanded + e.length + referenceCost
  updateDeclarations (·.replaceParameter { e with measured := true, size })
  charge size

/-- Reads the text of a parameter entity as declarations; `declarations` does it. -/
def parameter (declarations : Reading Bool) (name : String) : Reading Bool := do
  match (← get).declarations.parameter? name with
  | none =>
    reportUndeclared name
    return true
  | some e =>
    match e.body with
    | .internal text =>
      let mark := "%" ++ name
      if ← isOpen mark then giveUp (.entityLoop name)
      let (going, expanded) ← within mark text e.measured declarations
      chargeParameter e expanded
      return going
    | _ => return true

/-- Declarations up to what cannot be one; `enter` reads what a parameter entity stands for. The
answer tells whether the text ends there, or its part of the document type does. `fuel` bounds the
number of declarations. -/
def declarationsFrom (enter : String → Reading Bool) : Nat → Reading Bool
  | 0 => return true
  | fuel + 1 => do
    let _ ← skipSpaces
    match ← rest with
    | [] => return true
    | ']' :: _ =>
      if (← get).depth ≤ 1 then return true
      report (.badDeclaration "DOCTYPE")
      return false
    | '<' :: c :: _ =>
      if c = '!' || c = '?' then
        declaration fuel
        declarationsFrom enter fuel
      else
        report (.badDeclaration "DOCTYPE")
        return false
    | '%' :: s =>
      moveTo s
      match ← parameterName? with
      | none => declarationsFrom enter fuel
      | some name => if ← enter name then declarationsFrom enter fuel else return false
    | _ =>
      report (.badDeclaration "DOCTYPE")
      return false

/-- The declarations of the current text; `left` is how deep texts may still go. -/
def declarations : Nat → Reading Bool
  | 0 => giveUp .tooDeep
  | left + 1 => do
    declarationsFrom (parameter (declarations left)) ((← rest).length + 1)

/-- The declarations between brackets, behind the opening one. -/
def internalSubset : Reading Unit := do
  modify fun r => { r with declaring := true }
  let _ ← declarations deepestText
  modify fun r => { r with declaring := false }
  if ← accept "]" then
    let _ ← skipSpaces
  if (← isSound) && !(← sees ">") then report (.badDeclaration "DOCTYPE")
  else skipAny

/-- The document type, behind its keyword. -/
def documentType : Reading Unit := do
  let _ ← expectSpaces (.badDeclaration "DOCTYPE")
  let named ← name?
  if named.isNone then report (.badName "a document type")
  let _ ← skipSpaces
  let place ← location false
  if place.isGiven then updateDeclarations fun d => { d with partly := true }
  let _ ← skipSpaces
  if ← accept "[" then internalSubset
  else
    let _ ← endDeclaration "DOCTYPE"

end Storyboard.Markup.Reading
