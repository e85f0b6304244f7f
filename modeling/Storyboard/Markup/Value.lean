import Storyboard.Markup.Node
import Storyboard.Markup.Reading
/-!
# Attribute values

An attribute value is read up to its quote. White space in it is a space, and in an attribute whose
type is not plain text spaces stand only between words. A reference to an entity stays a reference:
the entity's text is checked for what no value may hold, but not written out. Only the value of a
namespace declaration is written out at once, since the names around it depend on it.

What a reference stands for is settled when the entity is used for the first time. Its text is taken
as it is if that is in a value, and with unified line ends if that is in content.
-/
namespace Storyboard.Markup

/-! ## Values under way -/

/-- A value under way, last part and last character first. -/
structure Draft where
  /-- Do spaces stand only between words? -/
  words : Bool
  parts : List Part
  run : List Char
  /-- Would a space here be dropped if they do? -/
  spaced : Bool
  deriving Repr, DecidableEq

namespace Draft

def empty (words : Bool) : Draft := ⟨words, [], [], true⟩

def add (d : Draft) (s : List Char) : Draft :=
  { d with run := s.reverse ++ d.run, spaced := false }

def addSpace (d : Draft) : Draft :=
  if d.words && d.spaced then d else { d with run := ' ' :: d.run, spaced := true }

/-- A character given by number; a space is a space also then. -/
def addNumbered (d : Draft) (c : Char) : Draft := if c = ' ' then d.addSpace else d.add [c]

def addReference (d : Draft) (name : String) : Draft :=
  { d with parts := .entity name :: (charactersPart d.run ++ d.parts), run := [], spaced := false }

def finish (d : Draft) : List Part :=
  let run := if d.words && d.spaced then d.run.dropWhile (· == ' ') else d.run
  (charactersPart run ++ d.parts).reverse

end Draft

namespace Reading

/-! ## Entities in values -/

/-- The entity of a name, unless it must not be referred to here. An entity that is not declared is
tolerated if its declaration may stand elsewhere. -/
def entity? (inValue : Bool) (name : String) : Reading (Option Entity) := do
  let d := (← get).declarations
  match d.entity? name with
  | none =>
    report (if d.lenient then .unknownEntity name else .undeclaredEntity name)
    return none
  | some e =>
    if e.body = .unparsed || (inValue && e.body = .external) then
      report (.misusedEntity name)
      return none
    else return some e

/-- Was the entity checked before, as far as that is possible now? Among the declarations an entity
may still come that another one refers to, so no length is known there. -/
def isChecked (e : Entity) : Reading Bool := return e.fit && ((← get).declaring || e.measured)

/-- Notes that an entity is fit for values, and its size unless more declarations may come. -/
def noteChecked (name : String) (size : Nat) : Reading Unit := do
  let declaring := (← get).declaring
  updateDeclarations fun d =>
    match d.entity? name with
    | none => d
    | some e =>
      d.replaceEntity
        (if declaring then { e with fit := true }
          else { e with fit := true, measured := true, size })

/-- What the entity of a name expands to, as far as that is known. -/
def sizeOf (name : String) : Reading Nat :=
  return ((← get).declarations.entity? name).elim 0 Entity.size

/-- Marks an entity as open during a step. -/
def holdingOpen (name : String) (step : Reading Unit) : Reading Unit := do
  modify fun r => { r with opened := name :: r.opened }
  step
  modify fun r => { r with opened := r.opened.tail }

/-- Checks that an entity may stand in a value, and the entities in its text likewise; `left` is how
deep texts may still go. -/
def checkInValue : Nat → Entity → Reading Unit
  | 0, _ => report .tooDeep
  | left + 1, e => do
    if ← isOpen e.name then report (.entityLoop e.name)
    else if !(← isChecked e) then
      match e.body with
      | .internal text =>
        let (parts, fault) := partsOf text
        holdingOpen e.name do
          let size ← (parts.filterMap Part.entity?).foldlM
            (fun size name => do
              match ← entity? true name with
              | none => return size
              | some inner =>
                if !(← isChecked inner) then checkInValue left inner
                return size + (← sizeOf name) + referenceCost)
            e.length
          fault.forM report
          noteChecked e.name size
      | _ => noteChecked e.name 0

/-- How deep texts may still go. -/
def textsLeft : Reading Nat := return deepestText - (← get).depth

/-- Refers to an entity in a value. -/
def referInValue (draft : Draft) (name : String) : Reading Draft := do
  match ← entity? true name with
  | none => return draft
  | some e =>
    checkInValue (← textsLeft) e
    charge (← sizeOf name)
    return draft.addReference name

/-- Writes the text of an entity out into a value; `left` is how deep texts may still go. -/
def writeOut : Nat → Draft → Entity → Reading Draft
  | 0, draft, _ => do
    report .tooDeep
    return draft
  | left + 1, draft, e => do
    if ← isOpen e.name then
      report (.entityLoop e.name)
      return draft
    else
      match e.body with
      | .internal text =>
        charge e.length
        let (parts, fault) := partsOf text
        modify fun r => { r with opened := e.name :: r.opened }
        let draft ← parts.foldlM
          (fun draft part => do
            match part with
            | .characters s =>
              return s.foldl (fun d c => if isSpace c then d.addSpace else d.add [c]) draft
            | .entity name =>
              match ← entity? true name with
              | none => return draft
              | some inner => writeOut left draft inner)
          draft
        fault.forM report
        modify fun r => { r with opened := r.opened.tail }
        return draft
      | _ => return draft

/-- A reference in a value, behind its ampersand; nothing if the value ends with it. -/
def referenceInValue (writing : Bool) (draft : Draft) : Reading (Option Draft) := do
  let (referent, rest) := referenceFrom (← rest)
  moveTo rest
  match referent with
  | .error (.badReference name) =>
    report (.badReference name)
    return if name.startsWith "#" then none else some draft
  | .error fault =>
    report fault
    return none
  | .ok (.character c) => return some (draft.addNumbered c)
  | .ok (.entity name) =>
    match predefined? name with
    | some c => return some (draft.add [c])
    | none =>
      if writing then
        match ← entity? true name with
        | none => return some draft
        | some e => return some (← writeOut (← textsLeft) draft e)
      else return some (← referInValue draft name)

/-! ## Reading a value -/

/-- A character that stands for itself in a value. -/
def isPlainInValue (quote : Char) (c : Char) : Bool :=
  isLegal c && !isSpace c && c != quote && c != '<' && c != '&'

/-- The rest of a value up to its quote; `fuel` bounds the number of steps. -/
def valueParts (quote : Char) (writing : Bool) : Nat → Draft → Reading (Option (List Part))
  | 0, _ => return none
  | fuel + 1, draft => do
    match ← rest with
    | [] =>
      report (.unfinished "an attribute value")
      return none
    | c :: rest =>
      if c = quote then
        moveTo rest
        return some draft.finish
      else if c = '&' then
        moveTo rest
        match ← referenceInValue writing draft with
        | none => return none
        | some draft => valueParts quote writing fuel draft
      else if isSpace c then
        moveTo (if c = '\r' && rest.head? = some '\n' then rest.tail else rest)
        valueParts quote writing fuel draft.addSpace
      else if c = damageMark then
        reportDamage
        moveTo rest
        valueParts quote writing fuel (draft.add [c])
      else if isPlainInValue quote c then
        moveTo (rest.dropWhile (isPlainInValue quote))
        valueParts quote writing fuel (draft.add (c :: rest.takeWhile (isPlainInValue quote)))
      else
        report (if c = '<' then .badValue else .illegalCharacter c)
        return none

/-- A value between quotes, if it is sound; `words` says that its spaces stand only between words,
and `writing` that entities are written out. -/
def value? (words writing : Bool) : Reading (Option (List Part)) := do
  match ← rest with
  | c :: rest =>
    if c = '"' || c = '\x27' then
      moveTo rest
      valueParts c writing ((rest.takeWhile (· != c)).length + 1) (.empty words)
    else
      report .badValue
      return none
  | [] =>
    report .badValue
    return none

end Reading

/-! ## What references stand for -/

namespace Declarations

/-- Settles what an entity stands for, and the entities in its text: the text as it is, unless the
entity was used before. `fuel` bounds how deep entities refer to one another. -/
def settle : Nat → Declarations → String → Declarations
  | 0, d, _ => d
  | fuel + 1, d, name =>
    match d.entity? name with
    | some e =>
      match e.body, e.parts with
      | .internal text, none =>
        let parts := (partsOf text).1
        (parts.filterMap Part.entity?).foldl (settle fuel)
          (d.replaceEntity { e with parts := some parts })
      | _, _ => d
    | none => d

/-- The text that a settled entity stands for. -/
def expansion (d : Declarations) : Nat → String → String
  | 0, _ => ""
  | fuel + 1, name =>
    let parts := ((d.entity? name).bind Entity.parts).getD []
    String.join (parts.map fun part =>
      match part with
      | .characters s => String.ofList s
      | .entity name => d.expansion fuel name)

end Declarations

namespace Reading

/-- The part of a value as a piece of an attribute. -/
def pieceOf (part : Part) : Reading Piece := do
  match part with
  | .characters s => return .text (String.ofList s)
  | .entity name =>
    let fuel := (← get).declarations.entities.length + 1
    updateDeclarations (·.settle fuel name)
    return .reference name ((← get).declarations.expansion fuel name)

end Reading

end Storyboard.Markup
