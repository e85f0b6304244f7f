import Storyboard.Markup.Declaration
import Storyboard.Markup.Log
import Storyboard.Markup.Source
/-!
# Readings

A reading goes through a text from its start to its end and keeps what it has learnt: declarations,
identifiers, and a log of faults. A fatal fault ends the reading. The exception is a document with a
byte that cannot be decoded further on: the reading then goes on as well as it can, since the last
fault tells whether the file was unreadable or its markup malformed.
-/
namespace Storyboard.Markup

/-- Where a reading is and what it knows. -/
structure Reader where
  /-- What is left of the current text: of the document, or of an entity inside it. -/
  rest : List Char
  /-- How many texts are open, one inside another. -/
  depth : Nat
  /-- Are these the document's own declarations? -/
  declaring : Bool
  /-- What the current text has expanded to. -/
  expanded : Nat
  /-- Is the current text that of an entity measured before? -/
  measured : Bool
  /-- The entities whose texts are open, each with `%` in front of a parameter's name. -/
  opened : List String
  log : Log
  declarations : Declarations
  identifiers : List String
  /-- The number of bytes of the document. -/
  size : Nat
  /-- Is there a marked byte that was not reported yet? -/
  damaged : Bool
  /-- How many characters of the document are left when its cut end comes in sight. -/
  cutOff : Option Nat
  deriving Repr

/-- The start of a source. -/
def Reader.ofSource (s : Source) : Reader where
  rest := s.characters
  depth := 1
  declaring := false
  expanded := 0
  measured := false
  opened := []
  log := .empty
  declarations := .empty
  identifiers := []
  size := s.size
  damaged := s.isDamaged
  cutOff := s.cutOff

/-- May a byte that cannot be decoded still be reported? -/
def Reader.isPending (r : Reader) : Bool := r.damaged || r.cutOff.isSome

/-- A step of a reading. It fails if the reading ends with it. -/
abbrev Reading := EStateM Unit Reader

namespace Reading

/-! ## Faults -/

/-- Reports the cut end of the document once it is in sight. -/
def lookAhead : Reading Unit := do
  let r ← get
  match r.cutOff with
  | none => return ()
  | some left =>
    if r.depth ≤ 1 && (r.rest.drop left).isEmpty then
      set { r with cutOff := none, log := r.log.add .undecodable }

/-- Reports a marked byte, unless one was reported before. -/
def reportDamage : Reading Unit := do
  let r ← get
  if r.damaged then set { r with damaged := false, log := r.log.add .undecodable }

/-- Has there been no fatal fault? -/
def isSound : Reading Bool := do
  lookAhead
  return (← get).log.isSound

/-- Reports a fault. -/
def report (fault : Fault) : Reading Unit := do
  lookAhead
  modify fun r => { r with log := r.log.add fault }
  if fault.gravity = .fatal && !(← get).isPending then throw ()

/-- Reports a fault that ends the reading in any case. -/
def giveUp {α : Type} (fault : Fault) : Reading α := do
  report fault
  throw ()

/-- Reports faults, one after the other. -/
def reportAll (faults : List Fault) : Reading Unit := faults.forM report

/-! ## Moving on -/

def rest : Reading (List Char) := return (← get).rest

def moveTo (s : List Char) : Reading Unit := modify fun r => { r with rest := s }

def next? : Reading (Option Char) := return (← get).rest.head?

/-- Does the text go on like this? -/
def sees (s : String) : Reading Bool := return s.toList.isPrefixOf (← get).rest

def skip (n : Nat) : Reading Unit := modify fun r => { r with rest := r.rest.drop n }

/-- Skips one character whatever it is. -/
def skipAny : Reading Unit := do
  if (← next?) = some damageMark then reportDamage
  skip 1

/-- Skips a text, if it is there. -/
def accept (s : String) : Reading Bool := do
  if ← sees s then
    skip s.length
    return true
  else return false

/-- Skips spaces; were there any? -/
def skipSpaces : Reading Bool := do
  let s ← rest
  moveTo (s.dropWhile isSpace)
  return (s.head?.map isSpace).getD false

/-- Skips spaces, at least one of which has to be there. -/
def expectSpaces (fault : Fault) : Reading Bool := do
  let spaced ← skipSpaces
  if !spaced then report fault
  return spaced

/-- The longest name, in bytes. -/
def longestName : Nat := 50000

/-- A name, if one is there. -/
def name? : Reading (Option String) := do
  let (name, rest) := nameFrom (← rest)
  moveTo rest
  if longestName < byteCount name then
    report (.badName "a name that is too long")
    return none
  else return if name.isEmpty then none else some (String.ofList name)

/-- A name in which a colon may separate a label. -/
def labelledName? : Reading (Option LabelledName) := do
  match ← name? with
  | none => return none
  | some name =>
    let (labelled, faults, more) := LabelledName.ofName name.toList
    moveTo (more ++ (← rest))
    reportAll faults
    return some labelled

/-- Splits a text where `stop` holds of what follows, before a character that is not legal, or at
its end. -/
def runFrom (stop : List Char → Bool) (acc : List Char) : List Char → List Char × List Char
  | [] => (acc.reverse, [])
  | c :: rest =>
    if stop (c :: rest) || !(isLegal c || c == damageMark) then (acc.reverse, c :: rest)
    else runFrom stop (c :: acc) rest

/-- A run of characters with unified line ends, up to where `stop` holds of what follows. -/
def run (stop : List Char → Bool) : Reading (List Char) := do
  let (taken, rest) := runFrom stop [] (← rest)
  moveTo rest
  if taken.contains damageMark then reportDamage
  return unifyLineEnds taken

/-- A run of characters up to a text, which is skipped; `none` if that text does not come. -/
def runUpTo (ending : String) : Reading (Option (List Char)) := do
  let taken ← run fun s => ending.toList.isPrefixOf s
  return if ← accept ending then some taken else none

/-! ## Texts inside texts -/

/-- How deep texts may stand in one another. -/
def deepestText : Nat := 20

/-- How deep elements may stand in one another, and groups of a content model. -/
def deepestElement : Nat := 256

/-- What each reference costs beside the text it stands for. -/
def referenceCost : Nat := 20

/-- What a document may expand to however short it is. -/
def freeExpansion : Nat := 1000000

/-- How many times its length a document may expand to. -/
def expansionFactor : Nat := 5

/-- Adds to what the current text has expanded to. What a document has been read of sets the
measure; the text of an entity has none. -/
def charge (size : Nat) : Reading Unit := do
  let r ← get
  if r.measured then return ()
  let expanded := r.expanded + size + referenceCost
  set { r with expanded }
  if freeExpansion < expanded then
    let passed := if r.depth ≤ 1 then r.size - byteCount r.rest else 0
    if passed < expanded / expansionFactor then giveUp .excessiveExpansion

/-- Reads another text before the current one goes on. What it expands to is answered too. -/
def within {α : Type} (name : String) (text : List Char) (measured : Bool) (step : Reading α) :
    Reading (α × Nat) := do
  let outer ← get
  set { outer with
    rest := text, depth := outer.depth + 1, expanded := 0, measured
    opened := name :: outer.opened }
  let a ← step
  let expanded := (← get).expanded
  modify fun r => { r with
    rest := outer.rest, depth := outer.depth, expanded := outer.expanded
    measured := outer.measured, opened := outer.opened }
  return (a, expanded)

def isOpen (name : String) : Reading Bool := return (← get).opened.contains name

def updateDeclarations (f : Declarations → Declarations) : Reading Unit :=
  modify fun r => { r with declarations := f r.declarations }

end Reading

end Storyboard.Markup
