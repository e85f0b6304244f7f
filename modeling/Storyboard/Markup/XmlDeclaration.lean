import Storyboard.Markup.Reading
/-!
# The XML declaration

A document may begin by saying its version, its encoding, and whether it stands alone, in this
order. What is declared as its encoding holds from behind the name on.
-/
namespace Storyboard.Markup

/-- Any version of the first edition of the language: what is wrong with it, if it is there. -/
def versionFaults (version : List Char) : List Fault :=
  if version = "1.0".toList then []
  else if "1.".toList.isPrefixOf version then [.unknownVersion (String.ofList version)]
  else [.badInstruction "xml"]

/-- A version, and what follows it: a digit, a point, and more digits. -/
def versionFrom : List Char → Option (List Char) × List Char
  | c :: '.' :: rest =>
    if c.isDigit then (some (c :: '.' :: rest.takeWhile Char.isDigit), rest.dropWhile Char.isDigit)
    else (none, c :: '.' :: rest)
  | c :: rest => (none, if c.isDigit then rest else c :: rest)
  | [] => (none, [])

/-- The name of an encoding, and what follows it. -/
def encodingFrom : List Char → Option (List Char) × List Char
  | [] => (none, [])
  | c :: rest =>
    let isMember (c : Char) : Bool := c.isAlphanum || "._-".toList.contains c
    if c.isAlpha then (some (c :: rest.takeWhile isMember), rest.dropWhile isMember)
    else (none, c :: rest)

/-- Whether a document stands alone, and what follows. -/
def standaloneFrom : List Char → Option Bool × List Char
  | 'n' :: 'o' :: rest => (some false, rest)
  | 'y' :: 'e' :: 's' :: rest => (some true, rest)
  | s => (none, s)

namespace Reading

def badXmlDeclaration : Fault := .badInstruction "xml"

/-- What is behind a word and an equals sign, between quotes; `parse` takes it from what follows the
first quote. None if the word is not there. -/
def assigned? {α : Type} (word : String) (parse : List Char → Option α × List Char) :
    Reading (Option α) := do
  if !(← accept word) then return none
  let _ ← skipSpaces
  if !(← accept "=") then
    report badXmlDeclaration
    return none
  let _ ← skipSpaces
  match ← rest with
  | c :: s =>
    if c = '"' || c = '\x27' then
      let (a, s) := parse s
      moveTo s
      if a.isNone then report badXmlDeclaration
      if ← accept c.toString then return a
      report badXmlDeclaration
      return none
    else
      report badXmlDeclaration
      return none
  | [] =>
    report badXmlDeclaration
    return none

/-- The version of the language and the encoding, behind `<?xml`: the name of the encoding, if there
is one, and whether the declaration ends before it. -/
def declarationHead : Reading (Option String × Bool) := do
  let _ ← skipSpaces
  match ← assigned? "version" versionFrom with
  | none => report badXmlDeclaration
  | some version => reportAll (versionFaults version)
  let s ← rest
  if !(s.head?.map isSpace).getD false then
    if ← accept "?>" then return (none, true)
    report badXmlDeclaration
  let _ ← skipSpaces
  return ((← assigned? "encoding" encodingFrom).map String.ofList, false)

/-- The end of the declaration. If it is not where it should be, what comes up to an angle bracket
is skipped. -/
def declarationEnd : Reading Unit := do
  let _ ← skipSpaces
  if !(← accept "?>") then
    report badXmlDeclaration
    let s ← rest
    moveTo ((s.dropWhile (· != '>')).drop 1)
    if (s.takeWhile (· != '>')).contains damageMark then reportDamage

/-- The declaration, behind `<?xml`; `unknown` is the encoding that it asks for, if it is not
known. -/
def xmlDeclaration (unknown : Option String) : Reading Unit := do
  let (encoding, ended) ← declarationHead
  if ended then return ()
  if encoding.isSome then reportAll (unknown.toList.map .encoding)
  let s ← rest
  if encoding.isSome && !(s.head?.map isSpace).getD false then
    if ← accept "?>" then return ()
    report badXmlDeclaration
  let _ ← skipSpaces
  let standalone ← assigned? "standalone" standaloneFrom
  updateDeclarations fun d => { d with standalone := standalone.getD false }
  declarationEnd

end Reading

/-- The encoding that a text declares, if it does, and how many characters come before it is in
effect. -/
def declaredEncoding? (s : List Char) : Option (String × Nat) :=
  match s with
  | '<' :: '?' :: 'x' :: 'm' :: 'l' :: c :: s =>
    if isSpace c then
      let source : Source := ⟨s, 0, none, false, none⟩
      match EStateM.run Reading.declarationHead { Reader.ofSource source with damaged := true } with
      | .ok (some name, _) r => some (name, 6 + (s.length - r.rest.length))
      | _ => none
    else none
  | _ => none

end Storyboard.Markup
