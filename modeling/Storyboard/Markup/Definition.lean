import Storyboard.Markup.Value
/-!
# Declarations one by one

How the declarations of entities, notations, elements and attributes are written, each behind its
keyword, and what of them counts. The content model of an element is read for its form alone.
-/
namespace Storyboard.Markup

/-- Where something outside the document is to be found: a public name, a reference, or both. -/
structure Location where
  publicName : Option (List Char)
  reference : Option (List Char)
  deriving Repr, DecidableEq

def Location.isGiven (l : Location) : Bool := l.publicName.isSome || l.reference.isSome

/-- A character of a public name. -/
def isPublicCharacter (c : Char) : Bool :=
  c.isAlphanum || " \r\n-'()+,./:=?;!*#@$_%".toList.contains c

/-- May the predefined entity of a character be declared with this body? It has to stand for the
character. -/
def EntityBody.fitsPredefined (c : Char) : EntityBody → Bool
  | .internal text =>
    (text = [c] && c != '<' && c != '&') ||
      text = "&#".toList ++ Nat.toDigits 10 c.toNat ++ [';'] ||
      text.map Char.toLower = "&#x".toList ++ Nat.toDigits 16 c.toNat ++ [';']
  | _ => false

/-- The words of the attribute types. -/
def AttributeType.written : List (String × AttributeType) :=
  [("CDATA", .text), ("IDREFS", .identifierReferences), ("IDREF", .identifierReference),
    ("ID", .identifier), ("ENTITY", .entity), ("ENTITIES", .entities), ("NMTOKENS", .words),
    ("NMTOKEN", .word)]

/-- Single spaces between words, none at the ends. -/
def squeezed (s : String) : String :=
  String.intercalate " " ((wordsBetween s.toList).map String.ofList)

namespace Reading

/-- The mark that ends a declaration. -/
def endDeclaration (keyword : String) : Reading Bool := do
  let ended ← accept ">"
  if !ended then report (.badDeclaration keyword)
  return ended

/-! ## Literals -/

/-- The quote that opens a literal, which is skipped. -/
def quote? : Reading (Option Char) := do
  match ← next? with
  | some c =>
    if c = '"' || c = '\x27' then
      skip 1
      return some c
    else return none
  | none => return none

/-- A literal that is made up of certain characters. -/
def literal? (run : Char → Reading (List Char)) : Reading (Option (List Char)) := do
  match ← quote? with
  | none =>
    report (.badDeclaration "SYSTEM")
    return none
  | some quote =>
    let s ← run quote
    if !(← accept quote.toString) then report (.unfinished "a literal")
    return some s

def systemLiteral? : Reading (Option (List Char)) :=
  literal? fun quote => run fun s => s.head? = some quote

def publicLiteral? : Reading (Option (List Char)) :=
  literal? fun quote => do
    let s ← rest
    let isMember (c : Char) : Bool := isPublicCharacter c && c != quote
    moveTo (s.dropWhile isMember)
    return s.takeWhile isMember

/-- A location, if one is there. Where a public name `mayStandAlone`, no reference has to follow
it. -/
def location (mayStandAlone : Bool) : Reading Location := do
  if ← accept "SYSTEM" then
    let _ ← expectSpaces (.badDeclaration "SYSTEM")
    return ⟨none, ← systemLiteral?⟩
  else if ← accept "PUBLIC" then
    let _ ← expectSpaces (.badDeclaration "PUBLIC")
    let publicName ← publicLiteral?
    if mayStandAlone then
      let spaced ← skipSpaces
      let c ← next?
      if !(spaced && (c = some '"' || c = some '\x27')) then return ⟨publicName, none⟩
    else
      let _ ← expectSpaces (.badDeclaration "PUBLIC")
    return ⟨publicName, ← systemLiteral?⟩
  else return ⟨none, none⟩

/-! ## Entities -/

/-- A reference to a parameter entity that is not declared. -/
def reportUndeclared (name : String) : Reading Unit := do
  let d := (← get).declarations
  report (if d.lenient then .unknownEntity name else .undeclaredEntity name)

/-- A reference to a parameter entity, behind its percent sign: its name. Once there is one,
declarations may stand outside the document. -/
def parameterName? : Reading (Option String) := do
  match ← name? with
  | none =>
    report (.badReference "%")
    return none
  | some name =>
    if ← accept ";" then
      updateDeclarations fun d => { d with partly := true }
      return some name
    else
      report (.badReference name)
      return none

/-- What the literal of an entity stands for: characters given by number are replaced, and other
references stay. It ends early at a fault, and in front of a parameter entity that is not known;
one that is must not stand here. `fuel` bounds the number of steps. -/
def entityText : Nat → List Char → Reading (List Char)
  | 0, acc => return acc.reverse
  | fuel + 1, acc => do
    match ← rest with
    | [] => return acc.reverse
    | '&' :: s =>
      let (referent, s) := referenceFrom s
      moveTo s
      match referent with
      | .error fault =>
        report fault
        return acc.reverse
      | .ok (.character c) => entityText fuel (c :: acc)
      | .ok (.entity name) => entityText fuel ((("&" ++ name ++ ";").toList.reverse) ++ acc)
    | '%' :: s =>
      moveTo s
      match ← parameterName? with
      | none => return acc.reverse
      | some name =>
        match (← get).declarations.parameter? name with
        | none => reportUndeclared name
        | some _ => report (.misusedEntity name)
        return acc.reverse
    | c :: s =>
      moveTo s
      if c = damageMark then
        reportDamage
        entityText fuel (c :: acc)
      else if isLegal c then entityText fuel (c :: acc)
      else
        report (.illegalCharacter c)
        return acc.reverse

/-- The literal of an entity, behind its quote. Its line ends stay as they are. -/
def entityLiteral? (quote : Char) : Reading (Option (List Char)) := do
  let s ← rest
  match s.dropWhile (· != quote) with
  | [] =>
    moveTo []
    report (.unfinished "an entity")
    return none
  | _ :: behind =>
    if deepestText ≤ (← get).depth then report .tooDeep
    let literal := s.takeWhile (· != quote)
    moveTo literal
    let text ← entityText (literal.length + 1) []
    moveTo behind
    return some text

/-- Declares an entity, unless it is predefined or declared already. -/
def declareEntity (e : Entity) : Reading Unit := do
  match predefined? e.name with
  | some c => if !e.body.fitsPredefined c && (← isSound) then report (.changedPredefined e.name)
  | none => updateDeclarations (·.addEntity e)

/-- The body of an entity. -/
def entityBody? (isParameter : Bool) : Reading (Option EntityBody) := do
  match ← quote? with
  | some quote => return (← entityLiteral? quote).map .internal
  | none =>
    let place ← location false
    if !place.isGiven then report (.badDeclaration "ENTITY")
    let broken := (place.reference.getD []).contains '#'
    if broken then report (.badDeclaration "ENTITY")
    if isParameter then return if broken then none else place.reference.map fun _ => .external
    if (← next?) != some '>' then
      let _ ← expectSpaces (.badDeclaration "ENTITY")
    if ← accept "NDATA" then
      let _ ← expectSpaces (.badDeclaration "NDATA")
      let _ ← name?
      return some .unparsed
    else return some .external

def entityDeclaration : Reading Unit := do
  let _ ← expectSpaces (.badDeclaration "ENTITY")
  let isParameter ← accept "%"
  if isParameter then
    let _ ← expectSpaces (.badDeclaration "ENTITY")
  match ← name? with
  | none => report (.badName "an entity declaration")
  | some name =>
    if name.contains ':' then report (.misplacedColon name)
    let _ ← expectSpaces (.badDeclaration "ENTITY")
    match ← entityBody? isParameter with
    | none => pure ()
    | some body =>
      let e := Entity.ofBody name body
      if isParameter then updateDeclarations (·.addParameter e) else declareEntity e
    let _ ← skipSpaces
    let _ ← endDeclaration "ENTITY"

/-! ## Notations -/

def declareNotation (name : String) : Reading Unit := do
  if (← get).declarations.notations.contains name then
    if ← isSound then report (.repeatedDeclaration name)
  else updateDeclarations fun d => { d with notations := name :: d.notations }

def notationDeclaration : Reading Unit := do
  if !(← expectSpaces (.badDeclaration "NOTATION")) then return ()
  match ← name? with
  | none => report (.badName "a notation declaration")
  | some name =>
    if name.contains ':' then report (.misplacedColon name)
    if !(← expectSpaces (.badDeclaration "NOTATION")) then return ()
    let place ← location true
    let _ ← skipSpaces
    if ← endDeclaration "NOTATION" then
      if place.isGiven then declareNotation name else report (.badDeclaration "NOTATION")

/-! ## Elements -/

/-- Skips the mark that says how often something may come. -/
def skipFrequency : Reading Unit := do
  let c ← next?
  if c = some '?' || c = some '*' || c = some '+' then skip 1

/-- The rest of a group, in front of one of its members: names and groups between separators that
are all alike. `left` is how deep groups may still go, and `fuel` bounds the number of steps. -/
def groupFrom : Nat → Nat → Option Char → Reading Bool
  | 0, _, _ => return false
  | fuel + 1, left, separator => do
    let _ ← skipSpaces
    let sound ←
      if ← accept "(" then
        match left with
        | 0 =>
          report .tooDeep
          pure false
        | left + 1 => groupFrom fuel left none
      else
        match ← name? with
        | none =>
          report (.badDeclaration "ELEMENT")
          pure false
        | some _ =>
          skipFrequency
          pure true
    if !sound then return false
    let _ ← skipSpaces
    if ← accept ")" then
      skipFrequency
      return true
    match ← next? with
    | some c =>
      if (c = ',' || c = '|') && separator.getD c = c then
        skip 1
        groupFrom fuel left (some c)
      else
        report (.badDeclaration "ELEMENT")
        return false
    | none =>
      report (.badDeclaration "ELEMENT")
      return false

/-- The names that may stand between text, each behind a bar; `fuel` bounds how many. -/
def mixedFrom (named : Bool) : Nat → Reading Bool
  | 0 => return false
  | fuel + 1 => do
    let _ ← skipSpaces
    if ← accept "|" then
      let _ ← skipSpaces
      match ← name? with
      | none =>
        report (.badName "a content model")
        return false
      | some _ => mixedFrom true fuel
    else if ← accept ")*" then return true
    else if !named then
      if ← accept ")" then return true
      report (.badDeclaration "ELEMENT")
      return false
    else
      report (.badDeclaration "ELEMENT")
      return false

/-- A content model. -/
def contentModel : Reading Bool := do
  if ← accept "EMPTY" <||> accept "ANY" then return true
  else if ← accept "(" then
    let _ ← skipSpaces
    let fuel := (← rest).length + 1
    if ← accept "#PCDATA" then mixedFrom false fuel else groupFrom fuel (deepestElement - 1) none
  else
    report (.badDeclaration "ELEMENT")
    return false

def declareElement (name : String) : Reading Unit := do
  if (← get).declarations.elements.contains name then
    if ← isSound then report (.repeatedDeclaration name)
  else updateDeclarations fun d => { d with elements := name :: d.elements }

def elementDeclaration : Reading Unit := do
  if !(← expectSpaces (.badDeclaration "ELEMENT")) then return ()
  match ← name? with
  | none => report (.badName "an element declaration")
  | some name =>
    let _ ← expectSpaces (.badDeclaration "ELEMENT")
    if ← contentModel then
      let _ ← skipSpaces
      if ← endDeclaration "ELEMENT" then declareElement name

/-! ## Attributes -/

/-- The first of the words that is there. -/
def acceptType? : List (String × AttributeType) → Reading (Option AttributeType)
  | [] => return none
  | (word, type) :: more => do
    if ← accept word then return some type else acceptType? more

/-- A run of characters of names. -/
def word? : Reading (Option String) := do
  let s ← rest
  moveTo (s.dropWhile isNameCharacter)
  let word := s.takeWhile isNameCharacter
  return if word.isEmpty then none else some (String.ofList word)

/-- The choices of a type, each between bars; `fuel` bounds how many. -/
def choicesFrom (choice? : Reading (Option String)) : Nat → List String → Reading Bool
  | 0, _ => return false
  | fuel + 1, seen => do
    let _ ← skipSpaces
    match ← choice? with
    | none =>
      report (.badName "an attribute declaration")
      return false
    | some choice =>
      if seen.contains choice then report (.repeatedToken choice)
      let _ ← skipSpaces
      if ← accept "|" then choicesFrom choice? fuel (choice :: seen)
      else if ← accept ")" then return true
      else
        report (.badDeclaration "ATTLIST")
        return false

def choices (choice? : Reading (Option String)) : Reading Bool := do
  if ← accept "(" then choicesFrom choice? ((← rest).length + 1) []
  else
    report (.badDeclaration "ATTLIST")
    return false

def attributeType? : Reading (Option AttributeType) := do
  match ← acceptType? AttributeType.written with
  | some type => return some type
  | none =>
    if ← accept "NOTATION" then
      if !(← expectSpaces (.badDeclaration "NOTATION")) then return none
      return if ← choices name? then some .notationName else none
    else return if ← choices word? then some .choice else none

/-- The default value of an attribute, if it is given one. -/
def defaultValue? (type : AttributeType) : Reading (Option String) := do
  if ← accept "#REQUIRED" <||> accept "#IMPLIED" then return none
  if ← accept "#FIXED" then
    let _ ← expectSpaces (.badDeclaration "FIXED")
  match ← value? false false with
  | none => return none
  | some parts =>
    let text := rawText parts
    return some (if type = .text then text else squeezed text)

/-- Checks a rule. Each identifier attribute of an element beyond its first is a fault, and so is a
default that does not fit its type. -/
def checkRule (r : AttributeRule) : Reading Unit := do
  let d := (← get).declarations
  if r.named = "xml:id" && r.type != .identifier then report .badIdentifierType
  match r.default with
  | some value => if !r.type.fits value.toList then report (.badDefault value)
  | none => pure ()
  if (d.rule? r.element r.named).isSome then report (.repeatedRule r.named)
  else if r.type = .identifier &&
      d.rules.any fun old => old.element == r.element && old.type == .identifier then
    report (.severalIdentifiers r.element)

def declareRule (r : AttributeRule) : Reading Unit := do
  if ← isSound then checkRule r
  updateDeclarations fun d =>
    if (d.rule? r.element r.named).isSome then d else { d with rules := d.rules ++ [r] }

/-- The attributes of an element; `fuel` bounds how many. -/
def rulesFrom (element : String) : Nat → Reading Unit
  | 0 => return ()
  | fuel + 1 => do
    if ← accept ">" then return ()
    match ← name? with
    | none => report (.badName "an attribute declaration")
    | some named =>
      if !(← expectSpaces (.badDeclaration "ATTLIST")) then return ()
      match ← attributeType? with
      | none => return ()
      | some type =>
        if !(← expectSpaces (.badDeclaration "ATTLIST")) then return ()
        let default ← defaultValue? type
        if (← next?) != some '>' then
          if !(← expectSpaces (.badDeclaration "ATTLIST")) then return ()
        declareRule ⟨element, named, type, default⟩
        rulesFrom element fuel

def attributesDeclaration : Reading Unit := do
  let _ ← expectSpaces (.badDeclaration "ATTLIST")
  match ← name? with
  | none => report (.badName "an attribute declaration")
  | some element =>
    let _ ← skipSpaces
    rulesFrom element ((← rest).length + 1)

end Reading

end Storyboard.Markup
