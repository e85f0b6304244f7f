import Storyboard.Markup.Content
import Storyboard.Markup.Doctype
import Storyboard.Markup.Encoding
import Storyboard.Text.Utf8
/-!
# Reading a document

A document is an XML declaration if it has one, a document type if it has one, and one element,
with spaces, comments and instructions between them. Reading it (`Document.ofSource`) keeps a log of
faults, and the log decides whether there is a document at all.
-/
namespace Storyboard.Markup

namespace Reading

/-- Comments and instructions, with spaces between them; `fuel` bounds how many. -/
def asidesFrom : Nat → Reading Unit
  | 0 => return ()
  | fuel + 1 => do
    let _ ← skipSpaces
    if ← accept "<?" then
      let _ ← instruction?
      asidesFrom fuel
    else if ← accept "<!--" then
      let _ ← comment? fuel
      asidesFrom fuel

def asides : Reading Unit := do asidesFrom ((← rest).length + 1)

/-- What may stand in front of the outermost element. -/
def prolog (unknown : Option String) : Reading Unit := do
  match ← rest with
  | '<' :: '?' :: 'x' :: 'm' :: 'l' :: c :: s =>
    if isSpace c then
      moveTo (c :: s)
      xmlDeclaration unknown
  | _ => pure ()
  asides
  if ← accept "<!DOCTYPE" then
    documentType
    asides

/-- The outermost element, behind its angle bracket. -/
def rootElement? : Reading (Option Element) := do
  match ← startTag? (← rest).length .outermost with
  | none => return none
  | some o =>
    if o.closed then return some ⟨o.tag, []⟩
    let nodes ← rootContent o.scope
    if (← rest).isEmpty then
      if ← isSound then report (.unfinished o.written)
    else
      skip 2
      endTag o.written
    return some ⟨o.tag, nodes⟩

/-- What is left behind a document, unless another fault was found before. -/
def documentEnd (truncated : Bool) : Reading Unit := do
  lookAhead
  if (← get).log.isMild then
    if !(← rest).isEmpty then report .strayContent
    else if truncated then report .undecodable

/-- A whole document. -/
def document? (unknown : Option String) (truncated : Bool) : Reading (Option Element) := do
  let s ← rest
  if s.isEmpty || s.head? = some '\x00' then giveUp .empty
  prolog unknown
  if ← accept "<" then
    let root ← rootElement?
    asides
    documentEnd truncated
    return root
  else
    if ← isSound then report .empty
    return none

end Reading

/-- The document that a source is. -/
def Document.ofSource (source : Source) : Except Fault Document :=
  let reading := Reading.document? source.unknownEncoding source.truncated
  match EStateM.run reading (Reader.ofSource source) with
  | .ok root r =>
    match r.log.refusal?, root with
    | some fault, _ => .error fault
    | none, some root => .ok ⟨root⟩
    | none, none => .error .empty
  | .error _ r => .error (r.log.refusal?.getD .empty)

/-- The document that the bytes are.
Mirrors what `parse_storyboard` does with the bytes of a file. -/
def Document.ofBytes (bytes : List UInt8) : Except Fault Document :=
  if isEbcdic bytes then .error (.encoding "EBCDIC") else Document.ofSource (.ofBytes bytes)

/-- The document that a text is, blanks at its ends aside. Mirrors `parse_storyboard_string`. -/
def Document.ofText (s : String) : Except Fault Document :=
  Document.ofBytes (Text.utf8 (String.ofList (Text.trim s.toList)))

end Storyboard.Markup
