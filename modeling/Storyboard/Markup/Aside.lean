import Storyboard.Markup.Node
import Storyboard.Markup.Reading
/-!
# Comments and processing instructions

They may stand nearly everywhere, between declarations as well as in content. A comment holds no two
hyphens in a row. An instruction has a target, whose name is no form of `xml`, and perhaps content
behind a space.
-/
namespace Storyboard.Markup

/-- Targets that begin with `xml` and are in use. -/
def knownTargets : List String := ["xml-stylesheet", "xml-model"]

/-- What is wrong with the target of an instruction. -/
def targetFaults (target : String) : List Fault :=
  let stem := String.ofList ((target.toList.take 3).map Char.toLower)
  if stem = "xml" && target.length = 3 then [.badInstruction target]
  else if knownTargets.contains target then []
  else
    (if stem = "xml" then [.reservedTarget target] else []) ++
      (if target.contains ':' then [.misplacedColon target] else [])

namespace Reading

/-- The rest of a comment, behind its opening, as far as two hyphens; `fuel` bounds how many come
without the end. -/
def commentFrom : Nat → List Char → Reading (Option (List Char))
  | 0, _ => return none
  | fuel + 1, before => do
    let text ← run fun s => "--".toList.isPrefixOf s
    let s ← rest
    if ← accept "-->" then return some (before ++ text)
    else if ← accept "-" then
      report .badComment
      commentFrom fuel (before ++ text)
    else
      report (match s with
        | [] => .unfinished "a comment"
        | c :: _ => .illegalCharacter c)
      return none

/-- A comment, behind its opening; `fuel` bounds how often two hyphens come in it. -/
def comment? (fuel : Nat) : Reading (Option Node) := do
  let text? ← commentFrom fuel []
  return text?.map fun text => .comment (String.ofList text)

/-- An instruction, behind its opening. -/
def instruction? : Reading (Option Node) := do
  match ← name? with
  | none =>
    report (.badInstruction "")
    return none
  | some target =>
    reportAll (targetFaults target)
    if ← accept "?>" then return some (.instruction target none)
    let _ ← expectSpaces (.badInstruction target)
    match ← runUpTo "?>" with
    | none =>
      report (.unfinished "an instruction")
      return none
    | some content => return some (.instruction target (some (String.ofList content)))

end Reading

end Storyboard.Markup
