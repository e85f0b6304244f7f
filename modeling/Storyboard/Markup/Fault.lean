/-!
# What can be wrong with a document

A fault is a warning, an error, or fatal. A fatal one makes the text no document at all. An error
leaves a document whose names or identifiers do not do what they should.
-/
namespace Storyboard.Markup

inductive Gravity where
  | warning
  | error
  | fatal
  deriving Repr, DecidableEq

inductive Fault where
  | empty
  | encoding (name : String)
  | undecodable
  | illegalCharacter (c : Char)
  | unfinished (what : String)
  | badComment
  | badName (place : String)
  | badTag (name : String)
  | badValue
  | badInstruction (target : String)
  | badDeclaration (keyword : String)
  | badReference (name : String)
  | undeclaredEntity (name : String)
  | misusedEntity (name : String)
  | entityLoop (name : String)
  | excessiveExpansion
  | repeatedAttribute (name : String)
  | mismatchedEnd (name : String)
  | closingBracketsInText
  | strayContent
  | tooDeep
  | badNamespace (uri : String)
  | undeclaredLabel (label : String)
  | misplacedColon (name : String)
  | sameAttribute (name : String)
  | badIdentifier (value : String)
  | repeatedIdentifier (value : String)
  | repeatedDeclaration (name : String)
  | repeatedToken (name : String)
  | badIdentifierType
  | severalIdentifiers (element : String)
  | badDefault (value : String)
  | reservedTarget (target : String)
  | relativeNamespace (uri : String)
  | unknownSpacing (value : String)
  | unknownVersion (version : String)
  | unknownEntity (name : String)
  | repeatedRule (name : String)
  | changedPredefined (name : String)
  deriving Repr, DecidableEq

namespace Fault

def gravity : Fault → Gravity
  | .badNamespace _ | .undeclaredLabel _ | .misplacedColon _ | .sameAttribute _ | .badIdentifier _
  | .repeatedIdentifier _ | .repeatedDeclaration _ | .repeatedToken _ | .badIdentifierType
  | .severalIdentifiers _ | .badDefault _ => .error
  | .reservedTarget _ | .relativeNamespace _ | .unknownSpacing _ | .unknownVersion _
  | .unknownEntity _ | .repeatedRule _ | .changedPredefined _ => .warning
  | _ => .fatal

def text : Fault → String
  | .empty => "the document has no element"
  | .encoding name => "unsupported encoding " ++ name
  | .undecodable => "the bytes do not fit the encoding"
  | .illegalCharacter c => "character number " ++ toString c.toNat ++ " is not allowed"
  | .unfinished what => what ++ " ends too early"
  | .badComment => "two hyphens inside a comment"
  | .badName place => "a name is missing in " ++ place
  | .badTag name => "malformed tag " ++ name
  | .badValue => "malformed attribute value"
  | .badInstruction target => "malformed processing instruction " ++ target
  | .badDeclaration keyword => "malformed declaration " ++ keyword
  | .badReference name => "malformed reference " ++ name
  | .undeclaredEntity name => "undeclared entity " ++ name
  | .misusedEntity name => "entity " ++ name ++ " is not allowed here"
  | .entityLoop name => "entity " ++ name ++ " contains itself"
  | .excessiveExpansion => "entities expand beyond measure"
  | .repeatedAttribute name => "attribute " ++ name ++ " given twice"
  | .mismatchedEnd name => "mismatched end tag of " ++ name
  | .closingBracketsInText => "the end of a character data section without its start"
  | .strayContent => "content outside the outermost element"
  | .tooDeep => "nested too deep"
  | .badNamespace uri => "namespace not allowed: " ++ uri
  | .undeclaredLabel label => "undeclared namespace label " ++ label
  | .misplacedColon name => "misplaced colon in " ++ name
  | .sameAttribute name => "attribute " ++ name ++ " given under two labels"
  | .badIdentifier value => "not an identifier: " ++ value
  | .repeatedIdentifier value => "identifier " ++ value ++ " given twice"
  | .repeatedDeclaration name => "declared twice: " ++ name
  | .repeatedToken name => "listed twice: " ++ name
  | .badIdentifierType => "the identifier attribute has another type"
  | .severalIdentifiers element => "several identifier attributes of " ++ element
  | .badDefault value => "a default value that does not fit its type: " ++ value
  | .reservedTarget target => "reserved target " ++ target
  | .relativeNamespace uri => "relative namespace " ++ uri
  | .unknownSpacing value => "unknown treatment of space: " ++ value
  | .unknownVersion version => "unknown version " ++ version
  | .unknownEntity name => "unknown entity " ++ name
  | .repeatedRule name => "attribute " ++ name ++ " declared twice"
  | .changedPredefined name => "predefined entity " ++ name ++ " declared as something else"

end Fault

end Storyboard.Markup
