import Storyboard.Markup.Reference
/-!
# Namespaces

A written name may carry a label; the label stands for the namespace that the nearest enclosing
declaration gives it. A name without a label is in the default namespace if it names an element, and
in none if it names an attribute. Two labels are fixed, `xml` and `xmlns`, and so are their
namespaces.
-/
namespace Storyboard.Markup

open Storyboard.Text (isDigitOf numberOf)

/-- A name by its label and the rest. -/
structure LabelledName where
  label : Option String
  base : String
  deriving Repr, DecidableEq

namespace LabelledName

/-- A written name, cut at its colon. If its colons do not leave a label and a plain name, that is a
fault, and the name has no label or a base with colons. A second colon ends the name in front of
what cannot begin one; that is the last part of the answer. -/
def ofName (s : List Char) : LabelledName × List Fault × List Char :=
  let fault := [.misplacedColon (String.ofList s)]
  let label := s.takeWhile (· != ':')
  match s.dropWhile (· != ':') with
  | [] => (⟨none, String.ofList s⟩, [], [])
  | _ :: base =>
    let first := base.takeWhile (· != ':')
    if label.isEmpty || !isName first then (⟨none, String.ofList s⟩, fault, [])
    else
      let labelled (base : List Char) : LabelledName :=
        ⟨some (String.ofList label), String.ofList base⟩
      match base.dropWhile (· != ':') with
      | [] => (labelled base, [], [])
      | _ :: more =>
        if more.isEmpty || isName more then (labelled base, fault, [])
        else (labelled (first ++ [':']), fault, more)

/-- A name, cut at its first colon unless that is its first character. -/
def cut (name : String) : LabelledName :=
  let s := name.toList
  match s.takeWhile (· != ':'), s.dropWhile (· != ':') with
  | [], _ | _, [] => ⟨none, name⟩
  | label, _ :: base => ⟨some (String.ofList label), String.ofList base⟩

end LabelledName

/-! ## Form of a namespace

A namespace is written as a reference to a resource: a scheme, an authority, a path, a query and a
fragment, each of which may be missing. The functions `after…` answer what follows a part. -/

/-- A character of a host. -/
def isHostCharacter (c : Char) : Bool := c.isAlphanum || "-._~!$&'()*+,;=".toList.contains c

/-- A character of a path. -/
def isPathCharacter (c : Char) : Bool := isHostCharacter c || c == ':' || c == '@'

/-- What follows the allowed characters at the head of a text; a percent sign before two hexadecimal
digits is allowed everywhere. -/
def afterEscaped (allowed : Char → Bool) : List Char → List Char
  | [] => []
  | '%' :: a :: b :: rest =>
    if isDigitOf 16 a && isDigitOf 16 b then afterEscaped allowed rest
    else '%' :: a :: b :: rest
  | c :: rest => if allowed c then afterEscaped allowed rest else c :: rest

/-- A number of at most thirty-one bits, and something behind it or not. -/
def afterPort? (s : List Char) : Option (List Char) :=
  let digits := s.takeWhile Char.isDigit
  if digits.isEmpty || 0x80000000 ≤ numberOf 10 digits then none else some (s.dropWhile Char.isDigit)

/-- A host: anything between brackets, or characters of a host. -/
def afterHost? : List Char → Option (List Char)
  | '[' :: s =>
    match s.dropWhile (· != ']') with
    | [] => none
    | _ :: rest => some rest
  | s => some (afterEscaped isHostCharacter s)

/-- A host with perhaps a user before it and a port behind it. -/
def afterAuthority? (s : List Char) : Option (List Char) := do
  let s := match afterEscaped (fun c => isHostCharacter c || c == ':') s with
    | '@' :: host => host
    | _ => s
  match ← afterHost? s with
  | ':' :: port => afterPort? port
  | rest => return rest

def afterPath (s : List Char) : List Char :=
  afterEscaped (fun c => isPathCharacter c || c == '/') s

/-- What stands behind a scheme: an authority behind two slashes with perhaps a path, or a path. -/
def afterHierarchy? : List Char → Option (List Char)
  | '/' :: '/' :: s => do
    match ← afterAuthority? s with
    | '/' :: rest => return afterPath rest
    | rest => return rest
  | s => some (afterPath s)

/-- Perhaps a query, perhaps a fragment, and nothing else. -/
def isEnding (s : List Char) : Bool :=
  let s := match s with
    | '?' :: query => afterEscaped (fun c => isPathCharacter c || "/?".toList.contains c) query
    | s => s
  match s with
  | [] => true
  | '#' :: fragment =>
    (afterEscaped (fun c => isPathCharacter c || "/?[]".toList.contains c) fragment).isEmpty
  | _ => false

/-- A reference with a scheme. -/
def isAbsolute (s : List Char) : Bool :=
  let isSchemeCharacter (c : Char) : Bool := c.isAlphanum || "+-.".toList.contains c
  match (s.head?.map Char.isAlpha).getD false, s.dropWhile isSchemeCharacter with
  | true, ':' :: rest => (afterHierarchy? rest).elim false isEnding
  | _, _ => false

/-- A reference without a scheme: the first step of its path has no colon. -/
def isRelative (s : List Char) : Bool :=
  let rest :=
    if s.head? = some '/' then afterHierarchy? s
    else match afterEscaped (fun c => isPathCharacter c && c != ':') s with
      | '/' :: rest => some (afterPath rest)
      | rest => some rest
  rest.elim false isEnding

/-! ## Scope -/

/-- The namespaces in scope by label, the nearest declaration first. The empty namespace is none. -/
abbrev Scope := List (Option String × String)

def xmlSpace : String := "http://www.w3.org/XML/1998/namespace"

def declarationSpace : String := "http://www.w3.org/2000/xmlns/"

/-- What is in scope without any declaration. -/
def Scope.outermost : Scope := [(some "xml", xmlSpace)]

/-- The namespace that a label stands for. -/
def Scope.find? (scope : Scope) (label : String) : Option String :=
  if label = "xml" then some xmlSpace else scope.lookup (some label)

/-- The default namespace. -/
def Scope.default? (scope : Scope) : Option String := (scope.lookup none).filter (· != "")

/-- What is wrong with declaring a namespace, and whether the declaration counts all the same. The
label `xml` may be declared, to no effect. -/
def checkDeclaration (label : Option String) (uri : String) : List Fault × Bool :=
  let form : List Fault :=
    if uri = "" || isAbsolute uri.toList then []
    else if !isRelative uri.toList then [.badNamespace uri]
    else if label.isNone then [.relativeNamespace uri]
    else []
  if label = some "xml" then (if uri = xmlSpace then [] else [.badNamespace uri], false)
  else if label.isSome && (uri = xmlSpace || label = some "xmlns" || uri = declarationSpace ||
      uri = "") then
    ([.badNamespace uri], false)
  else if uri = xmlSpace || uri = declarationSpace then (form ++ [.badNamespace uri], false)
  else (form, true)

end Storyboard.Markup
