import Storyboard.Conversion.Logged
/-!
# Navigation elements

Four kinds of element say how the screens of a document hang together. They are listed kind by kind,
each kind in document order. View controllers count in any namespace, the others only in none.
-/
namespace Storyboard.Navigation

open Storyboard.Markup

inductive EdgeKind where
  | navigationController
  | viewController
  | relationship
  | segue
  deriving Repr, DecidableEq

def EdgeKind.name : EdgeKind → String
  | .navigationController => "navigationController"
  | .viewController => "viewController"
  | .relationship => "relationship"
  | .segue => "segue"

/-- Mirrors `NavigationEdge`. -/
structure Edge where
  kind : EdgeKind
  id : String
  /-- The element itself, kept for view controllers only. -/
  site : Option Site
  /-- The attributes that the element itself has, each name once. -/
  attributes : List (String × String)
  deriving Repr

namespace Edge

def attribute? (e : Edge) (name : String) : Option String := e.attributes.lookup name

def ofSite (kind : EdgeKind) (s : Site) : Edge where
  kind := kind
  id := (s.attribute? "id").getD "unknown"
  site := if kind = .viewController then some s else none
  attributes := s.element.attributes.eraseDupsBy fun a b => a.1 == b.1

end Edge

/-- The elements of a document that are of a kind. -/
def EdgeKind.sites (kind : EdgeKind) (d : Document) : List Site :=
  match kind with
  | .viewController => d.sites.filter fun s => s.element.tag.name.base == "viewController"
  | kind => d.sitesNamed kind.name

/-- The navigation elements of a document. -/
def edgesOf (d : Document) : List Edge :=
  [EdgeKind.navigationController, .viewController, .relationship, .segue].flatMap fun kind =>
    (kind.sites d).map (Edge.ofSite kind)

/-- The navigation elements, counted in a notice. Mirrors `get_navigation_elements`. -/
def edges (d : Document) : Logged (List Edge) := do
  let es := edgesOf d
  Logged.note (.navigationElements es.length)
  return es

end Storyboard.Navigation
