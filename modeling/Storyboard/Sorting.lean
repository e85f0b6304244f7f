/-!
# Stable sorting

A list is sorted by a strict order: what is neither before nor behind something else keeps its place
beside it.
-/
namespace Storyboard

/-- Puts an element in front of the first one that is not before it. -/
def insertSorted {α : Type} (before : α → α → Bool) (a : α) : List α → List α
  | [] => [a]
  | b :: rest => if before b a then b :: insertSorted before a rest else a :: b :: rest

/-- The elements of a list in order. -/
def sorted {α : Type} (before : α → α → Bool) (l : List α) : List α :=
  l.foldr (insertSorted before) []

end Storyboard
