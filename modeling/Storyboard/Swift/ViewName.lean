/-!
# View names

The name of a view is made from a base, which any text can be. The first free one of `<base>View`,
`<base>View2`, `<base>View3`, … is taken; among one more candidate than there are used names, one is
free.
-/
namespace Storyboard.Swift

/-- The candidates for a base, by number. -/
def nameCandidate (base : String) (n : Nat) : String :=
  if n = 0 then base ++ "View" else base ++ "View" ++ toString (n + 1)

/-- The first candidate for a base that is not used. Mirrors `_unique_view_name`. -/
def unusedName (base : String) (used : List String) : String :=
  (((List.range (used.length + 1)).map (nameCandidate base)).find? (!used.contains ·)).getD
    (nameCandidate base used.length)

end Storyboard.Swift
