import Storyboard.Number.Binary64
/-!
# Finite numbers

Exactly the finite numbers have an integer part. A number held between two finite bounds is finite,
also if it is infinite or undefined itself.
-/
namespace Storyboard.Number.Binary64

def isFinite : Binary64 → Bool
  | .finite .. => true
  | _ => false

theorem truncate_isOk_iff {x : Binary64} : (∃ n, x.truncate = .ok n) ↔ x.isFinite = true := by
  cases x <;> simp [truncate, isFinite]

/-- A finite number displaces nothing but what is larger, so only the bounds and what lies between
them are left. -/
theorem isFinite_clamp {low high : Binary64} (hlow : low.isFinite = true) (hhigh : high.isFinite = true)
    (x : Binary64) : (larger low (smaller high x)).isFinite = true := by
  cases low with
  | undefined | infinite => cases hlow
  | finite s m e =>
    cases high with
    | undefined | infinite => cases hhigh
    | finite t n f =>
      cases x with
      | undefined =>
        have hx : smaller (.finite t n f) .undefined = .finite t n f := rfl
        rw [hx, larger]
        split <;> rfl
      | infinite negative =>
        -- from below it is displaced by the lower bound, from above by the upper one
        cases negative with
        | true => rfl
        | false =>
          have hx : smaller (.finite t n f) (.infinite false) = .finite t n f := rfl
          rw [hx, larger]
          split <;> rfl
      | finite u k g =>
        simp only [larger, smaller]
        split <;> split <;> rfl

end Storyboard.Number.Binary64
