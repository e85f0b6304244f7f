import Storyboard.Proofs.Number.Rounding
import Storyboard.Proofs.Swift.Writable
/-!
# Paddings within their bounds

The space above a component is the difference of two positions, held between the least and the greatest
padding and then cut to an integer. Cutting keeps the order, so the integer lies between the integer parts
of the bounds, whatever the positions are: infinite positions come to a bound, and an undefined difference
comes to the greatest padding, since it displaces nothing. Small integers are subtracted without rounding.

* `topPadding_eq`: the padding is its integer part.
* `topPadding_bounded`: the padding is between the bounds, and exact for small integers.
-/
namespace Storyboard.Swift

open Storyboard.Number (Binary64)
open Storyboard.Number.Binary64

section
variable {settings : Settings} (hs : settings.hasFinitePadding = true)
include hs

/-- The padding is what the difference of the positions comes to between the bounds, cut toward zero. -/
theorem topPadding_eq (previous current : Binary64) :
    topPadding settings previous current = .ok (truncated
      (larger settings.minTopPadding (smaller settings.maxTopPadding (current - previous))).value) := by
  rw [Settings.hasFinitePadding, Bool.and_eq_true] at hs
  exact integerPart_eq_ok.mpr (truncate_eq (isFinite_clamp hs.1 hs.2 _))

/-- For integers of at most 52 binary digits the padding is the difference held between the bounds. -/
theorem topPadding_integers {previous current : Binary64} {p c low high : Int}
    (hp : IsInteger previous p) (hc : IsInteger current c) (hlow : IsInteger settings.minTopPadding low)
    (hhigh : IsInteger settings.maxTopPadding high) (hps : p.natAbs < 2 ^ 52) (hcs : c.natAbs < 2 ^ 52) :
    topPadding settings previous current = .ok (max low (min high (c - p))) := by
  have hdifference := hc.sub hp (by omega)
  rw [topPadding_eq hs, value_clamp hlow.isFinite hhigh.isFinite hdifference.isFinite, hlow.value,
    hhigh.value, hdifference.value, ← Int.cast_min, ← Int.cast_max, truncated_intCast]

end

/-- **Paddings are integers within their bounds.** For finite bounds in their order and any two positions
there is a padding. It lies between the integer parts of the bounds, is that of the greater bound if the
positions have no defined difference, and is exact if positions and bounds are integers and the positions
have at most 52 binary digits. -/
theorem topPadding_bounded (settings : Settings) (hs : settings.hasFinitePadding = true)
    (hle : Binary64.le settings.minTopPadding settings.maxTopPadding = true)
    (previous current : Binary64) :
    ∃ n low high : Int, topPadding settings previous current = .ok n ∧
      settings.minTopPadding.truncate = .ok low ∧ settings.maxTopPadding.truncate = .ok high ∧
      low ≤ n ∧ n ≤ high ∧
      (current - previous = .undefined → n = high) ∧
      ∀ p c a b : Int, IsInteger previous p → IsInteger current c →
        IsInteger settings.minTopPadding a → IsInteger settings.maxTopPadding b →
        p.natAbs < 2 ^ 52 → c.natAbs < 2 ^ 52 → n = max a (min b (c - p)) := by
  obtain ⟨hmin, hmax⟩ := (Bool.and_eq_true _ _).mp hs
  have hvalues := value_le_of_le hmin hmax hle
  obtain ⟨hlow, hhigh⟩ := value_clamp_mem hmin hmax hvalues (current - previous)
  refine ⟨_, _, _, topPadding_eq hs previous current, truncate_eq hmin, truncate_eq hmax,
    truncated_mono hlow, truncated_mono hhigh, ?_, ?_⟩
  · intro hundefined
    rw [value_clamp_eq hmin hmax, hundefined]
    exact congrArg truncated (max_eq_right hvalues)
  · intro p c a b hp hc ha hb hps hcs
    exact Except.ok.inj ((topPadding_eq hs previous current).symm.trans
      (topPadding_integers hs hp hc ha hb hps hcs))

/-- Bounds on either side of zero that are no integers: -2.5 and 1.5. -/
def fractionalBounds : Settings :=
  { Settings.standard with
    minTopPadding := .finite true 5629499534213120 (-51), maxTopPadding := .finite false 6755399441055744 (-52) }

theorem topPadding_bounded_fractional :
    (fractionalBounds.hasFinitePadding = true ∧
      Binary64.le fractionalBounds.minTopPadding fractionalBounds.maxTopPadding = true ∧
      ∃ n low high : Int, topPadding fractionalBounds (.infinite false) (.infinite false) = .ok n ∧
        fractionalBounds.minTopPadding.truncate = .ok low ∧
        fractionalBounds.maxTopPadding.truncate = .ok high ∧ low ≤ n ∧ n ≤ high ∧ n = high) ∧
    topPadding Settings.standard (ofInt (-3)) (ofInt 7) = .ok 10 := by
  have hs : fractionalBounds.hasFinitePadding = true := by decide
  have hle : Binary64.le fractionalBounds.minTopPadding fractionalBounds.maxTopPadding = true := by
    decide +kernel
  constructor
  · obtain ⟨n, low, high, hn, hlow, hhigh, hleast, hgreatest, hundefined, -⟩ :=
      topPadding_bounded fractionalBounds hs hle (.infinite false) (.infinite false)
    exact ⟨hs, hle, n, low, high, hn, hlow, hhigh, hleast, hgreatest, hundefined rfl⟩
  · obtain ⟨n, -, -, hn, -, -, -, -, -, hexact⟩ := topPadding_bounded Settings.standard
      (by decide +kernel) (by decide +kernel) (ofInt (-3)) (ofInt 7)
    have hinteger : ∀ k : Int, k.natAbs < 2 ^ 52 → IsInteger (ofInt k) k := fun k hk =>
      isInteger_ofInt (by omega)
    rw [hn, hexact (-3) 7 4 32 (hinteger _ (by decide)) (hinteger _ (by decide))
      (hinteger 4 (by decide)) (hinteger 32 (by decide)) (by decide) (by decide)]
    rfl

end Storyboard.Swift
