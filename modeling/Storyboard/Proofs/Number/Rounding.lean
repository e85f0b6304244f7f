import Mathlib.Tactic.FieldSimp
import Mathlib.Tactic.NormNum
import Mathlib.Tactic.Ring
import Storyboard.Proofs.Number.Value
/-!
# Rounding to the nearest number

Without a greatest exponent the numbers would lie on an unbounded grid. A magnitude is rounded to the
nearest point of that grid, a tie going to the even mantissa, and to infinity if that point is beyond the
greatest number. This is what `round` computes from a quotient of naturals, `ofDecimal` from digits and an
exponent of ten, and addition from the exact sum.

* `RoundsTo`: what a magnitude is rounded to, said without computing it; `RoundsTo.unique`: only one number.
* `roundsTo_round`, `roundsTo_ofDecimal`, `roundsTo_add`: the operations are correctly rounded.
* `RoundsTo.value_eq`: a magnitude on the grid is its own result.
-/
namespace Storyboard.Number

/-! ## The nearest natural -/

theorem cast_div_add_mod (num : Nat) {den : Nat} (hden : 0 < den) :
    (num : ℚ) / den = (num / den : Nat) + (num % den : Nat) / den := by
  have hpos : (0 : ℚ) < den := by exact_mod_cast hden
  have hsplit : (num : ℚ) = den * (num / den : Nat) + (num % den : Nat) := by
    exact_mod_cast (Nat.div_add_mod num den).symm
  rw [div_eq_iff hpos.ne', add_mul, div_mul_cancel₀ _ hpos.ne', mul_comm]
  exact hsplit

/-- Twice the rest against the denominator says on which side of the middle it is. -/
theorem rest_lt_half (num : Nat) {den : Nat} (hden : 0 < den) :
    (num % den : Nat) / (den : ℚ) < 1 / 2 ↔ 2 * (num % den) < den := by
  have hpos : (0 : ℚ) < den := by exact_mod_cast hden
  rw [div_lt_div_iff₀ hpos two_pos, one_mul, mul_comm]
  exact_mod_cast Iff.rfl

theorem half_lt_rest (num : Nat) {den : Nat} (hden : 0 < den) :
    1 / 2 < (num % den : Nat) / (den : ℚ) ↔ den < 2 * (num % den) := by
  have hpos : (0 : ℚ) < den := by exact_mod_cast hden
  rw [div_lt_div_iff₀ two_pos hpos, one_mul, mul_comm]
  exact_mod_cast Iff.rfl

/-- No natural is nearer to a quotient, and of two equally near ones the even one is taken. -/
theorem divNearest_spec (num : Nat) {den : Nat} (hden : 0 < den) :
    |(num : ℚ) / den - divNearest num den| ≤ 1 / 2 ∧
      (|(num : ℚ) / den - divNearest num den| = 1 / 2 → divNearest num den % 2 = 0) := by
  have hpos : (0 : ℚ) < den := by exact_mod_cast hden
  have hrest : (num % den : Nat) / (den : ℚ) < 1 :=
    (div_lt_one hpos).mpr (by exact_mod_cast Nat.mod_lt num hden)
  have hnonneg : 0 ≤ (num % den : Nat) / (den : ℚ) := by positivity
  have hbelow := rest_lt_half num hden
  have habove := half_lt_rest num hden
  rw [cast_div_add_mod num hden]
  unfold divNearest
  dsimp only
  generalize (num % den : Nat) / (den : ℚ) = t at hrest hnonneg hbelow habove ⊢
  split
  · rename_i h
    have ht : t < 1 / 2 := hbelow.mpr h
    rw [add_sub_cancel_left, abs_of_nonneg hnonneg]
    exact ⟨ht.le, fun heq => absurd heq ht.ne⟩
  · split
    · rename_i h
      have ht : 1 / 2 < t := habove.mpr h
      have hdistance : ((num / den : Nat) : ℚ) + t - (num / den + 1 : Nat) = t - 1 := by
        push_cast
        ring
      rw [hdistance, abs_of_neg (by linarith)]
      exact ⟨by linarith, fun _ => by linarith⟩
    · rename_i hle hge
      have ht : t = 1 / 2 := le_antisymm (not_lt.mp (mt habove.mp hge)) (not_lt.mp (mt hbelow.mp hle))
      have heven : (num / den + num / den % 2) % 2 = 0 := by omega
      refine ⟨?_, fun _ => heven⟩
      subst ht
      rcases Nat.mod_two_eq_zero_or_one (num / den) with h | h <;> rw [h] <;> push_cast <;>
        rw [abs_le] <;> constructor <;> linarith

namespace Binary64

/-! ## The grid -/

/-- A point of the grid on which the finite numbers lie, which has no greatest exponent. -/
def OnGrid (y : ℚ) : Prop := ∃ (m : Nat) (e : Int), m < 2 ^ 53 ∧ leastExponent ≤ e ∧ y = m * 2 ^ e

/-- The mantissa and the exponent of a finite number as it comes out of a rounding. -/
def IsNormal (m : Nat) (e : Int) : Prop :=
  m < 2 ^ 53 ∧ leastExponent ≤ e ∧ e ≤ greatestExponent ∧ (2 ^ 52 ≤ m ∨ e = leastExponent)

/-- Half-way between the greatest number and the next point of the grid. -/
def overflow : ℚ := (2 ^ 53 - 1 / 2) * 2 ^ greatestExponent

/-- What a magnitude is rounded to: the nearest point of the grid, a tie going to the even mantissa, or
infinity from the overflow on. -/
inductive RoundsTo (negative : Bool) (q : ℚ) : Binary64 → Prop where
  | infinite (h : overflow ≤ q) : RoundsTo negative q (.infinite negative)
  | finite (m : Nat) (e : Int) (normal : IsNormal m e) (bounded : q < overflow)
      (nearest : ∀ y, OnGrid y → |q - m * 2 ^ e| ≤ |q - y|)
      (even : ∀ y, OnGrid y → |q - y| = |q - m * 2 ^ e| → y = m * 2 ^ e ∨ m % 2 = 0) :
      RoundsTo negative q (.finite negative m e)

theorem IsNormal.onGrid {m : Nat} {e : Int} (h : IsNormal m e) : OnGrid (m * 2 ^ e) :=
  ⟨m, e, h.1, h.2.1, rfl⟩

/-- The exponent of the last place that is kept of a magnitude. -/
structure IsPlace (q : ℚ) (p : Int) : Prop where
  least : leastExponent ≤ p
  fits : q < 2 ^ 53 * 2 ^ p
  full : p = leastExponent ∨ 2 ^ 52 * 2 ^ p ≤ q

/-- What is written under a lesser exponent is below all full mantissas under a greater one. -/
theorem mantissa_lt_full {m : Nat} {e p : Int} (hm : m < 2 ^ 53) (h : e < p) :
    (m : ℚ) * 2 ^ e < 2 ^ 52 * 2 ^ p := by
  have hmantissa : (m : ℚ) < 2 ^ 53 := by exact_mod_cast hm
  have hstep : (2 : ℚ) ^ (e + 1) ≤ 2 ^ p := zpow_le_zpow_right₀ one_le_two h
  calc (m : ℚ) * 2 ^ e < 2 ^ 53 * 2 ^ e := mul_lt_mul_of_pos_right hmantissa (by positivity)
    _ = 2 ^ 52 * 2 ^ (e + 1) := by rw [zpow_add_one₀ two_ne_zero]; ring
    _ ≤ 2 ^ 52 * 2 ^ p := by linarith

/-- A point of the grid is a multiple of the last place, or below all magnitudes of that place. -/
theorem OnGrid.multiple {y q : ℚ} {p : Int} (hy : OnGrid y) (hp : IsPlace q p) :
    (∃ k : Nat, y = k * 2 ^ p) ∨ (y < 2 ^ 52 * 2 ^ p ∧ 2 ^ 52 * 2 ^ p ≤ q) := by
  obtain ⟨m, e, hm, he, rfl⟩ := hy
  rcases lt_or_ge e p with hlt | hge
  · exact .inr ⟨mantissa_lt_full hm hlt, hp.full.resolve_left fun h => absurd (h ▸ hlt) (not_lt.mpr he)⟩
  · refine .inl ⟨m * 2 ^ (e - p).toNat, ?_⟩
    have hsplit : (2 : ℚ) ^ e = 2 ^ (e - p).toNat * 2 ^ p := by
      rw [← zpow_natCast, Int.toNat_of_nonneg (by omega), ← zpow_add₀ two_ne_zero]
      congr 1
      omega
    push_cast
    rw [hsplit, mul_assoc]

/-- Different naturals are at least 1 apart, so a natural within a half is the nearest one, and another
one is as near only if both are a half away. -/
theorem natural_nearest {t : ℚ} {c k : Nat} (hc : |t - c| ≤ 1 / 2) (hne : k ≠ c) :
    |t - c| ≤ |t - k| ∧ (|t - k| = |t - c| → |t - c| = 1 / 2) := by
  have hapart : (1 : ℚ) ≤ |(c : ℚ) - k| := by
    have hint : (1 : Int) ≤ |(c : Int) - k| := Int.one_le_abs (by omega)
    exact_mod_cast hint
  have htriangle : |(c : ℚ) - k| ≤ |t - c| + |t - k| := by
    rw [abs_sub_comm t c]
    exact abs_sub_le (c : ℚ) t k
  exact ⟨by linarith, fun h => by linarith⟩

section
variable {q : ℚ} {p : Int} {c : Nat} (hp : IsPlace q p) (hc : |q / 2 ^ p - c| ≤ 1 / 2)
include hp hc

/-- A multiple of the last place within half of it is the nearest point of the grid; only if it is half a
place away there may be another one as near. -/
theorem nearest_of_place {y : ℚ} (hy : OnGrid y) : |q - c * 2 ^ p| ≤ |q - y| ∧
    (|q - y| = |q - c * 2 ^ p| → y = c * 2 ^ p ∨ |q / 2 ^ p - c| = 1 / 2) := by
  have hpos : (0 : ℚ) < 2 ^ p := by positivity
  have hscale : ∀ k : Nat, |q - k * 2 ^ p| = |q / 2 ^ p - k| * 2 ^ p := by
    intro k
    rw [← abs_of_pos hpos, ← abs_mul, sub_mul, abs_of_pos hpos, div_mul_cancel₀ _ hpos.ne']
  have hmultiple : ∀ k : Nat, k ≠ c → |q - c * 2 ^ p| ≤ |q - k * 2 ^ p| ∧
      (|q - k * 2 ^ p| = |q - c * 2 ^ p| → |q / 2 ^ p - c| = 1 / 2) := by
    intro k hk
    obtain ⟨hle, htie⟩ := natural_nearest hc hk
    rw [hscale, hscale]
    exact ⟨mul_le_mul_of_nonneg_right hle hpos.le, fun h => htie (mul_right_cancel₀ hpos.ne' h)⟩
  rcases hy.multiple hp with ⟨k, rfl⟩ | ⟨hlow, hfull⟩
  · by_cases hk : k = c
    · subst hk
      exact ⟨le_rfl, fun _ => .inl rfl⟩
    · exact ⟨(hmultiple k hk).1, fun h => .inr ((hmultiple k hk).2 h)⟩
  · -- the least magnitude of the place is a multiple of it and lies between
    have hbetween : |q - (2 ^ 52 : Nat) * 2 ^ p| < |q - y| := by
      push_cast
      rw [abs_of_nonneg (by linarith), abs_of_pos (by linarith)]
      linarith
    have hle : |q - c * 2 ^ p| ≤ |q - (2 ^ 52 : Nat) * 2 ^ p| := by
      by_cases hk : 2 ^ 52 = c
      · rw [hk]
      · exact (hmultiple _ hk).1
    exact ⟨by linarith, fun h => by linarith⟩

end

/-! ## Rounding a quotient -/

/-- A quotient of naturals in units of a power of two. -/
theorem scaled_quotient (num den : Nat) (p : Int) :
    ((num * Nat.pow 2 (-p).toNat : Nat) : ℚ) / (den * Nat.pow 2 p.toNat : Nat) =
      (num : ℚ) / den / 2 ^ p := by
  rw [← two_pow_div p, Nat.cast_mul, Nat.cast_mul, mul_div_mul_comm, div_div_eq_mul_div,
    mul_div_assoc]

/-- A mantissa in units of a power of two fits if the quotient is below this many units. -/
theorem scaled_lt_iff (num : Nat) {den : Nat} (hden : 0 < den) (p : Int) :
    num * Nat.pow 2 (-p).toNat / (den * Nat.pow 2 p.toNat) < Nat.pow 2 53 ↔
      (num : ℚ) / den < 2 ^ 53 * 2 ^ p := by
  have hscaled : 0 < den * Nat.pow 2 p.toNat := Nat.mul_pos hden (Nat.two_pow_pos _)
  rw [Nat.div_lt_iff_lt_mul hscaled, ← div_lt_iff₀ (by positivity), ← scaled_quotient,
    div_lt_iff₀ (by exact_mod_cast hscaled), Nat.pow_eq]
  exact_mod_cast Iff.rfl

/-- The binary logarithms enclose a quotient within a factor of four. -/
theorem quotient_lt_two_pow (num : Nat) {den : Nat} (hden : 0 < den) :
    (num : ℚ) / den < 2 ^ ((num.log2 : Int) - den.log2 + 1) := by
  have hpos : (0 : ℚ) < den := by exact_mod_cast hden
  have hnum : (num : ℚ) < 2 ^ (num.log2 + 1) := by exact_mod_cast Nat.lt_log2_self
  have hden : (2 : ℚ) ^ den.log2 ≤ den := by exact_mod_cast Nat.log2_self_le hden.ne'
  rw [div_lt_iff₀ hpos]
  calc (num : ℚ) < 2 ^ (num.log2 + 1) := hnum
    _ = 2 ^ ((num.log2 : Int) - den.log2 + 1) * 2 ^ den.log2 := by
      rw [← zpow_natCast, ← zpow_natCast, ← zpow_add₀ two_ne_zero]
      congr 1
      push_cast
      ring
    _ ≤ 2 ^ ((num.log2 : Int) - den.log2 + 1) * den :=
      mul_le_mul_of_nonneg_left hden (by positivity)

theorem two_pow_le_quotient {num den : Nat} (hnum : num ≠ 0) (hden : 0 < den) :
    (2 : ℚ) ^ ((num.log2 : Int) - den.log2 - 1) ≤ (num : ℚ) / den := by
  have hpos : (0 : ℚ) < den := by exact_mod_cast hden
  have hnum : (2 : ℚ) ^ num.log2 ≤ num := by exact_mod_cast Nat.log2_self_le hnum
  have hden : (den : ℚ) ≤ 2 ^ (den.log2 + 1) := by exact_mod_cast Nat.lt_log2_self.le
  rw [le_div_iff₀ hpos]
  calc (2 : ℚ) ^ ((num.log2 : Int) - den.log2 - 1) * den
      ≤ 2 ^ ((num.log2 : Int) - den.log2 - 1) * 2 ^ (den.log2 + 1) :=
        mul_le_mul_of_nonneg_left hden (by positivity)
    _ = 2 ^ num.log2 := by
      rw [← zpow_natCast, ← zpow_natCast, ← zpow_add₀ two_ne_zero]
      congr 1
      push_cast
      ring
    _ ≤ num := hnum

theorem isPlace_placeOf {num den : Nat} (hnum : num ≠ 0) (hden : 0 < den) :
    IsPlace ((num : ℚ) / den) (placeOf num den) := by
  unfold placeOf
  dsimp only
  generalize hguess : max ((num.log2 : Int) - den.log2 - 53) leastExponent = guess
  simp only [scaled_lt_iff num hden guess]
  split
  · rename_i hlt
    refine ⟨by omega, hlt, ?_⟩
    by_cases hleast : guess = leastExponent
    · exact .inl hleast
    · refine .inr ((le_of_eq ?_).trans (two_pow_le_quotient hnum hden))
      have hexponent : (num.log2 : Int) - den.log2 - 1 = 52 + guess := by omega
      rw [hexponent, zpow_add₀ two_ne_zero]
      norm_num
  · rename_i hge
    refine ⟨by omega, lt_of_lt_of_le (quotient_lt_two_pow num hden) ?_, .inr ?_⟩
    · have hexponent : (num.log2 : Int) - den.log2 + 1 ≤ 53 + (guess + 1) := by omega
      refine (zpow_le_zpow_right₀ one_le_two hexponent).trans (le_of_eq ?_)
      rw [zpow_add₀ two_ne_zero]
      norm_num
    · rw [zpow_add_one₀ two_ne_zero]
      linarith [not_lt.mp hge]

theorem roundsTo_zero {negative : Bool} {q : ℚ} (h : 0 ≤ q) (hsmall : q ≤ 2 ^ leastExponent / 2) :
    RoundsTo negative q (ofZero negative) := by
  have hpos : (0 : ℚ) < 2 ^ leastExponent := by positivity
  have hplace : IsPlace q leastExponent := ⟨le_rfl, by linarith, .inl rfl⟩
  have hhalf : |q / 2 ^ leastExponent - (0 : Nat)| ≤ 1 / 2 := by
    rw [Nat.cast_zero, sub_zero, abs_of_nonneg (by positivity), div_le_iff₀ hpos]
    linarith
  have hbounded : (2 : ℚ) ^ leastExponent < overflow := by
    have hle : (2 : ℚ) ^ leastExponent ≤ 2 ^ greatestExponent :=
      zpow_le_zpow_right₀ one_le_two (by decide)
    unfold overflow
    linarith
  refine .finite 0 leastExponent ⟨by norm_num, le_rfl, by decide, .inr rfl⟩ (by linarith) ?_ ?_
  · exact fun y hy => (nearest_of_place hplace hhalf hy).1
  · exact fun y _ _ => .inr rfl

/-- The greatest mantissa is odd, so a tie does not come down to it. -/
theorem lt_of_mantissa {q : ℚ} {p : Int} {c : Nat} (hlt : c < 2 ^ 53) (hc : |q / 2 ^ p - c| ≤ 1 / 2)
    (htie : |q / 2 ^ p - c| = 1 / 2 → c % 2 = 0) : q < (2 ^ 53 - 1 / 2) * 2 ^ p := by
  refine (div_lt_iff₀ (by positivity)).mp ?_
  have hhigh := (abs_le.mp hc).2
  have hcast : (c : ℚ) ≤ 2 ^ 53 - 1 := by
    have : ((c + 1 : Nat) : ℚ) ≤ (2 ^ 53 : Nat) := by exact_mod_cast hlt
    push_cast at this
    linarith
  refine lt_of_le_of_ne (by linarith) fun h => ?_
  have hgreatest : (c : ℚ) = 2 ^ 53 - 1 := by linarith
  have htied := htie (by rw [h, hgreatest]; norm_num)
  have : ((c + 1 : Nat) : ℚ) = (2 ^ 53 : Nat) := by push_cast; linarith
  have : c + 1 = 2 ^ 53 := by exact_mod_cast this
  omega

section
variable {negative : Bool} {q : ℚ} {p : Int} {c : Nat} (hp : IsPlace q p) (hc : |q / 2 ^ p - c| ≤ 1 / 2)
  (htie : |q / 2 ^ p - c| = 1 / 2 → c % 2 = 0)
include hp hc htie

/-- However the nearest multiple of the last place is written, a magnitude is rounded to it. -/
theorem roundsTo_multiple {m : Nat} {e : Int} (hvalue : (m : ℚ) * 2 ^ e = c * 2 ^ p)
    (hnormal : IsNormal m e) (hbounded : q < overflow) (heven : c % 2 = 0 → m % 2 = 0) :
    RoundsTo negative q (.finite negative m e) := by
  refine .finite m e hnormal hbounded ?_ ?_ <;> rw [hvalue]
  · exact fun y hy => (nearest_of_place hp hc hy).1
  · exact fun y hy h => ((nearest_of_place hp hc hy).2 h).imp_right fun h => heven (htie h)

/-- A multiple with one binary digit too many is written under the next exponent. -/
theorem roundsTo_carried (hcarried : c = Nat.pow 2 53) : RoundsTo negative q
    (if greatestExponent < p + 1 then .infinite negative else .finite negative (Nat.pow 2 52) (p + 1)) := by
  split
  · rename_i hbeyond
    have hlow := (abs_le.mp hc).1
    rw [hcarried] at hlow
    push_cast [Nat.pow_eq] at hlow
    have hnearly : (2 ^ 53 - 1 / 2) * 2 ^ p ≤ q := (le_div_iff₀ (by positivity)).mp (by linarith)
    refine .infinite (LE.le.trans ?_ hnearly)
    exact mul_le_mul_of_nonneg_left (zpow_le_zpow_right₀ one_le_two (by omega)) (by norm_num)
  · rename_i hwithin
    have hvalue : ((Nat.pow 2 52 : Nat) : ℚ) * 2 ^ (p + 1) = c * 2 ^ p := by
      rw [hcarried, zpow_add_one₀ two_ne_zero]
      push_cast [Nat.pow_eq]
      ring
    have hbounded : q < overflow := by
      have hstep : (2 : ℚ) ^ (p + 1) ≤ 2 ^ greatestExponent :=
        zpow_le_zpow_right₀ one_le_two (not_lt.mp hwithin)
      rw [zpow_add_one₀ two_ne_zero] at hstep
      unfold overflow
      linarith [hp.fits, show (0 : ℚ) < 2 ^ p by positivity]
    exact roundsTo_multiple hp hc htie hvalue
      ⟨by norm_num, hp.least.trans (by omega), not_lt.mp hwithin, .inl le_rfl⟩ hbounded fun _ => by norm_num

/-- A multiple that is not too long is written as it is. -/
theorem roundsTo_kept (hlt : c < 2 ^ 53) : RoundsTo negative q
    (if greatestExponent < p then .infinite negative else .finite negative c p) := by
  split
  · rename_i hbeyond
    have hfull := hp.full.resolve_left fun h => absurd (h ▸ hbeyond) (by decide)
    refine .infinite (LE.le.trans ?_ hfull)
    have hstep : (2 : ℚ) ^ (greatestExponent + 1) ≤ 2 ^ p := zpow_le_zpow_right₀ one_le_two hbeyond
    rw [zpow_add_one₀ two_ne_zero] at hstep
    unfold overflow
    linarith [show (0 : ℚ) < 2 ^ greatestExponent by positivity]
  · rename_i hwithin
    -- what is not below the least magnitude of its place has a full mantissa
    have hfull : 2 ^ 52 ≤ c ∨ p = leastExponent := by
      refine hp.full.symm.imp_left fun hfull => ?_
      have hat : (2 ^ 52 : ℚ) ≤ q / 2 ^ p := (le_div_iff₀ (by positivity)).mpr hfull
      have hhigh := (abs_le.mp hc).2
      have : ((2 ^ 52 : Nat) : ℚ) < (c + 1 : Nat) := by push_cast; linarith
      exact Nat.lt_succ_iff.mp (by exact_mod_cast this)
    have hbounded : q < overflow := by
      calc q < (2 ^ 53 - 1 / 2) * 2 ^ p := lt_of_mantissa hlt hc htie
        _ ≤ overflow :=
          mul_le_mul_of_nonneg_left (zpow_le_zpow_right₀ one_le_two (not_lt.mp hwithin)) (by norm_num)
    exact roundsTo_multiple hp hc htie rfl ⟨hlt, hp.least, not_lt.mp hwithin, hfull⟩ hbounded id

end

/-- **Quotients are rounded to the nearest number**, ties going to the even mantissa. -/
theorem roundsTo_round (negative : Bool) (num : Nat) {den : Nat} (hden : 0 < den) :
    RoundsTo negative ((num : ℚ) / den) (round negative num den) := by
  unfold round
  split
  · rename_i hzero
    subst hzero
    rw [Nat.cast_zero, zero_div]
    exact roundsTo_zero le_rfl (by positivity)
  rename_i hnum
  have hplace := isPlace_placeOf hnum hden
  have hscaled : 0 < den * Nat.pow 2 (placeOf num den).toNat :=
    Nat.mul_pos hden (Nat.two_pow_pos _)
  obtain ⟨hnear, htie⟩ := divNearest_spec (num * Nat.pow 2 (-placeOf num den).toNat) hscaled
  rw [scaled_quotient] at hnear htie
  dsimp only
  generalize divNearest _ _ = c at hnear htie ⊢
  generalize placeOf num den = p at hplace hnear htie ⊢
  by_cases hcarried : c = Nat.pow 2 53
  · rw [if_pos hcarried, if_pos hcarried]
    exact roundsTo_carried hplace hnear htie hcarried
  · rw [if_neg hcarried, if_neg hcarried]
    have hfits : (num : ℚ) / den / 2 ^ p < 2 ^ 53 := (div_lt_iff₀ (by positivity)).mpr hplace.fits
    have hle : c ≤ 2 ^ 53 := by
      have hlow := (abs_le.mp hnear).1
      have : (c : ℚ) < (2 ^ 53 + 1 : Nat) := by push_cast; linarith
      exact Nat.lt_succ_iff.mp (by exact_mod_cast this)
    exact roundsTo_kept hplace hnear htie (lt_of_le_of_ne hle hcarried)

/-! ## One result only -/

/-- A full mantissa under a greater exponent is beyond all mantissas under a lesser one. -/
theorem IsNormal.lt_of_lt {m n : Nat} {e f : Int} (hm : IsNormal m e) (hn : IsNormal n f) (h : e < f) :
    (m : ℚ) * 2 ^ e < n * 2 ^ f := by
  have hfull : (2 ^ 52 : ℚ) ≤ n := by
    have : 2 ^ 52 ≤ n := hn.2.2.2.resolve_right fun h => by have := hm.2.1; omega
    exact_mod_cast this
  calc (m : ℚ) * 2 ^ e < 2 ^ 52 * 2 ^ f := mantissa_lt_full hm.1 h
    _ ≤ n * 2 ^ f := mul_le_mul_of_nonneg_right hfull (by positivity)

theorem IsNormal.injective {m n : Nat} {e f : Int} (hm : IsNormal m e) (hn : IsNormal n f)
    (h : (m : ℚ) * 2 ^ e = n * 2 ^ f) : m = n ∧ e = f := by
  rcases lt_trichotomy e f with hlt | rfl | hlt
  · exact absurd h (hm.lt_of_lt hn hlt).ne
  · have hpos : (2 : ℚ) ^ e ≠ 0 := by positivity
    exact ⟨by exact_mod_cast mul_right_cancel₀ hpos h, rfl⟩
  · exact absurd h (hn.lt_of_lt hm hlt).ne'

/-- The next multiple of the last place is on the grid. -/
theorem IsNormal.onGrid_succ {m : Nat} {e : Int} (h : IsNormal m e) :
    OnGrid ((m + 1 : Nat) * 2 ^ e) := by
  obtain ⟨hm, he, -⟩ := h
  by_cases hlt : m + 1 < 2 ^ 53
  · exact ⟨m + 1, e, hlt, he, rfl⟩
  · have hcarried : m + 1 = 2 ^ 53 := by omega
    refine ⟨2 ^ 52, e + 1, by norm_num, by omega, ?_⟩
    rw [hcarried, zpow_add_one₀ two_ne_zero]
    push_cast
    ring

/-- Two numbers with even mantissas have a point of the grid between them. -/
theorem exists_between {m n : Nat} {e f : Int} (hm : IsNormal m e) (hn : IsNormal n f)
    (hmeven : m % 2 = 0) (hneven : n % 2 = 0) (hlt : (m : ℚ) * 2 ^ e < n * 2 ^ f) :
    ∃ y, OnGrid y ∧ m * 2 ^ e < y ∧ y < n * 2 ^ f := by
  have hpos : (0 : ℚ) < 2 ^ e := by positivity
  refine ⟨_, hm.onGrid_succ, mul_lt_mul_of_pos_right (by push_cast; linarith) hpos, ?_⟩
  have hplace : IsPlace (m * 2 ^ e : ℚ) e := by
    refine ⟨hm.2.1, mul_lt_mul_of_pos_right (by exact_mod_cast hm.1) hpos, ?_⟩
    refine hm.2.2.2.symm.imp_right fun hfull => mul_le_mul_of_nonneg_right ?_ hpos.le
    exact_mod_cast hfull
  rcases hn.onGrid.multiple hplace with ⟨k, hk⟩ | ⟨hlow, hfull⟩
  · rw [hk] at hlt ⊢
    have hlt : m < k := by exact_mod_cast lt_of_mul_lt_mul_right hlt hpos.le
    refine mul_lt_mul_of_pos_right ?_ hpos
    suffices m + 1 < k by exact_mod_cast this
    refine lt_of_le_of_ne hlt fun hnext => ?_
    -- the next multiple has an odd mantissa under the same exponent, so it is not the other number
    subst hnext
    rcases lt_trichotomy e f with hef | rfl | hef
    · have hsplit : (2 : ℚ) ^ f = (2 * 2 ^ (f - e - 1).toNat : Nat) * 2 ^ e := by
        push_cast
        rw [← pow_succ', ← zpow_natCast, ← zpow_add₀ two_ne_zero]
        congr 1
        omega
      rw [hsplit, ← mul_assoc] at hk
      have hk : n * (2 * 2 ^ (f - e - 1).toNat) = m + 1 := by
        exact_mod_cast mul_right_cancel₀ hpos.ne' hk
      rw [← Nat.mul_assoc, Nat.mul_comm n 2, Nat.mul_assoc] at hk
      omega
    · have hk : n = m + 1 := by exact_mod_cast mul_right_cancel₀ hpos.ne' hk
      omega
    · have hbelow := hn.lt_of_lt hm hef
      rw [hk] at hbelow
      exact absurd (lt_of_mul_lt_mul_right hbelow hpos.le) (by push_cast; linarith)
  · linarith

/-- A magnitude is rounded to one number only. -/
theorem RoundsTo.unique {negative : Bool} {q : ℚ} {x y : Binary64} (hx : RoundsTo negative q x)
    (hy : RoundsTo negative q y) : x = y := by
  cases hx with
  | infinite h =>
    cases hy with
    | infinite => rfl
    | finite n f _ hbounded => linarith
  | finite m e hm hbounded hnearest heven =>
    cases hy with
    | infinite h => linarith
    | finite n f hn _ hnearest' heven' =>
      have hsame : |q - n * 2 ^ f| = |q - m * 2 ^ e| :=
        le_antisymm (hnearest' _ hm.onGrid) (hnearest _ hn.onGrid)
      by_cases hvalue : (m : ℚ) * 2 ^ e = n * 2 ^ f
      · obtain ⟨rfl, rfl⟩ := hm.injective hn hvalue
        rfl
      · have hmeven := (heven _ hn.onGrid hsame).resolve_left (Ne.symm hvalue)
        have hneven := (heven' _ hm.onGrid hsame.symm).resolve_left hvalue
        -- half-way between two numbers, a point between them would be nearer
        have hmiddle : q - n * 2 ^ f = -(q - m * 2 ^ e) :=
          (abs_eq_abs.mp hsame).resolve_left fun h => hvalue (by linarith)
        have hnearer : ∀ y, OnGrid y → ¬|q - y| < |q - m * 2 ^ e| := fun y hy =>
          not_lt.mpr (hnearest y hy)
        rcases lt_or_gt_of_ne hvalue with hlt | hlt
        · obtain ⟨y, hy, hay, hyb⟩ := exists_between hm hn hmeven hneven hlt
          refine absurd (abs_lt.mpr ?_) (hnearer y hy)
          rw [abs_of_pos (by linarith)]
          constructor <;> linarith
        · obtain ⟨y, hy, hay, hyb⟩ := exists_between hn hm hneven hmeven hlt
          refine absurd (abs_lt.mpr ?_) (hnearer y hy)
          rw [abs_of_neg (by linarith)]
          constructor <;> linarith

/-! ## Results -/

section
variable {negative : Bool} {q : ℚ} {x : Binary64}

/-- A result is infinite exactly from the overflow on. -/
theorem RoundsTo.isFinite_iff (h : RoundsTo negative q x) : x.isFinite = true ↔ q < overflow := by
  cases h with
  | infinite h => simpa [isFinite] using h
  | finite _ _ _ hbounded => simpa [isFinite] using hbounded

theorem RoundsTo.eq_infinite (h : RoundsTo negative q x) (hq : overflow ≤ q) :
    x = .infinite negative := by
  cases h with
  | infinite => rfl
  | finite _ _ _ hbounded => linarith

/-- A magnitude on the grid is its own result, with the sign. -/
theorem RoundsTo.value_eq (h : RoundsTo negative q x) (hgrid : OnGrid q) (hq : q < overflow) :
    x.value = if negative then -q else q := by
  cases h with
  | infinite h => linarith
  | finite m e _ _ hnearest =>
    have hself : |q - m * 2 ^ e| ≤ 0 := by simpa using hnearest q hgrid
    have hvalue : (m : ℚ) * 2 ^ e = q := (sub_eq_zero.mp (abs_eq_zero.mp
      (le_antisymm hself (abs_nonneg _)))).symm
    cases negative <;> simp [value_finite, signed, hvalue]

/-- A result that is finite is at most the greatest number. -/
theorem RoundsTo.abs_value_le (h : RoundsTo negative q x) :
    |x.value| ≤ (2 ^ 53 - 1) * 2 ^ greatestExponent := by
  cases h with
  | infinite =>
    have hzero : (Binary64.infinite negative).value = 0 := rfl
    rw [hzero, abs_zero]
    exact mul_nonneg (by norm_num) (by positivity)
  | finite m e hnormal =>
    have hmagnitude : |(Binary64.finite negative m e).value| = m * 2 ^ e := by
      have hnonneg : (0 : ℚ) ≤ m * 2 ^ e := by positivity
      cases negative <;> simp [value_finite, signed, abs_of_nonneg]
    have hmantissa : (m : ℚ) ≤ 2 ^ 53 - 1 := by
      have : ((m + 1 : Nat) : ℚ) ≤ (2 ^ 53 : Nat) := by exact_mod_cast hnormal.1
      push_cast at this
      linarith
    rw [hmagnitude]
    exact mul_le_mul hmantissa (zpow_le_zpow_right₀ one_le_two hnormal.2.2.1) (by positivity)
      (by norm_num)

end

/-! ## Decimals and sums -/

/-- A decimal with so great an exponent is beyond all numbers. -/
theorem overflow_le_decimal {digits : Nat} (hdigits : digits ≠ 0) {exponent : Int} (h : 310 < exponent) :
    overflow ≤ digits * 10 ^ exponent := by
  have hone : (1 : ℚ) ≤ digits := by exact_mod_cast Nat.pos_of_ne_zero hdigits
  have hpower : (2 : ℚ) ^ 1024 ≤ 10 ^ 311 := by
    have : 2 ^ 1024 ≤ 10 ^ 311 := by decide +kernel
    exact_mod_cast this
  calc overflow ≤ 2 ^ 53 * 2 ^ greatestExponent :=
        mul_le_mul_of_nonneg_right (by norm_num) (by positivity)
    _ = 2 ^ 1024 := by
      rw [← zpow_natCast (2 : ℚ) 53, ← zpow_natCast (2 : ℚ) 1024, ← zpow_add₀ two_ne_zero]
      rfl
    _ ≤ 10 ^ 311 := hpower
    _ = 10 ^ (311 : Int) := (zpow_natCast _ _).symm
    _ ≤ 10 ^ exponent := zpow_le_zpow_right₀ (by norm_num) (by omega)
    _ ≤ digits * 10 ^ exponent := le_mul_of_one_le_left (by positivity) hone

/-- One with so small an exponent is nearest to zero. -/
theorem decimal_le_half {digits : Nat} {exponent : Int} (h : exponent < -(digits.log2 + 326 : Int)) :
    (digits : ℚ) * 10 ^ exponent ≤ 2 ^ leastExponent / 2 := by
  have hpower : 2 * (2 : ℚ) ^ 1075 ≤ 10 ^ 327 := by
    have : 2 * 2 ^ 1075 ≤ 10 ^ 327 := by decide +kernel
    exact_mod_cast this
  have hdigits : (digits : ℚ) ≤ 2 * 10 ^ digits.log2 := by
    have hlog : (digits : ℚ) < 2 ^ (digits.log2 + 1) := by exact_mod_cast Nat.lt_log2_self
    have hbase : (2 : ℚ) ^ digits.log2 ≤ 10 ^ digits.log2 :=
      pow_le_pow_left₀ (by norm_num) (by norm_num) _
    rw [pow_succ] at hlog
    linarith
  calc (digits : ℚ) * 10 ^ exponent
      ≤ 2 * 10 ^ digits.log2 * 10 ^ (-(digits.log2 + 327 : Int)) :=
        mul_le_mul hdigits (zpow_le_zpow_right₀ (by norm_num) (by omega)) (by positivity)
          (by positivity)
    _ = 2 * (10 ^ 327)⁻¹ := by
      rw [mul_assoc, ← zpow_natCast, ← zpow_add₀ (by norm_num), ← zpow_natCast, ← zpow_neg]
      congr 2
      push_cast
      ring
    _ ≤ (2 ^ 1075)⁻¹ := by
      rw [← div_eq_mul_inv, div_le_iff₀ (by positivity), ← div_eq_inv_mul,
        le_div_iff₀ (by positivity)]
      exact hpower
    _ = 2 ^ leastExponent / 2 := by
      rw [← zpow_natCast, ← zpow_neg, div_eq_mul_inv, ← zpow_sub_one₀ two_ne_zero]
      rfl

/-- Decimals are rounded to the nearest number, also those that are settled without computing a power. -/
theorem roundsTo_ofDecimal (negative : Bool) (digits : Nat) (exponent : Int) :
    RoundsTo negative (digits * 10 ^ exponent) (ofDecimal negative digits exponent) := by
  unfold ofDecimal
  split
  · rename_i hzero
    subst hzero
    rw [Nat.cast_zero, zero_mul]
    exact roundsTo_zero le_rfl (by positivity)
  rename_i hdigits
  split
  · exact .infinite (overflow_le_decimal hdigits (by omega))
  split
  · exact roundsTo_zero (by positivity) (decimal_le_half (by omega))
  · have hden : 0 < Nat.pow 10 (-exponent).toNat := Nat.pow_pos (by norm_num)
    have hquotient : ((digits * Nat.pow 10 exponent.toNat : Nat) : ℚ) / (Nat.pow 10 (-exponent).toNat : Nat) =
        digits * 10 ^ exponent := by
      rw [Nat.cast_mul, mul_div_assoc, pow_div_pow]
      rfl
    exact hquotient ▸ roundsTo_round negative _ hden

/-- Sums are rounded to the nearest number. -/
theorem roundsTo_add {x y : Binary64} (hx : x.isFinite = true) (hy : y.isFinite = true) :
    ∃ negative, RoundsTo negative |x.value + y.value| (x + y) ∧
      (x.value + y.value ≠ 0 → negative = decide (x.value + y.value < 0)) := by
  cases x with
  | undefined | infinite => cases hx
  | finite s m e =>
    cases y with
    | undefined | infinite => cases hy
    | finite t n f =>
      change ∃ negative, RoundsTo negative _ (add _ _) ∧ _
      simp only [add]
      rw [← inUnits_mul (min_le_left e f), ← inUnits_mul (min_le_right e f), ← add_mul, ← Int.cast_add]
      generalize inUnits (min e f) s m e + inUnits (min e f) t n f = sum
      generalize min e f = unit
      have hpos : (0 : ℚ) < 2 ^ unit := by positivity
      split
      · rename_i hzero
        subst hzero
        exact ⟨s && t, by simpa using roundsTo_zero le_rfl (by positivity), by simp⟩
      · have hden : 0 < Nat.pow 2 (-unit).toNat := Nat.two_pow_pos _
        have hquotient : ((sum.natAbs * Nat.pow 2 unit.toNat : Nat) : ℚ) / (Nat.pow 2 (-unit).toNat : Nat) =
            |(sum : ℚ) * 2 ^ unit| := by
          rw [Nat.cast_mul, mul_div_assoc, two_pow_div, abs_mul, abs_of_pos hpos, Nat.cast_natAbs,
            Int.cast_abs]
        have hsign : (sum : ℚ) * 2 ^ unit < 0 ↔ sum < 0 := by
          rw [mul_neg_iff]
          simp [hpos, not_lt.mpr hpos.le]
        refine ⟨decide (sum < 0), hquotient ▸ roundsTo_round _ _ hden, fun _ => ?_⟩
        exact (decide_eq_decide.mpr hsign).symm

/-- A sum on the grid is exact. -/
theorem value_add {x y : Binary64} (hx : x.isFinite = true) (hy : y.isFinite = true)
    (hgrid : OnGrid |x.value + y.value|) (hbounded : |x.value + y.value| < overflow) :
    (x + y).isFinite = true ∧ (x + y).value = x.value + y.value := by
  obtain ⟨negative, hround, hsign⟩ := roundsTo_add hx hy
  refine ⟨hround.isFinite_iff.mpr hbounded, ?_⟩
  rw [hround.value_eq hgrid hbounded]
  rcases lt_trichotomy (x.value + y.value) 0 with h | h | h
  · simp [hsign h.ne, h, abs_of_neg]
  · simp [h]
  · simp [hsign h.ne', not_lt.mpr h.le, abs_of_pos h]

/-! ## Integers -/

theorem onGrid_natCast {n : Nat} (hn : n < 2 ^ 53) : OnGrid n :=
  ⟨n, 0, hn, by decide, by simp⟩

theorem natCast_lt_overflow {n : Nat} (hn : n < 2 ^ 53) : (n : ℚ) < overflow := by
  have hone : (1 : ℚ) ≤ 2 ^ greatestExponent := one_le_zpow₀ one_le_two (by decide)
  have hn : ((n + 1 : Nat) : ℚ) ≤ (2 ^ 53 : Nat) := by exact_mod_cast hn
  push_cast at hn
  calc (n : ℚ) < (2 ^ 53 - 1 / 2) * 1 := by linarith
    _ ≤ overflow := mul_le_mul_of_nonneg_left hone (by norm_num)

/-- The number is this integer. -/
structure IsInteger (x : Binary64) (n : Int) : Prop where
  isFinite : x.isFinite = true
  value : x.value = n

theorem isInteger_ofInt {n : Int} (hn : n.natAbs < 2 ^ 53) : IsInteger (ofInt n) n := by
  have hround : RoundsTo (decide (n < 0)) n.natAbs (ofInt n) := by
    have hself : (n.natAbs : ℚ) / (1 : Nat) = n.natAbs := by rw [Nat.cast_one, div_one]
    exact hself ▸ roundsTo_round (decide (n < 0)) n.natAbs one_pos
  have hbounded := natCast_lt_overflow hn
  refine ⟨hround.isFinite_iff.mpr hbounded, ?_⟩
  rw [hround.value_eq (onGrid_natCast hn) hbounded, Nat.cast_natAbs, Int.cast_abs]
  rcases lt_or_ge n 0 with h | h
  · simp [h, abs_of_neg (Int.cast_lt_zero.mpr h : (n : ℚ) < 0)]
  · simp [not_lt.mpr h, abs_of_nonneg (Int.cast_nonneg h : (0 : ℚ) ≤ n)]

/-- The difference of two integers is exact if it has at most 53 binary digits. -/
theorem IsInteger.sub {x y : Binary64} {m n : Int} (hx : IsInteger x m) (hy : IsInteger y n)
    (h : (m - n).natAbs < 2 ^ 53) : IsInteger (x - y) (m - n) := by
  have hsum : x.value + (-y).value = ((m - n : Int) : ℚ) := by
    rw [value_neg, hx.value, hy.value]
    push_cast
    ring
  have habs : |x.value + (-y).value| = ((m - n).natAbs : ℚ) := by
    rw [hsum, Nat.cast_natAbs, Int.cast_abs]
  obtain ⟨hfinite, hvalue⟩ := value_add hx.isFinite (isFinite_neg hy.isFinite)
    (habs ▸ onGrid_natCast h) (habs ▸ natCast_lt_overflow h)
  exact ⟨hfinite, hvalue.trans hsum⟩

end Binary64

end Storyboard.Number
