import Mathlib.Algebra.Order.Floor.Ring
import Mathlib.Algebra.Order.Field.Power
import Mathlib.Data.Rat.Floor
import Mathlib.Tactic.Linarith
import Mathlib.Tactic.Positivity
import Storyboard.Proofs.Number.Finite
import Storyboard.Proofs.Number.Order
/-!
# The values of finite numbers

A finite number has a rational value. Comparing, clamping and cutting finite numbers is comparing,
clamping and cutting their values, however they are written as mantissa and exponent.

* `lt_iff_value`: the order of the finite numbers is that of their values.
* `value_clamp_eq`: what holding a number between two bounds comes to.
* `truncate_eq`: the integer part is the value cut toward zero, `truncated_mono` its monotonicity.
-/
namespace Storyboard.Number.Binary64

/-- The value of a finite number. The others have none; they are given 0. -/
def value : Binary64 → ℚ
  | .finite negative m e => signed negative m * 2 ^ e
  | _ => 0

theorem value_finite (negative : Bool) (m : Nat) (e : Int) :
    (finite negative m e).value = signed negative m * 2 ^ e := rfl

/-- A power as the quotient of the two naturals that it is computed with. -/
theorem pow_div_pow (base : Nat) (e : Int) :
    ((Nat.pow base e.toNat : Nat) : ℚ) / (Nat.pow base (-e).toNat : Nat) = (base : ℚ) ^ e := by
  simp only [Nat.pow_eq, Nat.cast_pow]
  rcases Int.le_total 0 e with he | he
  · obtain ⟨n, rfl⟩ := Int.eq_ofNat_of_zero_le he
    simp
  · obtain ⟨n, hn⟩ := Int.eq_ofNat_of_zero_le (Int.neg_nonneg.mpr he)
    have hzero : e.toNat = 0 := by omega
    rw [hzero, hn, ← neg_neg e, hn]
    simp

theorem two_pow_div (e : Int) :
    ((Nat.pow 2 e.toNat : Nat) : ℚ) / (Nat.pow 2 (-e).toNat : Nat) = 2 ^ e := pow_div_pow 2 e

theorem cast_signed_mul (negative : Bool) (m k : Nat) :
    ((signed negative (m * k) : Int) : ℚ) = signed negative m * k := by
  cases negative <;> simp [signed]

/-- A finite number is as many units as it says. -/
theorem inUnits_mul {unit e : Int} (h : unit ≤ e) (negative : Bool) (m : Nat) :
    (inUnits unit negative m e : ℚ) * 2 ^ unit = (finite negative m e).value := by
  have hsplit : (2 : ℚ) ^ e = 2 ^ (e - unit).toNat * 2 ^ unit := by
    rw [← zpow_natCast, Int.toNat_of_nonneg (by omega), ← zpow_add₀ two_ne_zero]
    congr 1
    omega
  rw [inUnits, cast_signed_mul, value_finite, hsplit, Nat.pow_eq, Nat.cast_pow, Nat.cast_ofNat,
    mul_assoc]

theorem value_neg (x : Binary64) : (-x).value = -x.value := by
  change (neg x).value = -x.value
  cases x with
  | undefined | infinite => simp [neg, value]
  | finite negative m e => cases negative <;> simp [neg, value, signed]

theorem isFinite_neg {x : Binary64} (hx : x.isFinite = true) : (-x).isFinite = true := by
  change (neg x).isFinite = true
  cases x with
  | undefined | infinite => cases hx
  | finite => rfl

/-! ## Order -/

/-- Finite numbers compare as their values do. -/
theorem lt_iff_value {x y : Binary64} (hx : x.isFinite = true) (hy : y.isFinite = true) :
    lt x y = true ↔ x.value < y.value := by
  cases x with
  | undefined | infinite => cases hx
  | finite s m e =>
    cases y with
    | undefined | infinite => cases hy
    | finite t n f =>
      have hpos : (0 : ℚ) < 2 ^ min e f := by positivity
      rw [lt, decide_eq_true_eq, ← inUnits_mul (min_le_left e f), ← inUnits_mul (min_le_right e f),
        mul_lt_mul_iff_left₀ hpos, Int.cast_lt]

theorem value_smaller {x y : Binary64} (hx : x.isFinite = true) (hy : y.isFinite = true) :
    (smaller x y).value = min x.value y.value := by
  unfold smaller
  split
  · rename_i h
    exact (min_eq_right ((lt_iff_value hy hx).mp h).le).symm
  · rename_i h
    exact (min_eq_left (not_lt.mp (mt (lt_iff_value hy hx).mpr h))).symm

theorem value_larger {x y : Binary64} (hx : x.isFinite = true) (hy : y.isFinite = true) :
    (larger x y).value = max x.value y.value := by
  unfold larger
  split
  · rename_i h
    exact (max_eq_right ((lt_iff_value hx hy).mp h).le).symm
  · rename_i h
    exact (max_eq_left (not_lt.mp (mt (lt_iff_value hx hy).mpr h))).symm

theorem isFinite_smaller {x y : Binary64} (hx : x.isFinite = true) (hy : y.isFinite = true) :
    (smaller x y).isFinite = true := by
  unfold smaller
  split
  · exact hy
  · exact hx

/-- A finite number between two finite bounds is its value between theirs. -/
theorem value_clamp {low high x : Binary64} (hlow : low.isFinite = true) (hhigh : high.isFinite = true)
    (hx : x.isFinite = true) :
    (larger low (smaller high x)).value = max low.value (min high.value x.value) := by
  rw [value_larger hlow (isFinite_smaller hhigh hx), value_smaller hhigh hx]

/-- What holding a number between two finite bounds comes to. An undefined number displaces no bound. -/
theorem value_clamp_eq {low high : Binary64} (hlow : low.isFinite = true) (hhigh : high.isFinite = true)
    (x : Binary64) : (larger low (smaller high x)).value =
      match x with
      | .infinite true => low.value
      | .finite s m e => max low.value (min high.value (Binary64.finite s m e).value)
      | _ => max low.value high.value := by
  cases low with
  | undefined | infinite => cases hlow
  | finite s m e =>
    cases high with
    | undefined | infinite => cases hhigh
    | finite t n f =>
      cases x with
      | undefined => exact value_larger hlow hhigh
      | infinite negative =>
        cases negative with
        | false => exact value_larger hlow hhigh
        | true => rfl
      | finite u k g => exact value_clamp hlow hhigh rfl

/-- Held between two finite bounds in their order, a number is between them. -/
theorem value_clamp_mem {low high : Binary64} (hlow : low.isFinite = true) (hhigh : high.isFinite = true)
    (hle : low.value ≤ high.value) (x : Binary64) :
    low.value ≤ (larger low (smaller high x)).value ∧
      (larger low (smaller high x)).value ≤ high.value := by
  rw [value_clamp_eq hlow hhigh]
  split
  · exact ⟨le_rfl, hle⟩
  · exact ⟨le_max_left _ _, max_le hle (min_le_left _ _)⟩
  · exact ⟨le_max_left _ _, max_le hle le_rfl⟩

theorem value_le_of_le {x y : Binary64} (hx : x.isFinite = true) (hy : y.isFinite = true)
    (h : le x y = true) : x.value ≤ y.value := by
  refine not_lt.mp (mt (lt_iff_value hy hx).mpr ?_)
  have hdefined : ∀ {z : Binary64}, z.isFinite = true → z.isDefined = true := by
    intro z hz
    cases z with
    | undefined | infinite => cases hz
    | finite => rfl
  rw [(le_iff (hdefined hx) (hdefined hy)).mp h]
  exact Bool.false_ne_true

/-! ## Integer parts -/

/-- A rational number cut toward zero. -/
def truncated (q : ℚ) : Int := if 0 ≤ q then ⌊q⌋ else ⌈q⌉

theorem truncated_neg (q : ℚ) : truncated (-q) = -truncated q := by
  unfold truncated
  rcases lt_trichotomy q 0 with h | rfl | h
  · rw [if_pos (by linarith), if_neg (by linarith), Int.floor_neg]
  · simp
  · rw [if_neg (by linarith), if_pos h.le, Int.ceil_neg]

theorem truncated_intCast (n : Int) : truncated n = n := by
  unfold truncated
  split <;> simp

theorem truncated_mono {p q : ℚ} (h : p ≤ q) : truncated p ≤ truncated q := by
  unfold truncated
  split <;> split
  · exact Int.floor_le_floor h
  · linarith
  · exact (Int.ceil_le.mpr (by simpa using (lt_of_not_ge ‹_›).le)).trans (Int.floor_nonneg.mpr ‹_›)
  · exact Int.ceil_le_ceil h

/-- The integer part of a finite number is its value cut toward zero. -/
theorem truncate_eq {x : Binary64} (hx : x.isFinite = true) :
    x.truncate = .ok (truncated x.value) := by
  cases x with
  | undefined | infinite => cases hx
  | finite negative m e =>
    have hfloor : truncated (m * 2 ^ e) =
        (m * Nat.pow 2 e.toNat / Nat.pow 2 (-e).toNat : Nat) := by
      have hnonneg : (0 : ℚ) ≤ m * 2 ^ e := by positivity
      have hquotient : (m : ℚ) * 2 ^ e =
          ((m * Nat.pow 2 e.toNat : Nat) : ℚ) / (Nat.pow 2 (-e).toNat : Nat) := by
        rw [Nat.cast_mul, mul_div_assoc, two_pow_div]
      rw [truncated, if_pos hnonneg, hquotient, Rat.floor_natCast_div_natCast]
      norm_cast
    cases negative with
    | false => simp [truncate, value_finite, signed, hfloor]
    | true => simp [truncate, value_finite, signed, truncated_neg, hfloor]

end Storyboard.Number.Binary64
