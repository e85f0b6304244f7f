import Storyboard.Number.Numeral
/-!
# The order of numbers

Only an undefined number cannot be compared. Between the others `le` is an order up to equal value: any
two of them compare, and what is at most something that is at most a third is at most the third. The two
infinities stand at the ends, and finite numbers with different exponents are compared in a common unit.

No undefined number comes from rounding, from reading a numeral, or from adding a finite number.

* `lt_eq_inUnits`: finite numbers compare as their multiples of any fine enough unit do.
* `le_total`, `le_trans`: the order of the defined numbers.
* `isDefined_read`, `isDefined_add`: where defined numbers come from.
-/
namespace Storyboard.Number

namespace Binary64

/-- Is the number finite or infinite? -/
def isDefined : Binary64 → Bool
  | .undefined => false
  | _ => true

theorem isDefined_iff {x : Binary64} : x.isDefined = true ↔ x ≠ .undefined := by
  cases x <;> simp [isDefined]

/-! ## Finite numbers in a common unit -/

/-- A finer unit multiplies the number of units by a power of two. -/
theorem inUnits_eq_mul {unit fine : Int} (hfine : fine ≤ unit) (s : Bool) (m : Nat) {e : Int}
    (hunit : unit ≤ e) :
    inUnits fine s m e = inUnits unit s m e * (Nat.pow 2 (unit - fine).toNat : Nat) := by
  have hexponent : (e - fine).toNat = (e - unit).toNat + (unit - fine).toNat := by omega
  have hpow : m * Nat.pow 2 (e - fine).toNat =
      m * Nat.pow 2 (e - unit).toNat * Nat.pow 2 (unit - fine).toNat := by
    rw [hexponent, Nat.mul_assoc]
    congr 1
    exact Nat.pow_add 2 _ _
  unfold inUnits signed
  rw [hpow]
  cases s with
  | true => exact (congrArg Neg.neg (Int.natCast_mul _ _)).trans (Int.neg_mul _ _).symm
  | false => exact Int.natCast_mul _ _

/-- Finite numbers compare as their multiples of any unit that both are whole multiples of. -/
theorem lt_eq_inUnits {unit : Int} (s : Bool) (m : Nat) {e : Int} (he : unit ≤ e) (t : Bool) (n : Nat)
    {f : Int} (hf : unit ≤ f) :
    lt (.finite s m e) (.finite t n f) = decide (inUnits unit s m e < inUnits unit t n f) := by
  have hmin : unit ≤ min e f := by omega
  have hpos : (0 : Int) < (Nat.pow 2 (min e f - unit).toNat : Nat) :=
    Int.natCast_pos.mpr (Nat.two_pow_pos (min e f - unit).toNat)
  have hs := inUnits_eq_mul hmin s m (e := e) (by omega)
  have ht := inUnits_eq_mul hmin t n (e := f) (by omega)
  simp only [lt, hs, ht]
  exact decide_eq_decide.mpr (Int.mul_lt_mul_right hpos).symm

/-! ## The order -/

/-- Nothing is both before and behind another number, defined or not. -/
theorem lt_asymm {x y : Binary64} (h : lt x y = true) : lt y x = false := by
  cases x with
  | undefined => simp [lt] at h
  | infinite s =>
    cases y with
    | undefined => simp [lt] at h
    | infinite t => cases s <;> cases t <;> simp_all [lt]
    | finite t n f => simp_all [lt]
  | finite s m e =>
    cases y with
    | undefined => simp [lt] at h
    | infinite t => simp_all [lt]
    | finite t n f =>
      have he : min e f ≤ e := by omega
      have hf : min e f ≤ f := by omega
      rw [lt_eq_inUnits _ _ he _ _ hf] at h
      rw [lt_eq_inUnits _ _ hf _ _ he]
      simp only [decide_eq_true_eq, decide_eq_false_iff_not] at h ⊢
      omega

/-- What is not before something that is itself not before a third is not before the third, unless the
one in the middle is undefined. -/
theorem lt_eq_false_trans {x y z : Binary64} (hy : y.isDefined = true) (hyx : lt y x = false)
    (hzy : lt z y = false) : lt z x = false := by
  cases x with
  | undefined => cases z <;> simp [lt]
  | infinite s =>
    cases z with
    | undefined => simp [lt]
    | infinite u =>
      cases y with
      | undefined => simp [isDefined] at hy
      | infinite t => cases s <;> cases t <;> cases u <;> simp_all [lt]
      | finite t n f => cases s <;> cases u <;> simp_all [lt]
    | finite u k g =>
      cases y with
      | undefined => simp [isDefined] at hy
      | infinite t => cases s <;> cases t <;> simp_all [lt]
      | finite t n f => simp_all [lt]
  | finite s m e =>
    cases z with
    | undefined => simp [lt]
    | infinite u =>
      cases y with
      | undefined => simp [isDefined] at hy
      | infinite t => cases t <;> cases u <;> simp_all [lt]
      | finite t n f => simp_all [lt]
    | finite u k g =>
      cases y with
      | undefined => simp [isDefined] at hy
      | infinite t => cases t <;> simp_all [lt]
      | finite t n f =>
        -- one unit that is fine enough for all three
        have hunit : ∃ unit, unit ≤ e ∧ unit ≤ f ∧ unit ≤ g := ⟨min e (min f g), by omega⟩
        obtain ⟨unit, he, hf, hg⟩ := hunit
        rw [lt_eq_inUnits _ _ hf _ _ he] at hyx
        rw [lt_eq_inUnits _ _ hg _ _ hf] at hzy
        rw [lt_eq_inUnits _ _ hg _ _ he]
        simp only [decide_eq_false_iff_not] at hyx hzy ⊢
        omega

/-- For defined numbers, at most means not strictly larger. -/
theorem le_iff {x y : Binary64} (hx : x.isDefined = true) (hy : y.isDefined = true) :
    le x y = true ↔ lt y x = false := by
  cases x with
  | undefined => simp [isDefined] at hx
  | infinite | finite =>
    cases y with
    | undefined => simp [isDefined] at hy
    | infinite | finite => simp [le]

/-- Any two defined numbers compare. -/
theorem le_total {x y : Binary64} (hx : x.isDefined = true) (hy : y.isDefined = true) :
    le x y = true ∨ le y x = true := by
  rw [le_iff hx hy, le_iff hy hx]
  cases h : lt y x with
  | false => exact .inl rfl
  | true => exact .inr (lt_asymm h)

theorem le_trans {x y z : Binary64} (hx : x.isDefined = true) (hy : y.isDefined = true)
    (hz : z.isDefined = true) (hxy : le x y = true) (hyz : le y z = true) : le x z = true := by
  rw [le_iff hx hy] at hxy
  rw [le_iff hy hz] at hyz
  rw [le_iff hx hz]
  exact lt_eq_false_trans hy hxy hyz

/-! ## Where defined numbers come from -/

@[simp] theorem isDefined_ofZero (s : Bool) : (ofZero s).isDefined = true := rfl

@[simp] theorem isDefined_round (s : Bool) (num den : Nat) : (round s num den).isDefined = true := by
  have hboth : ∀ (p : Prop) [Decidable p] (m : Nat) (e : Int),
      (if p then infinite s else finite s m e).isDefined = true := by
    intro p _ m e
    split <;> rfl
  unfold round
  split
  · rfl
  · exact hboth _ _ _

@[simp] theorem isDefined_ofInt (n : Int) : (ofInt n).isDefined = true := isDefined_round _ _ _

@[simp] theorem isDefined_ofNat (n : Nat) : isDefined (no_index (OfNat.ofNat n)) = true :=
  isDefined_ofInt n

@[simp] theorem isDefined_ofDecimal (s : Bool) (digits : Nat) (exponent : Int) :
    (ofDecimal s digits exponent).isDefined = true := by
  unfold ofDecimal
  split
  · rfl
  · split
    · rfl
    · split
      · rfl
      · exact isDefined_round _ _ _

/-- A sum is undefined only if a term is, or if the terms are the two infinities. -/
theorem isDefined_add {x y : Binary64} (hx : x.isDefined = true) {s : Bool} {m : Nat} {e : Int}
    (hy : y = .finite s m e) : (x + y).isDefined = true := by
  subst hy
  change (add x _).isDefined = true
  cases x with
  | undefined => simp [isDefined] at hx
  | infinite => rfl
  | finite =>
    simp only [add]
    split
    · rfl
    · exact isDefined_round _ _ _

end Binary64

open Binary64

/-- A numeral denotes a defined number. -/
theorem isDefined_read {text : String} {x : Binary64} (h : Numeral.read text = .ok (some x)) :
    x.isDefined = true := by
  unfold Numeral.read at h
  split at h
  · cases h
  · split at h
    · cases h
    · cases h
      exact isDefined_ofDecimal _ _ _

/-- So does an optional numeral, if the default is defined. -/
theorem isDefined_readOr {default : Option Binary64} (hdefault : ∀ x ∈ default, x.isDefined = true)
    {text? : Option String} {x : Binary64} (h : Numeral.readOr default text? = .ok (some x)) :
    x.isDefined = true := by
  cases text? with
  | none =>
    cases h
    exact hdefault x rfl
  | some text =>
    simp only [Numeral.readOr] at h
    cases hread : Numeral.read text with
    | error e =>
      rw [hread] at h
      cases h
    | ok value =>
      rw [hread] at h
      cases value with
      | none =>
        cases h
        exact hdefault x rfl
      | some y =>
        cases h
        exact isDefined_read hread

end Storyboard.Number
