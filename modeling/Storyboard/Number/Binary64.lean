/-!
# Binary64 numbers

Positions, sizes, times and slider values are binary64 numbers. A finite one is a sign, a natural
mantissa and an exponent of two. The results of the operations are the exact ones, rounded to
nearest with a half going to the even neighbour (`round`), so a finite result has a mantissa below
2^53 and an exponent from -1074 to 971, and its mantissa is at least 2^52 unless the exponent is
the least one.

Two orders of operands matter: `smaller` and `larger` keep their first argument unless the second
one is strictly smaller or larger, so an undefined number never displaces a defined one.
-/
namespace Storyboard.Number

/-- A binary64 number: `finite s m e` is `m * 2 ^ e`, negated if `s`. -/
inductive Binary64 where
  | undefined
  | infinite (negative : Bool)
  | finite (negative : Bool) (mantissa : Nat) (exponent : Int)
  deriving Repr, DecidableEq

/-- The nearest natural to `num / den`, a half going to the even one. -/
def divNearest (num den : Nat) : Nat :=
  let q := num / den
  let r := num % den
  if 2 * r < den then q else if den < 2 * r then q + 1 else q + q % 2

namespace Binary64

def leastExponent : Int := -1074

def greatestExponent : Int := 971

def ofZero (negative : Bool) : Binary64 := .finite negative 0 leastExponent

/-- The exponent of the last place that binary64 keeps of `num / den`. -/
def placeOf (num den : Nat) : Int :=
  let guess : Int := max (num.log2 - den.log2 - 53) leastExponent
  let mantissa := num * Nat.pow 2 (-guess).toNat / (den * Nat.pow 2 guess.toNat)
  if mantissa < Nat.pow 2 53 then guess else guess + 1

/-- The binary64 number nearest to `num / den`, with the given sign. -/
def round (negative : Bool) (num den : Nat) : Binary64 :=
  if num = 0 then ofZero negative
  else
    let place := placeOf num den
    let m := divNearest (num * Nat.pow 2 (-place).toNat) (den * Nat.pow 2 place.toNat)
    let carried := m = Nat.pow 2 53
    let mantissa := if carried then Nat.pow 2 52 else m
    let exponent := if carried then place + 1 else place
    if greatestExponent < exponent then .infinite negative else .finite negative mantissa exponent

def ofInt (n : Int) : Binary64 := round (decide (n < 0)) n.natAbs 1

instance (n : Nat) : OfNat Binary64 n := ⟨ofInt n⟩

/-- The binary64 number nearest to `digits * 10 ^ exponent`. Exponents that put the value far beyond
either end of the range are settled before any power is computed. -/
def ofDecimal (negative : Bool) (digits : Nat) (exponent : Int) : Binary64 :=
  if digits = 0 then ofZero negative
  else if 310 < exponent then .infinite negative
  else if exponent < -(digits.log2 + 326 : Int) then ofZero negative
  else round negative (digits * Nat.pow 10 exponent.toNat) (Nat.pow 10 (-exponent).toNat)

/-- The mantissa with its sign. -/
def signed (negative : Bool) (mantissa : Nat) : Int :=
  if negative then -(mantissa : Int) else mantissa

/-- The value of a finite number in units of `2 ^ unit`, for a unit no coarser than its own. -/
def inUnits (unit : Int) (negative : Bool) (mantissa : Nat) (exponent : Int) : Int :=
  signed negative (mantissa * Nat.pow 2 (exponent - unit).toNat)

def neg : Binary64 → Binary64
  | .undefined => .undefined
  | .infinite s => .infinite !s
  | .finite s m e => .finite (!s) m e

/-- The sum. A sum of zero is negative only if both terms are. -/
def add : Binary64 → Binary64 → Binary64
  | .undefined, _ => .undefined
  | _, .undefined => .undefined
  | .infinite s, .infinite t => if s = t then .infinite s else .undefined
  | .infinite s, .finite .. => .infinite s
  | .finite .., .infinite t => .infinite t
  | .finite s m e, .finite t n f =>
    let unit := min e f
    let sum := inUnits unit s m e + inUnits unit t n f
    if sum = 0 then ofZero (s && t)
    else
      round (decide (sum < 0)) (sum.natAbs * Nat.pow 2 unit.toNat) (Nat.pow 2 (-unit).toNat)

def sub (a b : Binary64) : Binary64 := add a (neg b)

instance : Neg Binary64 := ⟨neg⟩
instance : Add Binary64 := ⟨add⟩
instance : Sub Binary64 := ⟨sub⟩

/-- Strictly smaller; false as soon as one side is undefined. -/
def lt : Binary64 → Binary64 → Bool
  | .undefined, _ => false
  | _, .undefined => false
  | .infinite s, .infinite t => s && !t
  | .infinite s, .finite .. => s
  | .finite .., .infinite t => !t
  | .finite s m e, .finite t n f =>
    let unit := min e f
    decide (inUnits unit s m e < inUnits unit t n f)

/-- At most; false as soon as one side is undefined. -/
def le : Binary64 → Binary64 → Bool
  | .undefined, _ => false
  | _, .undefined => false
  | a, b => !lt b a

/-- The second number if it is strictly smaller, else the first. -/
def smaller (a b : Binary64) : Binary64 := if lt b a then b else a

/-- The second number if it is strictly larger, else the first. -/
def larger (a b : Binary64) : Binary64 := if lt a b then b else a

/-- Why a number has no integer part. -/
inductive NoInteger where
  | infinite
  | undefined
  deriving Repr, DecidableEq

/-- The integer part, cut toward zero. -/
def truncate : Binary64 → Except NoInteger Int
  | .undefined => .error .undefined
  | .infinite _ => .error .infinite
  | .finite s m e => .ok (signed s (m * Nat.pow 2 e.toNat / Nat.pow 2 (-e).toNat))

end Binary64

end Storyboard.Number
