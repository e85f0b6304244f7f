/-!
# Digits of a base

Numbers in a base up to sixteen. Letters of either case are digits from ten on.
-/
namespace Storyboard.Text

/-- The value of a digit. -/
def digitOf? (base : Nat) (c : Char) : Option Nat :=
  let n :=
    if '0' ≤ c ∧ c ≤ '9' then c.toNat - 48
    else if 'a' ≤ c ∧ c ≤ 'f' then c.toNat - 87
    else if 'A' ≤ c ∧ c ≤ 'F' then c.toNat - 55
    else base
  if n < base then some n else none

def isDigitOf (base : Nat) (c : Char) : Bool := (digitOf? base c).isSome

/-- The number that digits denote. -/
def numberOf (base : Nat) (digits : List Char) : Nat :=
  digits.foldl (fun n c => base * n + (digitOf? base c).getD 0) 0

end Storyboard.Text
