import Storyboard.Number.Binary64
/-!
# The shortest decimal of a number

The reals that round to a finite number form an interval around it: half-way to the neighbour
below, half-way to the neighbour above, the two ends included exactly if the mantissa is even
(`readsBack`). A number is written with the fewest digits that lie in that interval. For each digit
count the only candidates are the number's two neighbours on that decimal grid; the nearer one wins,
and of two equally near ones the even one.

Layout (`Binary64.text`): the digits stand positionally, with at least one digit on either side of
the point, while the exponent of the leading digit is from -4 to 15; otherwise one digit stands
before the point and the exponent follows with its sign and at least two digits.
-/
namespace Storyboard.Number

/-- The decimal `digits * 10 ^ exponent`. -/
structure Decimal where
  digits : Nat
  exponent : Int
  deriving Repr, DecidableEq

/-- Compares `a * 10 ^ i` with `n * 2 ^ j`, exactly. -/
def compareScaled (a : Nat) (i : Int) (n : Nat) (j : Int) : Ordering :=
  compare (a * Nat.pow 10 i.toNat * Nat.pow 2 (-j).toNat)
    (n * Nat.pow 2 j.toNat * Nat.pow 10 (-i).toNat)

/-- Does the decimal lie among the reals that round to `m * 2 ^ q`? Below a power of two the
neighbour is half as far away as above. -/
def readsBack (m : Nat) (q : Int) (d : Decimal) : Bool :=
  let low := if m = Nat.pow 2 52 ∧ Binary64.leastExponent < q then 4 * m - 1 else 4 * m - 2
  let fromBelow := compareScaled d.digits d.exponent low (q - 2)
  let fromAbove := compareScaled d.digits d.exponent (4 * m + 2) (q - 2)
  let ends := m % 2 == 0
  (fromBelow == .gt || ends && fromBelow == .eq) && (fromAbove == .lt || ends && fromAbove == .eq)

/-- An exponent `k` with `10 ^ (k - 1) ≤ m * 2 ^ q < 10 ^ k`. -/
def magnitude (m : Nat) (q : Int) : Int :=
  let guess := ((m.log2 + q) * 30103).fdiv 100000
  if compareScaled 1 guess m q == .gt then guess
  else if compareScaled 1 (guess + 1) m q == .gt then guess + 1
  else guess + 2

/-- The decimal on the grid of `10 ^ place` that reads back as `m * 2 ^ q`, the nearest if there
are two. -/
def onGrid (m : Nat) (q place : Int) : Option Decimal :=
  let below := m * Nat.pow 2 q.toNat * Nat.pow 10 (-place).toNat /
    (Nat.pow 10 place.toNat * Nat.pow 2 (-q).toNat)
  match readsBack m q ⟨below, place⟩, readsBack m q ⟨below + 1, place⟩ with
  | false, false => none
  | true, false => some ⟨below, place⟩
  | false, true => some ⟨below + 1, place⟩
  | true, true =>
    match compareScaled (2 * below + 1) place (2 * m) q with
    | .gt => some ⟨below, place⟩
    | .lt => some ⟨below + 1, place⟩
    | .eq => some ⟨below + below % 2, place⟩

/-- The exact value, as a decimal. -/
def exactDecimal (m : Nat) (q : Int) : Decimal :=
  if 0 ≤ q then ⟨m * Nat.pow 2 q.toNat, 0⟩ else ⟨m * Nat.pow 5 (-q).toNat, q⟩

/-- Moves up to `n` zeros from the end of the digits into the exponent. -/
def dropZeros : Nat → Decimal → Decimal
  | 0, d => d
  | n + 1, d =>
    if d.digits % 10 = 0 ∧ d.digits ≠ 0 then dropZeros n ⟨d.digits / 10, d.exponent + 1⟩ else d

/-- The decimal with the fewest digits that reads back as `m * 2 ^ q`, for a mantissa above zero. -/
def shortest (m : Nat) (q : Int) : Decimal :=
  let top := magnitude m q
  dropZeros 20
    (((List.range 17).findSome? fun (n : Nat) => onGrid m q (top - (n + 1))).getD
      (exactDecimal m q))

/-- A natural number in decimal digits. -/
def digitsOf (n : Nat) : List Char := Nat.toDigits 10 n

def zeros (n : Nat) : List Char := List.replicate n '0'

/-- The exponent behind its mark: a sign and at least two digits. -/
def exponentText (e : Int) : List Char :=
  let ds := digitsOf e.natAbs
  'e' :: (if e < 0 then '-' else '+') :: (zeros (2 - ds.length) ++ ds)

/-- A decimal above zero, laid out. -/
def layout (d : Decimal) : List Char :=
  let ds := digitsOf d.digits
  let lead := d.exponent + ds.length - 1
  if lead < -4 ∨ 16 ≤ lead then
    match ds with
    | [one] => one :: exponentText lead
    | one :: rest => one :: '.' :: rest ++ exponentText lead
    | [] => []
  else if 0 ≤ d.exponent then ds ++ zeros d.exponent.toNat ++ ['.', '0']
  else if 0 ≤ lead then ds.take (lead.toNat + 1) ++ '.' :: ds.drop (lead.toNat + 1)
  else '0' :: '.' :: zeros (-lead - 1).toNat ++ ds

/-- The shortest text that reads back as the number. Mirrors `swift_number`. -/
def Binary64.text : Binary64 → String
  | .undefined => "nan"
  | .infinite s => if s then "-inf" else "inf"
  | .finite s m q =>
    let body := if m = 0 then ['0', '.', '0'] else layout (shortest m q)
    String.ofList (if s then '-' :: body else body)

end Storyboard.Number
