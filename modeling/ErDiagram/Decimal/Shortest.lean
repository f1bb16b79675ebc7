import ErDiagram.Decimal.Binary64

/-! The shortest decimal text of a binary number: the fewest digits that read back as the number, and of those the
    nearest to it; a tie goes to the even last digit. The reals that read back form an interval around the number; for
    each count of digits its two neighbours on the decimal grid are tried. -/

namespace ErDiagram.Decimal

/-- Positive decimals `digits * 10 ^ exponent`. -/
structure Scientific where
  digits : Nat
  exponent : Int
  deriving DecidableEq, Repr

/-- Four times a binary number and the ends of the interval that reads back as it, over a common denominator. -/
structure Interval where
  low : Nat
  value : Nat
  high : Nat
  denominator : Nat
  closed : Bool

/-- Half the distance to the next number on each side; below a power of two the distance halves. -/
def Binary64.interval (x : Binary64) : Interval :=
  let below := if x.mantissa = Nat.pow 2 (precision - 1) && minExponent < x.exponent then 1 else 2
  let scale := x.exponent - 2
  let factor := if 0 ≤ scale then Nat.pow 2 scale.toNat else 1
  { low := (4 * x.mantissa - below) * factor
    value := 4 * x.mantissa * factor
    high := (4 * x.mantissa + 2) * factor
    denominator := if 0 ≤ scale then 1 else Nat.pow 2 (-scale).toNat
    closed := x.mantissa % 2 = 0 }

/-- A decimal over the denominator of an interval: numerator and the factor to bring the interval to. -/
def Interval.scaled (i : Interval) (d : Scientific) : Nat × Nat :=
  if 0 ≤ d.exponent then (d.digits * Nat.pow 10 d.exponent.toNat * i.denominator, 1)
  else (d.digits * i.denominator, Nat.pow 10 (-d.exponent).toNat)

/-- The decimal reads back as the number of the interval. -/
def Interval.contains (i : Interval) (d : Scientific) : Bool :=
  let (n, factor) := i.scaled d
  if i.closed then i.low * factor ≤ n && n ≤ i.high * factor else i.low * factor < n && n < i.high * factor

/-- How far a decimal is from the number, over a denominator that is the same for decimals of one exponent. -/
def Interval.distance (i : Interval) (d : Scientific) : Nat :=
  let (n, factor) := i.scaled d
  (n - i.value * factor) + (i.value * factor - n)

/-- The two neighbours of the number on the grid of an exponent. -/
def Interval.neighbours (i : Interval) (exponent : Int) : Scientific × Scientific :=
  let below :=
    if 0 ≤ exponent then i.value / (i.denominator * Nat.pow 10 exponent.toNat)
    else i.value * Nat.pow 10 (-exponent).toNat / i.denominator
  (⟨below, exponent⟩, ⟨below + 1, exponent⟩)

/-- The nearer of the neighbours that read back. If both are equally near, it is the one with the even last digit. -/
def Interval.onGrid? (i : Interval) (exponent : Int) : Option Scientific :=
  let (below, above) := i.neighbours exponent
  match i.contains below, i.contains above with
  | true, true =>
    let (toBelow, toAbove) := (i.distance below, i.distance above)
    some (if toBelow < toAbove ∨ toBelow = toAbove ∧ below.digits % 2 = 0 then below else above)
  | true, false => some below
  | false, true => some above
  | false, false => none

/-- Seventeen digits always read back. -/
def maxDigits : Nat := 17

def digitCount (n : Nat) : Nat := (Nat.toDigits 10 n).length

/-- The exponent of ten of the first digit of a number, or one more. -/
def Interval.leading (i : Interval) : Int := (digitCount i.value : Int) - digitCount i.denominator

/-- The shortest decimal that reads back as a positive number. The first grid tried is coarser than one digit. -/
def Binary64.shortest (x : Binary64) : Scientific :=
  let i := x.interval
  let grids := (List.range (maxDigits + 3)).map fun finer : Nat => i.leading + 1 - (finer : Int)
  (grids.findSome? i.onGrid?).getD ⟨x.mantissa, x.exponent⟩

/-! ### Text -/

/-- The exponents of the first digit for which the point stands in its place among the digits. -/
def leastPositional : Int := -5

def greatestPositional : Int := 15

/-- Positional with at least one digit after the point, or with one digit before the point and a signed exponent. -/
def Scientific.text (d : Scientific) : String :=
  let digits := Nat.toDigits 10 d.digits
  let leading : Int := d.exponent + digits.length - 1
  let zeros (n : Int) : List Char := List.replicate n.toNat '0'
  String.ofList <|
    if leastPositional ≤ leading ∧ leading ≤ greatestPositional then
      if 0 ≤ d.exponent then digits ++ zeros d.exponent ++ ['.', '0']
      else if 0 ≤ leading then digits.take (leading.toNat + 1) ++ '.' :: digits.drop (leading.toNat + 1)
      else '0' :: '.' :: zeros (-leading - 1) ++ digits
    else
      digits.take 1 ++ (if digits.length = 1 then [] else '.' :: digits.drop 1) ++
        'e' :: (if leading < 0 then '-' else '+') :: Nat.toDigits 10 leading.natAbs

def Binary64.text (x : Binary64) : String := if x.mantissa = 0 then "0.0" else x.shortest.text

end ErDiagram.Decimal
