/-! Binary floating point with 53 bits of precision: the non-negative numbers of the 64-bit format, in exact integer
    arithmetic. Every operation rounds its exact result once, to the nearest number, ties to the even mantissa; a
    result beyond the largest number has no value. -/

namespace ErDiagram.Decimal

/-- The number `mantissa * 2 ^ exponent`. -/
structure Binary64 where
  mantissa : Nat
  exponent : Int
  deriving DecidableEq, Repr

namespace Binary64

def precision : Nat := 53

/-- The exponents of the mantissa, of the smallest and of the largest numbers. -/
def minExponent : Int := -1074

def maxExponent : Int := 971

def zero : Binary64 := ⟨0, minExponent⟩

/-- The quotient rounded to a natural number, a half to the even one. -/
def roundQuotient (num den : Nat) : Nat :=
  let q := num / den
  let twice := 2 * (num % den)
  if twice < den || (twice = den && q % 2 = 0) then q else q + 1

/-- `num / den * 2 ^ -exponent` as a pair of natural numbers. -/
def shifted (num den : Nat) (exponent : Int) : Nat × Nat :=
  if 0 ≤ exponent then (num, den * Nat.pow 2 exponent.toNat) else (num * Nat.pow 2 (-exponent).toNat, den)

/-- The exponent of two of the leading bit of a positive quotient. -/
def leadingExponent (num den : Nat) : Int :=
  let guess : Int := (Nat.log2 num : Int) - Nat.log2 den
  let (n, d) := shifted num den guess
  if d ≤ n then guess else guess - 1

def ofQuotient? (num den : Nat) : Option Binary64 :=
  if num = 0 then some zero
  else
    let exponent := max (leadingExponent num den - (precision - 1)) minExponent
    let (n, d) := shifted num den exponent
    let mantissa := roundQuotient n d
    let (mantissa, exponent) :=
      if mantissa = Nat.pow 2 precision then (Nat.pow 2 (precision - 1), exponent + 1) else (mantissa, exponent)
    if exponent ≤ maxExponent then some ⟨mantissa, exponent⟩ else none

/-- A quotient of natural numbers that equals the number. -/
def toQuotient (x : Binary64) : Nat × Nat :=
  if 0 ≤ x.exponent then (x.mantissa * Nat.pow 2 x.exponent.toNat, 1)
  else (x.mantissa, Nat.pow 2 (-x.exponent).toNat)

def mul? (x y : Binary64) : Option Binary64 :=
  ofQuotient? (x.toQuotient.1 * y.toQuotient.1) (x.toQuotient.2 * y.toQuotient.2)

/-- The divisor must not be zero. -/
def div? (x y : Binary64) : Option Binary64 :=
  ofQuotient? (x.toQuotient.1 * y.toQuotient.2) (x.toQuotient.2 * y.toQuotient.1)

/-- The greatest exponent of ten with a number of its own. -/
def maxTens : Nat := 308

/-- Divides by a power of ten, at most `10 ^ maxTens` at a time. -/
def divTens (x : Binary64) (tens : Nat) : Option Binary64 := do
  if x.mantissa = 0 then return x
  let step := min tens maxTens
  let y ← x.div? (← ofQuotient? (Nat.pow 10 step) 1)
  if tens ≤ maxTens then return y
  divTens y (tens - maxTens)
termination_by tens
decreasing_by simp only [maxTens] at *; omega

/-- Multiplies by a power of ten, which must itself be a number unless the factor is zero. -/
def mulTens (x : Binary64) (tens : Nat) : Option Binary64 :=
  if tens ≤ maxTens then do x.mul? (← ofQuotient? (Nat.pow 10 tens) 1)
  else if x.mantissa = 0 then some x
  else none

/-- `significand * 10 ^ exponent`, with a rounding of the significand, of the power and of their product or
    quotient. -/
def ofScientific? (significand : Nat) (exponent : Int) : Option Binary64 := do
  let x ← ofQuotient? significand 1
  if 0 ≤ exponent then x.mulTens exponent.toNat else x.divTens (-exponent).toNat

end Binary64
end ErDiagram.Decimal
