/-! # Doubles — binary numbers of 53 bits

    Numbers that are no integers are kept in double precision: a sign and a
    mantissa of at most 53 bits times a power of two.  Every operation computes
    exactly on natural numbers and then rounds once, to the nearest double, and
    of two equally near ones to the one with an even mantissa.

    A mantissa has all 53 bits unless the exponent is the least one, so that
    every double is written in one way.  What is too large has no double. -/

namespace SwaggerCmdlets

/-- A finite number `± mantissa · 2 ^ exponent`. -/
structure Double where
  negative : Bool
  mantissa : Nat
  exponent : Int
deriving DecidableEq, Repr

namespace Double

/-- The least exponent. -/
def leastExponent : Int := -1074

/-- The greatest exponent. -/
def greatestExponent : Int := 971

/-- Zero. -/
def zero : Double := ⟨false, 0, leastExponent⟩

/-- The number with the other sign. -/
def neg (x : Double) : Double := { x with negative := !x.negative }

/-- Whether the number is zero, of either sign. -/
def isZero (x : Double) : Bool := x.mantissa == 0

/-- The quotient rounded to an integer, ties to even. -/
def roundDiv (num den : Nat) : Nat :=
  let q := num / den
  let twice := 2 * (num % den)
  if den < twice || (twice == den && q % 2 == 1) then q + 1 else q

/-- The two parts of a fraction, times a power of two. -/
def shift (num den : Nat) (e : Int) : Nat × Nat :=
  (num * Nat.pow 2 e.toNat, den * Nat.pow 2 (-e).toNat)

/-- The exponent at which the integral part of a quotient has 53 bits. -/
def exponentOf (num den : Nat) : Int :=
  let e : Int := (num.log2 : Int) - (den.log2 : Int) - 52
  let (n, d) := shift num den (-e)
  if n / d < Nat.pow 2 52 then e - 1 else e

/-- The double nearest to a quotient, if it is not too large. -/
def ofQuotient? (num den : Nat) : Option Double :=
  if num = 0 then some zero
  else
    let e := max (exponentOf num den) leastExponent
    let (n, d) := shift num den (-e)
    let m := roundDiv n d
    let (m, e) := if m = Nat.pow 2 53 then (Nat.pow 2 52, e + 1) else (m, e)
    if greatestExponent < e then none else some ⟨false, m, e⟩

/-- The double nearest to a natural number, if it is not too large. -/
def ofNat? (n : Nat) : Option Double := ofQuotient? n 1

/-- The numerator and the denominator of a number's magnitude. -/
def fraction (x : Double) : Nat × Nat := shift x.mantissa 1 x.exponent

/-- The product of two magnitudes. -/
def mul? (x y : Double) : Option Double :=
  let (a, b) := x.fraction
  let (c, d) := y.fraction
  ofQuotient? (a * c) (b * d)

/-- The quotient of two magnitudes, of which the second is not zero. -/
def div? (x y : Double) : Option Double :=
  let (a, b) := x.fraction
  let (c, d) := y.fraction
  ofQuotient? (a * d) (b * c)

/-- The double nearest to `digits · 10 ^ exponent`.  Exponents far outside the
    range of doubles are not computed with. -/
def ofDecimal? (digits : Nat) (exponent : Int) : Option Double :=
  let size : Int := digits.log2 / 3 + 1
  if digits = 0 || exponent + size < -400 then some zero
  else if 400 < exponent then none
  else ofQuotient? (digits * Nat.pow 10 exponent.toNat) (Nat.pow 10 (-exponent).toNat)

end Double

end SwaggerCmdlets
