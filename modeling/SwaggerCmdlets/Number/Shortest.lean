import SwaggerCmdlets.Number.Double

/-! # Shortest decimals — doubles as text

    A double is written with the fewest digits that read back as it: of the
    decimals that round to the double, one on the coarsest decimal grid that has
    any, and there the nearest one.  If a grid has one at all, then one of the
    double's two neighbours on the grid is one.

    Digits are written out while the exponent of the first one is at least -5
    and at most 15, with a point in any case; beyond that in scientific form. -/

namespace SwaggerCmdlets.Double

/-- The decimals `digits · 10 ^ exponent` that are being looked at. -/
structure Decimal where
  digits : Nat
  exponent : Int
deriving DecidableEq, Repr

/-- A magnitude and the ends of the interval that rounds to it, in units of a
    quarter of the last place; whether the ends belong to it. -/
structure Interval where
  low : Nat
  value : Nat
  high : Nat
  unit : Int
  closed : Bool

/-- The interval of a double.  Below a power of two the doubles are twice as
    close. -/
def interval (x : Double) : Interval :=
  let m := x.mantissa
  let gap := if m = Nat.pow 2 52 && leastExponent < x.exponent then 1 else 2
  ⟨4 * m - gap, 4 * m, 4 * m + 2, x.exponent - 2, m % 2 == 0⟩

/-- The unit of an interval over `10 ^ k`, as a fraction. -/
def ratio (i : Interval) (k : Int) : Nat × Nat :=
  (Nat.pow 2 i.unit.toNat * Nat.pow 10 (-k).toNat, Nat.pow 2 (-i.unit).toNat * Nat.pow 10 k.toNat)

/-- A point of the grid of `10 ^ k` that lies in the interval, the nearer one if
    two do. -/
def onGrid? (i : Interval) (k : Int) : Option Nat :=
  let (num, den) := ratio i k
  let inside := fun c : Nat =>
    (i.low * num < c * den && c * den < i.high * num)
      || (i.closed && (c * den == i.low * num || c * den == i.high * num))
  let c := i.value * num / den
  let twice := 2 * (i.value * num)
  let middle := (2 * c + 1) * den
  match c != 0 && inside c, inside (c + 1) with
  | true, true =>
    some (if twice < middle || (twice == middle && c % 2 == 0) then c else c + 1)
  | true, false => some c
  | false, true => some (c + 1)
  | false, false => none

/-- The first hit on grids that get finer. -/
def search (i : Interval) : Nat → Int → Decimal
  | 0, k => ⟨i.value * (ratio i k).1 / (ratio i k).2, k⟩
  | fuel + 1, k =>
    match onGrid? i k with
    | some c => ⟨c, k⟩
    | none => search i fuel (k - 1)

/-- The shortest decimal of a magnitude that is not zero.  The search starts
    above it, and seventeen digits always suffice. -/
def shortest (x : Double) : Decimal :=
  search x.interval 60 ((x.mantissa.log2 + x.exponent) * 30103 / 100000 + 2)

/-- The text of a magnitude of some decimal digits. -/
def digitsText (digits : List Char) (exponent : Int) : List Char :=
  let first : Int := exponent + digits.length - 1
  if 0 ≤ exponent && first ≤ 15 then
    digits ++ List.replicate exponent.toNat '0' ++ ['.', '0']
  else if 0 ≤ first && first ≤ 15 then
    digits.take (first.toNat + 1) ++ '.' :: digits.drop (first.toNat + 1)
  else if -5 ≤ first && first < 0 then
    ['0', '.'] ++ List.replicate (-first - 1).toNat '0' ++ digits
  else
    digits.take 1 ++ (if digits.length = 1 then [] else '.' :: digits.drop 1)
      ++ 'e' :: (if first < 0 then '-' else '+') :: Nat.toDigits 10 first.natAbs

/-- The text of a double. -/
def text (x : Double) : String :=
  let sign := if x.negative then ['-'] else []
  if x.isZero then String.ofList (sign ++ ['0', '.', '0'])
  else
    let d := x.shortest
    String.ofList (sign ++ digitsText (Nat.toDigits 10 d.digits) d.exponent)

end SwaggerCmdlets.Double
