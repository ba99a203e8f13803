import ExternalRepos.Decimal.Binary64

/-!
# Shortest decimals

The decimal with the fewest digits that still reads back as a given
double-precision number, and among those the one nearest to it.

The reals that round to `m * 2 ^ q` form an interval around it, which contains
its ends when `m` is even. In quarters of a unit in the last place it reaches
from two below (one below at a power of two) to two above. If a decimal grid
meets the interval, one of the two grid neighbours of the number lies in it, so
trying one to seventeen digits and testing two candidates each time finds the
shortest; all of it is exact arithmetic on naturals.
-/

namespace ExternalRepos.Decimal

/-- A positive decimal: `digits * 10 ^ power`. -/
structure Scientific where
  digits : Nat
  power : Int
  deriving DecidableEq, Repr

/-- The number of decimal digits of a natural; zero has none. -/
def decimalLength (number : Nat) : Nat :=
  if number = 0 then 0 else (Nat.toDigits 10 number).length

/-- The exponent of the leading decimal digit of a positive fraction. -/
def leadingExponent (numerator denominator : Nat) : Int :=
  if denominator ≤ numerator then
    (decimalLength (numerator / denominator) : Int) - 1
  else
    -(decimalLength ((denominator - 1) / numerator) : Int)

/-- The decimal with trailing zeros moved from the digits to the power. -/
def Scientific.trim : (places : Nat) → Scientific → Scientific
  | 0, decimal => decimal
  | places + 1, decimal =>
      if decimal.digits ≠ 0 ∧ decimal.digits % 10 = 0 then
        Scientific.trim places ⟨decimal.digits / 10, decimal.power + 1⟩
      else
        decimal

/-- An interval of positive rationals over one denominator, around a value of it. -/
structure Interval where
  low : Nat
  value : Nat
  high : Nat
  denominator : Nat
  closed : Bool

/-- Whether a fraction lies in the interval. -/
def Interval.contains (interval : Interval) (numerator denominator : Nat) : Bool :=
  let scaled := numerator * interval.denominator
  if interval.closed then
    interval.low * denominator ≤ scaled && scaled ≤ interval.high * denominator
  else
    interval.low * denominator < scaled && scaled < interval.high * denominator

/-- The reals that round to a positive finite number. -/
def Interval.ofBinary64 (number : Binary64) : Interval :=
  let scale := Nat.pow 2 (number.exponent - 2).toNat
  let below := if number.fraction = 0 ∧ 1 < number.exponentField then 1 else 2
  { low := (4 * number.mantissa - below) * scale
    value := 4 * number.mantissa * scale
    high := (4 * number.mantissa + 2) * scale
    denominator := Nat.pow 2 (2 - number.exponent).toNat
    closed := number.mantissa % 2 = 0 }

/-- The grid point of a given power nearest to the value, if one of its neighbours is inside. -/
def Interval.nearestOnGrid? (interval : Interval) (power : Int) : Option Scientific :=
  let up := Nat.pow 10 power.toNat
  let down := Nat.pow 10 (-power).toNat
  let unit := up * interval.denominator
  let floor := interval.value * down / unit
  let remainder := interval.value * down % unit
  let below := interval.contains (floor * up) down
  let above := interval.contains ((floor + 1) * up) down
  let aboveIsNearer := unit < 2 * remainder || (unit = 2 * remainder && floor % 2 = 1)
  if above && (!below || aboveIsNearer) then some ⟨floor + 1, power⟩
  else if below then some ⟨floor, power⟩
  else none

/-- The most digits that a double-precision number ever needs. -/
def mostDigits : Nat := 17

/-- The shortest decimal that reads back as a positive finite number. -/
def shortest (number : Binary64) : Scientific :=
  let interval := Interval.ofBinary64 number
  let leading := leadingExponent interval.value interval.denominator
  let found := (List.range mostDigits).findSome? fun (more : Nat) =>
    interval.nearestOnGrid? (leading - more)
  (found.getD ⟨0, 0⟩).trim mostDigits

end ExternalRepos.Decimal
