/-!
# Double-precision numbers

A double-precision number is kept as the 64 bits of its interchange format:
one sign bit, eleven exponent bits, fifty-two fraction bits. A finite number is
then exactly `mantissa * 2 ^ exponent` with its sign, and comparing it with an
integer needs no rounding (`equalsInt`). Two numbers may compare equal without
being the same (the two zeros), and a not-a-number equals nothing.
-/

namespace ExternalRepos

/-- A double-precision number, by the bits of its interchange format. -/
structure Binary64 where
  bits : UInt64
  deriving DecidableEq, Inhabited

namespace Binary64

/-- Whether the sign bit is set. -/
def isNegative (number : Binary64) : Bool :=
  decide (Nat.pow 2 63 ≤ number.bits.toNat)

/-- The eleven exponent bits. -/
def exponentField (number : Binary64) : Nat :=
  number.bits.toNat / Nat.pow 2 52 % Nat.pow 2 11

/-- The fifty-two fraction bits. -/
def fraction (number : Binary64) : Nat :=
  number.bits.toNat % Nat.pow 2 52

/-- Whether the number is an infinity or not a number. -/
def isSpecial (number : Binary64) : Bool :=
  number.exponentField = 2047

/-- Whether this is no number at all. -/
def isNaN (number : Binary64) : Bool :=
  number.isSpecial && number.fraction ≠ 0

/-- Whether the number has its least exponent, so that no leading bit is implied. -/
def isSubnormal (number : Binary64) : Bool :=
  number.exponentField = 0

/-- The significant digits of a finite number as an integer. -/
def mantissa (number : Binary64) : Nat :=
  if number.isSubnormal then number.fraction else Nat.pow 2 52 + number.fraction

/-- The power of two that scales the mantissa of a finite number. -/
def exponent (number : Binary64) : Int :=
  (max number.exponentField 1 : Nat) - 1075

/-- Whether the number is one of the two zeros. -/
def isZero (number : Binary64) : Bool :=
  number.exponentField = 0 && number.fraction = 0

/-- The mantissa with the sign of the number. -/
def signedMantissa (number : Binary64) : Int :=
  if number.isNegative then -number.mantissa else number.mantissa

/-- Numerical equality: the two zeros are equal, and nothing equals what is not a number. -/
def equals (left right : Binary64) : Bool :=
  !left.isNaN && !right.isNaN && (left = right || (left.isZero && right.isZero))

/-- Whether a number has exactly the value of an integer. -/
def equalsInt (number : Binary64) (integer : Int) : Bool :=
  !number.isSpecial &&
    (number.signedMantissa * Int.pow 2 number.exponent.toNat =
      integer * Int.pow 2 (-number.exponent).toNat)

end Binary64

end ExternalRepos
