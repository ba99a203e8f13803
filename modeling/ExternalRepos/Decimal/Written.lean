import ExternalRepos.Decimal.Shortest

/-!
# Written numbers

How a double-precision number is written once its shortest digits are known.
What differs between the formats that the program writes is a `Style`; the
layout of digits, point and exponent is the same for all.
-/

namespace ExternalRepos.Decimal

/-- The decisions of a number format. -/
structure Style where
  /-- The least exponent of the leading digit that is written without an exponent. -/
  leastPositional : Int
  /-- The greatest exponent of the leading digit that is written without an exponent. -/
  greatestPositional : Int
  /-- The least number of digits of a written exponent. -/
  exponentWidth : Nat
  /-- The word for what is not a number. -/
  notANumber : String
  /-- The word for infinity, after the sign. -/
  infinity : String

/-- The digits of a natural. -/
def digitsOf (number : Nat) : List Char :=
  Nat.toDigits 10 number

/-- A text filled up with leading zeros. -/
def padded (width : Nat) (digits : List Char) : List Char :=
  List.replicate (width - digits.length) '0' ++ digits

/-- Digits with the point after the given number of places; a whole number ends in `.0`. -/
def positional (digits : List Char) (places : Int) : List Char :=
  if places ≤ 0 then
    '0' :: '.' :: (List.replicate (-places).toNat '0' ++ digits)
  else if digits.length ≤ places.toNat then
    digits ++ List.replicate (places.toNat - digits.length) '0' ++ ['.', '0']
  else
    digits.take places.toNat ++ '.' :: digits.drop places.toNat

/-- Digits with the point after the first one, and the exponent of that one. -/
def withExponent (width : Nat) (digits : List Char) (exponent : Int) : List Char :=
  let shown := match digits with
    | first :: second :: rest => first :: '.' :: second :: rest
    | few => few
  let sign := if exponent < 0 then '-' else '+'
  shown ++ 'e' :: sign :: padded width (digitsOf exponent.natAbs)

/-- The text of a positive decimal. -/
def Style.decimal (style : Style) (decimal : Scientific) : List Char :=
  let digits := digitsOf decimal.digits
  let exponent := decimal.power + digits.length - 1
  if style.leastPositional ≤ exponent ∧ exponent ≤ style.greatestPositional then
    positional digits (exponent + 1)
  else
    withExponent style.exponentWidth digits exponent

/-- The text of a number. -/
def Style.write (style : Style) (number : Binary64) : String :=
  if number.isNaN then
    style.notANumber
  else
    let sign := if number.isNegative then "-" else ""
    let magnitude :=
      if number.isSpecial then style.infinity
      else if number.isZero then "0.0"
      else String.ofList (style.decimal (shortest number))
    sign ++ magnitude

end ExternalRepos.Decimal
