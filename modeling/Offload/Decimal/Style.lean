/-
# Layout of decimals

How the digits of a decimal are set out: with a point among them as long as the number is
neither large nor small, and with an exponent otherwise.
-/

import Offload.Decimal.Shortest

namespace Offload.Decimal

/-- The decisions of a number format. -/
structure Style where
  /-- A number of magnitude `10 ^ p` or more, `p` from here on, has an exponent. -/
  exponentFrom : Int
  /-- A number below `10 ^ p` for this `p` has an exponent. -/
  exponentBelow : Int
  /-- What stands before a positive exponent. -/
  positiveSign : List Char
  /-- What stands for a value that has no digits. -/
  absent : List Char

/-- The decimal digits of a natural number. -/
def digitsOf (number : Nat) : List Char := Nat.toDigits 10 number

/-- The exponent part: a mark, the sign, the digits. -/
def Style.exponentPart (style : Style) (exponent : Int) : List Char :=
  'e' :: (if exponent < 0 then ['-'] else style.positiveSign) ++ digitsOf exponent.natAbs

/-- Digits with a point after the first one, if there are more. -/
def Style.scientificPart : List Char → List Char
  | [] => []
  | [digit] => [digit]
  | first :: others => first :: '.' :: others

/-- Set out a decimal. With `size` digits before the point, digits and zeros stand for
themselves, and at least one digit follows the point. -/
def Style.layout (style : Style) (decimal : Decimal) : List Char :=
  let digits := digitsOf decimal.digits
  let size := digits.length + decimal.exponent
  if size ≤ style.exponentBelow ∨ style.exponentFrom < size then
    Style.scientificPart digits ++ style.exponentPart (size - 1)
  else if size ≤ 0 then
    ['0', '.'] ++ List.replicate (-size).toNat '0' ++ digits
  else if 0 ≤ decimal.exponent then
    digits ++ List.replicate decimal.exponent.toNat '0' ++ ['.', '0']
  else digits.take size.toNat ++ '.' :: digits.drop size.toNat

/-- The text of a double: a zero keeps its sign, and infinities have no digits either. -/
def Style.text (style : Style) (value : Double) : List Char :=
  match value.number with
  | .finite negative mantissa exponent =>
      (if negative then ['-'] else []) ++
        if mantissa = 0 then ['0', '.', '0'] else style.layout (shortest mantissa exponent)
  | _ => style.absent

end Offload.Decimal
