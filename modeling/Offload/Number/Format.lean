/-
# Exact numbers and binary formats

Numbers of the host are exact: a sign, a natural mantissa and a power of two. A binary format
reads a word as such a number, and rounds any number to the nearest word, a tie going to the
word whose last bit is zero. No machine arithmetic takes part, so every conversion between
element types is an integer computation.
-/

import Offload.Number.PowerOfTwo

namespace Offload

/-- The value of a cell: not a number, an infinity, or `± mantissa · 2 ^ exponent`. The sign
of a zero counts as part of the value of a word, not of the number it stands for. -/
inductive Number where
  | nan
  | infinite (negative : Bool)
  | finite (negative : Bool) (mantissa : Nat) (exponent : Int)
  deriving DecidableEq, Repr, Inhabited

namespace Number

/-- An integer as a number. -/
def ofInt (value : Int) : Number := .finite (value < 0) value.natAbs 0

/-- Whether two finite numbers are the same: the mantissas are brought to the smaller exponent
and compared, and the signs matter only when they are not zero. -/
def finiteEqual (negative : Bool) (mantissa : Nat) (exponent : Int)
    (negative' : Bool) (mantissa' : Nat) (exponent' : Int) : Bool :=
  let least := min exponent exponent'
  mantissa * twoPow (exponent - least).toNat == mantissa' * twoPow (exponent' - least).toNat &&
    (negative == negative' || mantissa == 0)

/-- Numeric equality: nothing equals a value that is not a number, and the two zeros are
equal. -/
def equal : Number → Number → Bool
  | .infinite negative, .infinite negative' => negative == negative'
  | .finite negative mantissa exponent, .finite negative' mantissa' exponent' =>
      finiteEqual negative mantissa exponent negative' mantissa' exponent'
  | _, _ => false

/-- The integer between a finite number and zero that is nearest to the number. -/
def truncated (negative : Bool) (mantissa : Nat) (exponent : Int) : Int :=
  let magnitude := mantissa * twoPow exponent.toNat / twoPow (-exponent).toNat
  if negative then -(magnitude : Int) else magnitude

/-- The whole part of a number, if it has one and it lies in the given range. -/
def truncatedWithin? (low high : Int) : Number → Option Int
  | .finite negative mantissa exponent =>
      let whole := truncated negative mantissa exponent
      if low ≤ whole ∧ whole ≤ high then some whole else none
  | _ => none

end Number

/-- The quotient of two natural numbers rounded to the nearest, a tie going to the even one. -/
def roundedQuotient (numerator denominator : Nat) : Nat :=
  let quotient := numerator / denominator
  let twice := 2 * (numerator % denominator)
  if denominator < twice ∨ (twice = denominator ∧ quotient % 2 = 1) then quotient + 1
  else quotient

/-- A binary interchange format: a sign bit, `exponentBits` bits of exponent, and `precision`
significant bits of which the leading one is not stored. -/
structure BinaryFormat where
  precision : Nat
  exponentBits : Nat
  deriving DecidableEq, Repr

namespace BinaryFormat

/-- Half precision: eleven significant bits. -/
def half : BinaryFormat := ⟨11, 5⟩

/-- The other half precision: the exponents of single precision with eight significant bits. -/
def brain : BinaryFormat := ⟨8, 8⟩

/-- Single precision. -/
def single : BinaryFormat := ⟨24, 8⟩

/-- Double precision. -/
def double : BinaryFormat := ⟨53, 11⟩

/-- The number of bits of a word. -/
def width (format : BinaryFormat) : Nat := format.precision + format.exponentBits

/-- The number of words that share a sign and an exponent field. -/
def binade (format : BinaryFormat) : Nat := twoPow (format.precision - 1)

/-- The largest exponent field, which infinities and values that are not numbers have. -/
def topField (format : BinaryFormat) : Nat := twoPow format.exponentBits - 1

/-- The exponent of the last bit of the smallest numbers. -/
def leastExponent (format : BinaryFormat) : Int :=
  3 - twoPow (format.exponentBits - 1) - format.precision

/-- The magnitude bits of infinity. -/
def infinityBits (format : BinaryFormat) : Nat := format.topField * format.binade

/-- The weight of the sign bit. -/
def signBit (format : BinaryFormat) : Nat := twoPow (format.width - 1)

/-- The number a word stands for. -/
def decode (format : BinaryFormat) (word : Nat) : Number :=
  let negative := format.signBit ≤ word % (2 * format.signBit)
  let field := word % format.signBit / format.binade
  let fraction := word % format.binade
  if field = format.topField then
    if fraction = 0 then .infinite negative else .nan
  else if field = 0 then .finite negative fraction format.leastExponent
  else .finite negative (format.binade + fraction) (format.leastExponent + (field - 1 : Nat))

/-- The exponent of the last bit that a nonzero mantissa keeps in a format. -/
def lastExponent (format : BinaryFormat) (mantissa : Nat) (exponent : Int) : Int :=
  max format.leastExponent (exponent + (mantissa.log2 + 1 : Nat) - format.precision)

/-- The magnitude bits of the word nearest to `mantissa · 2 ^ exponent`. Counting words from
zero, each exponent takes up one binade, so a mantissa that rounds up to the next power of two
lands on the first word of the next binade; past the largest number lies infinity. -/
def magnitudeBits (format : BinaryFormat) (mantissa : Nat) (exponent : Int) : Nat :=
  if mantissa = 0 then 0
  else
    let last := format.lastExponent mantissa exponent
    let kept := roundedQuotient (mantissa * twoPow (exponent - last).toNat)
      (twoPow (last - exponent).toNat)
    min format.infinityBits ((last - format.leastExponent).toNat * format.binade + kept)

/-- The word nearest to a number, a tie going to the word whose last bit is zero. -/
def round (format : BinaryFormat) : Number → Nat
  | .nan => format.infinityBits + format.binade / 2
  | .infinite negative => (if negative then format.signBit else 0) + format.infinityBits
  | .finite negative mantissa exponent =>
      (if negative then format.signBit else 0) + format.magnitudeBits mantissa exponent

end BinaryFormat

end Offload
