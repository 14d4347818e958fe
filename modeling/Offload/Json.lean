/-
# Compact JSON text

The text form of what a back end takes as one string: no blanks, object members in the order
given. A string escapes the quote, the backslash and the controls below the space, and nothing
else.
-/

import Offload.Decimal.Style

namespace Offload.Json

/-- Numbers have an exponent from `10 ^ 16` on and below `10 ^ (-5)`; values without digits are
`null`. -/
def numberStyle : Decimal.Style where
  exponentFrom := 16
  exponentBelow := -5
  positiveSign := ['+']
  absent := ['n', 'u', 'l', 'l']

/-- A hexadecimal digit in lower case. -/
def hexDigit (value : Nat) : Char := Nat.digitChar (value % 16)

/-- One character of a string. -/
def stringChar (c : Char) : List Char :=
  if c = '"' then ['\\', '"']
  else if c = '\\' then ['\\', '\\']
  else if c.toNat = 8 then ['\\', 'b']
  else if c.toNat = 12 then ['\\', 'f']
  else if c = '\n' then ['\\', 'n']
  else if c = '\r' then ['\\', 'r']
  else if c = '\t' then ['\\', 't']
  else if c.toNat < 32 then
    ['\\', 'u', '0', '0', hexDigit (c.toNat / 16), hexDigit c.toNat]
  else [c]

/-- A string. -/
def string (text : String) : List Char := '"' :: text.toList.flatMap stringChar ++ ['"']

/-- A truth value. -/
def bool : Bool → List Char
  | true => ['t', 'r', 'u', 'e']
  | false => ['f', 'a', 'l', 's', 'e']

/-- An integer. -/
def int (value : Int) : List Char :=
  (if value < 0 then ['-'] else []) ++ Decimal.digitsOf value.natAbs

/-- A floating-point number. -/
def double (value : Double) : List Char := numberStyle.text value

/-- Texts separated by commas. -/
def commaSeparated : List (List Char) → List Char
  | [] => []
  | [text] => text
  | text :: others => text ++ ',' :: commaSeparated others

/-- An array of values already written. -/
def array (values : List (List Char)) : List Char := '[' :: commaSeparated values ++ [']']

/-- A member of an object. -/
def member (key : String) (value : List Char) : List Char := string key ++ ':' :: value

/-- An object of values already written, in the order given. -/
def object (members : List (String × List Char)) : List Char :=
  '\x7b' :: commaSeparated (members.map fun entry => member entry.1 entry.2) ++ ['\x7d']

end Offload.Json
