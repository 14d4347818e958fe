/-
# Reading JSON text

A written string or integer is read off the front of a text: the reader gives back what was written
and the rest of the text. A string ends at the first quote that no backslash stands before, and none
of what is written for a character looks like that quote; so strings may hold quotes, backslashes,
commas and braces, and what follows is never taken for a part of them. An integer ends where the
digits end, so no digit may follow it.
-/

import Mathlib.Tactic.SplitIfs
import Offload.Json

namespace Offload.Json

/-- The value of a hexadecimal digit in lower case. -/
def hexValue (c : Char) : Nat := if c.isDigit then c.toNat - 48 else c.toNat - 87

theorem hexValue_hexDigit (value : Nat) : hexValue (hexDigit value) = value % 16 := by
  have all : ∀ digit < 16, hexValue (Nat.digitChar digit) = digit := by decide
  exact all _ (Nat.mod_lt value (by decide))

/-- What a character after a backslash stands for. -/
def escaped : Char → Char
  | 'b' => Char.ofNat 8
  | 'f' => Char.ofNat 12
  | 'n' => '\n'
  | 'r' => '\r'
  | 't' => '\t'
  | c => c

/-- The characters of a string up to its closing quote, and the text after that. -/
def readString? : List Char → Option (List Char × List Char)
  | [] => none
  | '"' :: rest => some ([], rest)
  | '\\' :: 'u' :: first :: second :: third :: fourth :: rest =>
      (readString? rest).map fun (text, after) =>
        (Char.ofNat (((hexValue first * 16 + hexValue second) * 16 + hexValue third) * 16 +
          hexValue fourth) :: text, after)
  | '\\' :: mark :: rest => (readString? rest).map fun (text, after) => (escaped mark :: text, after)
  | c :: rest => (readString? rest).map fun (text, after) => (c :: text, after)

/-- What is written for one character is read as that character. -/
theorem readString?_stringChar (c : Char) (rest : List Char) :
    readString? (stringChar c ++ rest) =
      (readString? rest).map fun (text, after) => (c :: text, after) := by
  have back : Char.ofNat c.toNat = c := Char.ofNat_toNat c
  rw [stringChar]
  split_ifs with quote backslash backspace feed newline carriage tab control
  · subst quote
    rfl
  · subst backslash
    rfl
  · rw [← back, backspace]
    rfl
  · rw [← back, feed]
    rfl
  · subst newline
    rfl
  · subst carriage
    rfl
  · subst tab
    rfl
  · -- a control without a letter of its own is written by its code in four digits
    have digits : ((0 * 16 + 0) * 16 + c.toNat / 16 % 16) * 16 + c.toNat % 16 = c.toNat := by omega
    have zero : hexValue '0' = 0 := rfl
    simp only [List.cons_append, List.nil_append, readString?, zero, hexValue_hexDigit, digits, back]
  · -- what is written as it is neither ends the string nor starts an escape
    rw [List.singleton_append, readString?]
    · exact quote
    · exact fun _ _ _ _ _ same _ => backslash same
    · exact fun _ _ same _ => backslash same

theorem string_append (text : String) (rest : List Char) :
    string text ++ rest = '"' :: (text.toList.flatMap stringChar ++ '"' :: rest) := by
  rw [string, List.append_assoc, List.cons_append, List.singleton_append]

/-- A string is read back, whatever follows it. -/
theorem readString?_string (text : String) (rest : List Char) :
    readString? (text.toList.flatMap stringChar ++ '"' :: rest) = some (text.toList, rest) := by
  induction text.toList with
  | nil => rfl
  | cons c others ih =>
      rw [List.flatMap_cons, List.append_assoc, readString?_stringChar, ih, Option.map_some]

/-- The text does not go on with a digit. -/
def EndsNumber (rest : List Char) : Prop := ∀ c ∈ rest.head?, c.isDigit = false

/-- The natural number that a text starts with, and the text after its digits. -/
def readNat (text : List Char) : Nat × List Char :=
  (Nat.ofDigitChars 10 (text.takeWhile Char.isDigit) 0, text.dropWhile Char.isDigit)

theorem isDigit_of_mem_digitsOf {number : Nat} {c : Char} (there : c ∈ Decimal.digitsOf number) :
    c.isDigit = true :=
  Nat.isDigit_of_mem_toDigits (by decide) (by decide) there

/-- A natural number is read back if no digit follows it. -/
theorem readNat_digitsOf (number : Nat) {rest : List Char} (ends : EndsNumber rest) :
    readNat (Decimal.digitsOf number ++ rest) = (number, rest) := by
  have digits : ∀ c ∈ Decimal.digitsOf number, c.isDigit = true := fun _ =>
    isDigit_of_mem_digitsOf
  have none_taken : rest.takeWhile Char.isDigit = [] ∧ rest.dropWhile Char.isDigit = rest := by
    cases rest with
    | nil => exact ⟨rfl, rfl⟩
    | cons c others =>
        have apart : c.isDigit = false := ends c rfl
        simp [apart]
  rw [readNat, List.takeWhile_append_of_pos digits, List.dropWhile_append_of_pos digits,
    none_taken.1, none_taken.2, List.append_nil, Decimal.digitsOf, Nat.ofDigitChars_ten_toDigits]

/-- The integer that a text starts with, and the text after it. -/
def readInt : List Char → Int × List Char
  | '-' :: rest => (-(readNat rest).1, (readNat rest).2)
  | text => ((readNat text).1, (readNat text).2)

/-- A number starts with a digit. -/
theorem exists_digitsOf (number : Nat) :
    ∃ digit others, Decimal.digitsOf number = digit :: others ∧ digit.isDigit = true := by
  have some_digit : Decimal.digitsOf number ≠ [] := Nat.toDigits_ne_nil
  obtain ⟨digit, others, same⟩ := List.exists_cons_of_ne_nil some_digit
  have there : digit ∈ Decimal.digitsOf number := same ▸ List.mem_cons_self
  exact ⟨digit, others, same, isDigit_of_mem_digitsOf there⟩

/-- An integer starts with a minus sign or a digit. -/
theorem exists_int (value : Int) :
    ∃ first others, int value = first :: others ∧ (first = '-' ∨ first.isDigit = true) := by
  by_cases negative : value < 0
  · exact ⟨'-', Decimal.digitsOf value.natAbs, by rw [int, if_pos negative]; rfl, .inl rfl⟩
  · obtain ⟨digit, others, same, isDigit⟩ := exists_digitsOf value.natAbs
    exact ⟨digit, others, by rw [int, if_neg negative, same]; rfl, .inr isDigit⟩

/-- An integer is read back if no digit follows it. -/
theorem readInt_int (value : Int) {rest : List Char} (ends : EndsNumber rest) :
    readInt (int value ++ rest) = (value, rest) := by
  by_cases negative : value < 0
  · have back : -(value.natAbs : Int) = value := by omega
    rw [int, if_pos negative, List.append_assoc, List.singleton_append, readInt,
      readNat_digitsOf _ ends, back]
  · have back : (value.natAbs : Int) = value := by omega
    rw [int, if_neg negative, List.nil_append, readInt, readNat_digitsOf _ ends, back]
    obtain ⟨digit, others, same, isDigit⟩ := exists_digitsOf value.natAbs
    intro after starts
    rw [same] at starts
    obtain ⟨rfl, -⟩ := List.cons.inj starts
    exact absurd isDigit (by decide)

end Offload.Json
