/-
# Options read back from their text

The JSON text of a table lists its options by name, with nothing between them but commas. What kind
of value comes next is known from its first character, and where it ends from what it is; so the
entries are read back one by one, in their order, and tables with one text are one table. This
leaves out floating-point numbers, for which it does not hold: all that are not finite have the
same text.
-/

import Offload.Proofs.Dict
import Offload.Proofs.Json
import Offload.Proofs.Optimizer.Equality
import Offload.Options.Table

namespace Offload

/-! ## Reading -/

/-- The value that a text starts with, if it is not a floating-point number, and the text after
it. -/
def OptionValue.read? : List Char → Option (OptionValue × List Char)
  | '"' :: rest =>
      (Json.readString? rest).map fun (text, after) => (.str (String.ofList text), after)
  | 't' :: 'r' :: 'u' :: 'e' :: rest => some (.bool true, rest)
  | 'f' :: 'a' :: 'l' :: 's' :: 'e' :: rest => some (.bool false, rest)
  | text => some (.int (Json.readInt text).1, (Json.readInt text).2)

namespace OptionTable

/-- The value of an option, after its name, and the text after that. -/
def readSetting? (option : String) : List Char → Option ((String × OptionValue) × List Char)
  | ':' :: rest => (OptionValue.read? rest).map fun (value, after) => ((option, value), after)
  | _ => none

/-- The option that a text starts with, and the text after it. -/
def readMember? : List Char → Option ((String × OptionValue) × List Char)
  | '"' :: rest =>
      (Json.readString? rest).bind fun (text, after) => readSetting? (String.ofList text) after
  | _ => none

/-- Options up to the closing brace at the end, at most so many, with a comma before each. -/
def readMembers? : Nat → List Char → Option (List (String × OptionValue))
  | _, ['\x7d'] => some []
  | bound + 1, ',' :: rest =>
      (readMember? rest).bind fun (entry, after) => (readMembers? bound after).map (entry :: ·)
  | _, _ => none

/-- The entries of the object that a text is. No text has more options than characters. -/
def readObject? : List Char → Option (List (String × OptionValue))
  | ['\x7b', '\x7d'] => some []
  | '\x7b' :: rest => readMembers? rest.length (',' :: rest)
  | _ => none

/-- No option is a floating-point number. -/
def FloatFree (table : OptionTable) : Prop := ∀ entry ∈ table.entries, entry.2.kind ≠ .float

instance (table : OptionTable) : Decidable table.FloatFree := by
  unfold FloatFree
  infer_instance

end OptionTable

/-! ## What is read back -/

variable {rest : List Char}

/-- A value is read back if no digit follows it. -/
theorem OptionValue.read?_json {value : OptionValue} (whole : value.kind ≠ .float)
    (ends : Json.EndsNumber rest) : read? (value.json ++ rest) = some (value, rest) := by
  cases value with
  | bool value => cases value <;> rfl
  | int value =>
      obtain ⟨first, others, same, starts⟩ := Json.exists_int value
      rw [json, read?, Json.readInt_int value ends]
      all_goals
        intro after starts'
        rw [same] at starts'
        obtain ⟨rfl, -⟩ := List.cons.inj starts'
        exact absurd starts (by decide)
  | float value => exact absurd rfl whole
  | str value =>
      rw [json, Json.string_append, read?, Json.readString?_string, Option.map_some]
      dsimp only
      rw [String.ofList_toList]

namespace OptionTable

theorem readMember?_member (option : String) {value : OptionValue} (whole : value.kind ≠ .float)
    (ends : Json.EndsNumber rest) :
    readMember? (Json.member option value.json ++ rest) = some ((option, value), rest) := by
  have written : Json.member option value.json ++ rest =
      '"' :: (option.toList.flatMap Json.stringChar ++ '"' :: ':' :: (value.json ++ rest)) := by
    rw [Json.member, List.append_assoc, List.cons_append, Json.string_append]
  rw [written, readMember?, Json.readString?_string, Option.bind_some]
  dsimp only
  rw [readSetting?, OptionValue.read?_json whole ends, Option.map_some, String.ofList_toList]

/-- The text of an option with a comma before it. -/
def further (entry : String × OptionValue) : List Char := ',' :: Json.member entry.1 entry.2.json

/-- What follows a value in an object is a comma or the closing brace. -/
theorem endsNumber_further (entries : List (String × OptionValue)) :
    Json.EndsNumber (entries.flatMap further ++ ['\x7d']) := by
  cases entries with
  | nil =>
      rintro _ ⟨⟩
      rfl
  | cons entry others =>
      rintro _ ⟨⟩
      rfl

/-- Members are read back in their order. -/
theorem readMembers?_further {entries : List (String × OptionValue)}
    (whole : ∀ entry ∈ entries, entry.2.kind ≠ .float) {bound : Nat}
    (enough : entries.length ≤ bound) :
    readMembers? bound (entries.flatMap further ++ ['\x7d']) = some entries := by
  induction entries generalizing bound with
  | nil => cases bound <;> rfl
  | cons entry others ih =>
      obtain ⟨first, whole⟩ := List.forall_mem_cons.mp whole
      cases bound with
      | zero => cases enough
      | succ bound =>
          rw [List.flatMap_cons, further, List.append_assoc, List.cons_append, readMembers?,
            readMember?_member _ first (endsNumber_further others), Option.bind_some]
          dsimp only
          rw [ih whole (Nat.le_of_succ_le_succ enough), Option.map_some]

/-- Members that follow each other are told apart by commas. -/
theorem comma_commaSeparated (first : String × OptionValue) (others : List (String × OptionValue)) :
    ',' :: Json.commaSeparated ((first :: others).map fun entry =>
      Json.member entry.1 entry.2.json) = (first :: others).flatMap further := by
  induction others generalizing first with
  | nil => simp [Json.commaSeparated, further]
  | cons second others ih =>
      rw [List.flatMap_cons, ← ih]
      rfl

theorem length_le_further (entries : List (String × OptionValue)) :
    entries.length ≤ (entries.flatMap further).length := by
  induction entries with
  | nil => exact Nat.le_refl 0
  | cons entry others ih =>
      rw [List.flatMap_cons, List.length_append, further, List.length_cons, List.length_cons]
      omega

/-- The text of a table gives back its entries in their order. -/
theorem readObject?_jsonChars {table : OptionTable} (whole : table.FloatFree) :
    readObject? table.jsonChars = some table.entries := by
  have written : table.jsonChars = '\x7b' :: (Json.commaSeparated (table.entries.map fun entry =>
      Json.member entry.1 entry.2.json) ++ ['\x7d']) := by
    rw [jsonChars, Json.object, List.map_map, List.cons_append]
    rfl
  rw [written]
  cases entries : table.entries with
  | nil => rfl
  | cons first others =>
      have separated := comma_commaSeparated first others
      have enough := length_le_further (first :: others)
      rw [← separated] at enough
      rw [readObject?, ← List.cons_append, separated, readMembers?_further]
      · exact entries ▸ whole
      · simpa using enough
      · intro closed
        rw [List.append_left_eq_self] at closed
        rw [closed] at separated
        cases separated

end OptionTable

/-! ## What is told apart -/

/-- Values that are no floating-point numbers are equal only if they are the same. -/
theorem OptionValue.equal_iff {value : OptionValue} (whole : value.kind ≠ .float)
    (other : OptionValue) : value.equal other = true ↔ value = other := by
  cases value with
  | float value => exact absurd rfl whole
  | bool | int | str => cases other <;> simp [equal]

namespace OptionTable

variable {left right : OptionTable}

/-- Tables without floating-point numbers are equal only if they are the same. -/
theorem equal_iff (whole : left.FloatFree) : left.equal right = true ↔ left = right := by
  rw [equal, Dict.agrees_iff]
  constructor
  · intro agree
    have same := ((List.forall₂_and_left _ _).mpr ⟨whole, agree⟩).imp
      fun entry entry' ⟨whole, option, equal⟩ =>
        show entry = entry' from Prod.ext option ((OptionValue.equal_iff whole _).mp equal)
    rw [List.forall₂_eq_eq_eq] at same
    exact Dict.eq_of_entries same
  · rintro rfl
    exact List.forall₂_same.mpr fun entry there =>
      ⟨rfl, (OptionValue.equal_iff (whole entry there) _).mpr rfl⟩

/-- The table is written as a text that gives back its entries. -/
structure WrittenAs (table : OptionTable) (text : String) : Prop where
  written : table.toJson = .ok text
  read : readObject? text.toList = some table.entries

theorem writtenAs_json {table : OptionTable} (whole : table.FloatFree) :
    table.WrittenAs table.json where
  written := rfl
  read := by rw [json, String.toList_ofList, readObject?_jsonChars whole]

/-- A text is that of one table only. -/
theorem WrittenAs.unique {text : String} (written : left.WrittenAs text)
    (written' : right.WrittenAs text) : left = right :=
  Dict.eq_of_entries (Option.some.inj (written.read.symm.trans written'.read))

/-- Tables without floating-point numbers can be written, and their texts are the same exactly if
they give the same for every option. -/
theorem json_identifies_options (whole : left.FloatFree) (whole' : right.FloatFree) :
    ∃ text text', left.WrittenAs text ∧ right.WrittenAs text' ∧
      (text = text' ↔ ∀ option, left.get? option = right.get? option) ∧
      (text = text' ↔ left.equal right = true) := by
  have written := writtenAs_json whole
  have written' := writtenAs_json whole'
  have told_apart : left.json = right.json ↔ left = right := by
    constructor
    · intro same
      rw [same] at written
      exact written.unique written'
    · exact congrArg json
  refine ⟨left.json, right.json, written, written', ?_, ?_⟩
  · rw [told_apart]
    exact ⟨fun same _ => by rw [same], Dict.eq_of_get?⟩
  · rw [told_apart, equal_iff whole]

/-- An option whose text is that of two, but for what is escaped in it, and an integer. -/
def quotedPair : OptionTable :=
  Dict.ofList [("a", .str "1\",\"b\":true"), ("\u00e9\u0001", .int (-10))]

/-- The two options, and a text that looks like the integer. -/
def plainPair : OptionTable :=
  Dict.ofList [("a", .str "1"), ("b", .bool true), ("\u00e9\u0001", .str "-10")]

theorem quotedPair_identified :
    quotedPair.FloatFree ∧ plainPair.FloatFree ∧ quotedPair.json ≠ plainPair.json ∧
      ∃ text text', quotedPair.WrittenAs text ∧ plainPair.WrittenAs text' ∧
        (text = text' ↔ ∀ option, quotedPair.get? option = plainPair.get? option) ∧
        (text = text' ↔ quotedPair.equal plainPair = true) :=
  ⟨by decide, by decide, by decide, json_identifies_options (by decide) (by decide)⟩

/-- Infinities of either sign are written as null. -/
example : json (Dict.ofList [("x", .float ⟨0x7ff0000000000000⟩)]) =
    json (Dict.ofList [("x", .float ⟨0xfff0000000000000⟩)]) := by decide

end OptionTable

end Offload
