/-
# Option tables

A table of options keeps the kind of each value: an option that is present can only be set to a
value of the kind it has. Putting a value does not look at what is there. The JSON text of a table
lists the options by name.
-/

import Offload.Attempt
import Offload.Dict
import Offload.Double
import Offload.Json

namespace Offload

/-- The value of an option. -/
inductive OptionValue where
  | bool (value : Bool)
  | int (value : Int)
  | float (value : Double)
  | str (value : String)
  deriving DecidableEq, Repr, Inhabited

namespace OptionValue

/-- The kind of a value. -/
def kind : OptionValue → OptionKind
  | bool _ => .bool
  | int _ => .int
  | float _ => .float
  | str _ => .str

/-- The truth value, if it is one. -/
def bool? : OptionValue → Option Bool
  | bool value => some value
  | _ => none

/-- The integer, if it is one. -/
def int? : OptionValue → Option Int
  | int value => some value
  | _ => none

/-- The floating-point number, if it is one. -/
def float? : OptionValue → Option Double
  | float value => some value
  | _ => none

/-- The text, if it is one. -/
def str? : OptionValue → Option String
  | str value => some value
  | _ => none

/-- Equality of values of one kind, floating-point numbers by value. -/
def equal : OptionValue → OptionValue → Bool
  | bool left, bool right => left == right
  | int left, int right => left == right
  | float left, float right => left.equal right
  | str left, str right => left == right
  | _, _ => false

/-- A value written as JSON. -/
def json : OptionValue → List Char
  | bool value => Json.bool value
  | int value => Json.int value
  | float value => Json.double value
  | str value => Json.string value

end OptionValue

/-- Options by name. -/
abbrev OptionTable := Dict OptionValue

namespace OptionTable

/-- The value of an option that must be present. -/
def lookup (table : OptionTable) (option : String) : Result OptionValue :=
  match table.get? option with
  | some value => .ok value
  | none => .error (.invalidOption option table.keys)

/-- Give an option a value, whatever is there. -/
def put (option : String) (value : OptionValue) : Attempt OptionTable Unit :=
  modify (·.insert option value)

/-- Give a present option another value of its kind. -/
def set (option : String) (value : OptionValue) : Attempt OptionTable Unit := do
  let table ← get
  let current ← Attempt.ofResult (table.lookup option)
  if current.kind = value.kind then put option value
  else throw (.optionKindMismatch option current.kind value.kind)

/-- Declare an option that is absent, or set one that is present. -/
def createOrSet (option : String) (value : OptionValue) : Attempt OptionTable Unit := do
  let table ← get
  if table.contains option then set option value else put option value

/-- The integer under an option, zero if there is none. -/
def intAt (table : OptionTable) (option : String) : Int :=
  ((table.get? option).bind OptionValue.int?).getD 0

/-- The truth value under an option, false if there is none. -/
def boolAt (table : OptionTable) (option : String) : Bool :=
  ((table.get? option).bind OptionValue.bool?).getD false

/-- Add the options of a group to a table that has none of them. -/
def merge (table group : OptionTable) : Result OptionTable :=
  let common := group.keys.filter table.contains
  if common.isEmpty then .ok (table.insertAll group.entries)
  else .error (.optionKeyConflict common)

/-- Equality of tables: the same options with equal values. -/
def equal (left right : OptionTable) : Bool := left.agrees OptionValue.equal right

/-- The characters of the JSON object with the options as members. -/
def jsonChars (table : OptionTable) : List Char :=
  Json.object (table.entries.map fun entry => (entry.1, entry.2.json))

/-- The JSON object with the options as members. -/
def json (table : OptionTable) : String := String.ofList table.jsonChars

/-- The options for a back end that takes them as one string. A writer of JSON refuses nothing but
keys that are not texts, and there are none. -/
def toJson (table : OptionTable) : Result String := .ok table.json

end OptionTable

end Offload
