/-
# Kinds of option values

An option keeps the kind of its first value for life; a mismatch is reported by the names of
the two kinds.
-/

namespace Offload

/-- The kind of an option value. -/
inductive OptionKind where
  | bool
  | int
  | float
  | str
  deriving DecidableEq, Repr, Inhabited

/-- The name a kind has in messages. -/
def OptionKind.name : OptionKind → String
  | bool => "bool"
  | int => "int"
  | float => "float"
  | str => "str"

end Offload
