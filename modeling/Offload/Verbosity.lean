/-
# Verbosity

How much an application wants to be told, picked by a word.
-/

namespace Offload

/-- The least important notices that are shown. -/
inductive Verbosity where
  | info
  | debug
  | trace
  deriving DecidableEq, Repr, Inhabited

namespace Verbosity

/-- The name of a verbosity. -/
def name : Verbosity → String
  | info => "info"
  | debug => "debug"
  | trace => "trace"

/-- The verbosity picked by a word; without a known word, the ordinary one. -/
def ofWord : Option String → Verbosity
  | some "DEBUG" => debug
  | some "TRACE" => trace
  | some "TRACE_ALL" => trace
  | _ => info

end Verbosity

end Offload
