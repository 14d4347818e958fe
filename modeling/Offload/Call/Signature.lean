/-
# Signatures and calls

The parameters a model declares, in order, and the arguments of one call: some by position,
some by keyword.
-/

import Offload.Tree

namespace Offload

/-- A declared parameter. Without a default it must be supplied. -/
structure Parameter where
  name : String
  default? : Option Tree
  deriving Inhabited

/-- The declared parameters of a model, in order. -/
structure Signature where
  parameters : List Parameter
  deriving Inhabited

namespace Signature

/-- The signature without parameters. -/
def empty : Signature := ⟨[]⟩

/-- The names of the parameters. -/
def names (signature : Signature) : List String := signature.parameters.map Parameter.name

/-- The number of parameters. -/
def size (signature : Signature) : Nat := signature.parameters.length

/-- The position of the first parameter of a name. -/
def position? (signature : Signature) (name : String) : Option Nat :=
  signature.parameters.findIdx? fun parameter => parameter.name == name

end Signature

/-- The arguments of one call. Keywords stand in the order given and may repeat. -/
structure CallArguments where
  positional : List Tree
  keyword : List (String × Tree)
  deriving Inhabited

namespace CallArguments

/-- The number of arguments. -/
def size (call : CallArguments) : Nat := call.positional.length + call.keyword.length

/-- The first argument given under a keyword. -/
def keyword? (call : CallArguments) (name : String) : Option Tree :=
  (call.keyword.find? fun entry => entry.1 == name).map Prod.snd

end CallArguments

end Offload
