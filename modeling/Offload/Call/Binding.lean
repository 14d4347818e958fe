/-
# Bindings

The arguments of a call put in the order of the declared parameters. A parameter that is not
supplied takes its default; one that defaults to nothing leaves a hole, and since a captured
model takes its inputs as one flat list, nothing may be bound after a hole: later defaults are
dropped and a later argument is an error.

A change of the leaves takes the arguments out of the binding and puts the changed ones back; if
it fails, the names stay and the arguments are gone.
-/

import Offload.Call.Signature

namespace Offload

/-- Bound arguments and the names of their parameters. -/
structure Binding where
  names : List String
  arguments : List Tree
  deriving Inhabited

namespace CallArguments

/-- A keyword supplies a parameter that is supplied by position too. -/
def suppliedTwice (call : CallArguments) (signature : Signature) (name : String) : Bool :=
  match signature.position? name with
  | some position => position < call.positional.length
  | none => false

/-- The first of some keywords that repeats an earlier one, or supplies a parameter again. -/
def firstDuplicate? (call : CallArguments) (signature : Signature) (earlier : List String) :
    List (String × Tree) → Option String
  | [] => none
  | (name, _) :: later =>
      if earlier.contains name || call.suppliedTwice signature name then some name
      else call.firstDuplicate? signature (earlier ++ [name]) later

/-- The first keyword that names no parameter. -/
def firstUndeclared? (call : CallArguments) (signature : Signature) : Option String :=
  (call.keyword.find? fun entry => (signature.position? entry.1).isNone).map Prod.fst

end CallArguments

namespace Binding

/-- Bind the parameters from a position on. `holes` are the earlier parameters that defaulted to
nothing, with their positions. -/
def collect (call : CallArguments) :
    Nat → List (String × Nat) → List Parameter → Result (List (String × Tree))
  | _, _, [] => .ok []
  | position, holes, parameter :: later =>
      match call.positional[position]? with
      | some argument =>
          (collect call (position + 1) holes later).map ((parameter.name, argument) :: ·)
      | none =>
          match call.keyword? parameter.name with
          | some argument =>
              if holes.isEmpty then
                (collect call (position + 1) holes later).map ((parameter.name, argument) :: ·)
              else .error (.argumentAfterHole parameter.name holes)
          | none =>
              match parameter.default? with
              | none => .error (.missingArgument parameter.name)
              | some argument =>
                  if argument.isAbsent then
                    collect call (position + 1) (holes ++ [(parameter.name, position)]) later
                  else if holes.isEmpty then
                    (collect call (position + 1) holes later).map
                      ((parameter.name, argument) :: ·)
                  else collect call (position + 1) holes later

/-- Bind the arguments of a call to a signature. A parameter supplied twice is reported before
their number, their number before an unknown keyword, and that before what single parameters
lack. -/
def bind (signature : Signature) (call : CallArguments) : Result Binding :=
  match call.firstDuplicate? signature [] call.keyword with
  | some name => .error (.duplicateArgument name)
  | none =>
      if signature.size < call.size then
        .error (.tooManyArguments signature.names call.size)
      else
        match call.firstUndeclared? signature with
        | some name => .error (.unexpectedKeyword name)
        | none =>
            (collect call 0 [] signature.parameters).map fun bound =>
              ⟨bound.map Prod.fst, bound.map Prod.snd⟩

/-- The leaves in the order in which they are handed to compilation and execution. -/
def leaves (binding : Binding) : List Value := Tree.leavesOfItems binding.arguments

section Change

variable {σ : Type}

/-- Put arguments in place of those there are. -/
def setArguments (arguments : List Tree) : Attempt (Binding × σ) Unit :=
  modify fun state => ({ state.1 with arguments := arguments }, state.2)

/-- Change every leaf. -/
def forEach (change : Value → Attempt σ Value) : Attempt (Binding × σ) Unit := do
  let arguments := (← get).1.arguments
  setArguments []
  setArguments (← Attempt.onRest (Tree.mapItemsM change arguments))

/-- Change the selected leaves and say whether there was one. -/
def forEachMatched (selected : Value → Bool) (change : Value → Attempt σ Value) :
    Attempt (Binding × σ) Bool := do
  let arguments := (← get).1.arguments
  setArguments []
  let (changed, matched) ← Attempt.onRest
    (Attempt.withOwn false (Tree.mapItemsM (Tree.visitMatched selected change) arguments))
  setArguments changed
  return matched

/-- Change the tensors among the leaves. -/
def forEachTensor (change : Tensor → Result Tensor) : Attempt (Binding × σ) Unit :=
  forEach fun value => Attempt.ofResult (value.onTensor change)

/-- Bring every tensor into one block; say whether one was not. -/
def densify : Attempt (Binding × σ) Bool :=
  forEachMatched Value.isStrided fun value => Attempt.ofResult (value.onTensor Tensor.contiguous)

/-- Promote every tensor of reduced precision; say whether there was one. -/
def promote : Attempt (Binding × σ) Bool :=
  forEachMatched Value.isHalf fun value =>
    Attempt.ofResult (value.onTensor Tensor.toFullPrecision)

end Change

end Binding

end Offload
