/-
# Marks in a captured graph

While a model runs under capture it can say where things should happen on the device: which part
runs a span of layers, which value is the loss, which tensors are printed, where an operation of
the user's own goes. All of it goes to an annotator. A placement block is closed when it is ended
or dropped; dropping it cannot fail, and a failure is only reported.
-/

import Offload.Notice
import Offload.Tree

namespace Offload

/-- How a loss is reduced to a number. -/
inductive Reduction where
  | sum
  | mean
  | none
  deriving DecidableEq, Repr

namespace Reduction

/-- A loss that is a number already is not reduced; that is what is meant if nothing is said. -/
instance : Inhabited Reduction := ⟨none⟩

/-- Every reduction, by rising code. -/
def all : List Reduction := [sum, mean, none]

/-- The code of a reduction. -/
def code : Reduction → Int
  | sum => 0
  | mean => 1
  | none => 2

/-- The name of a reduction. -/
def name : Reduction → String
  | sum => "sum"
  | mean => "mean"
  | none => "none"

/-- The reduction of a name. -/
def ofName (name : String) : Result Reduction :=
  match all.find? fun reduction => reduction.name == name with
  | some reduction => .ok reduction
  | .none => .error (.unsupportedReduction name)

end Reduction

/-- An operation of the user's own. -/
structure CustomOperation where
  name : String
  domain : String
  version : Int
  deriving DecidableEq, Repr

/-- The operations of an annotator. -/
structure Annotator (σ : Type) where
  /-- Place what follows on a part of the device. -/
  beginBlock : Nat → Attempt σ Unit
  /-- Close the placement begun last. -/
  endBlock : Attempt σ Unit
  /-- Mark the loss; gives the tensor to go on with. -/
  identityLoss : Tensor → Reduction → Attempt σ Tensor
  /-- Print a tensor when the graph runs; gives the tensor to go on with. -/
  printTensor : Tensor → Attempt σ Tensor
  /-- Insert an operation. The templates tell the types and shapes of its results. -/
  customOperation : List Tensor → CustomOperation → List Tensor → Attempt σ (List Tensor)

namespace Annotator

variable {σ τ α : Type}

/-- An annotator on a part of a larger state. -/
def within (focus : Focus τ σ) (annotator : Annotator σ) : Annotator τ where
  beginBlock ipu := Attempt.within focus (annotator.beginBlock ipu)
  endBlock := Attempt.within focus annotator.endBlock
  identityLoss value reduction := Attempt.within focus (annotator.identityLoss value reduction)
  printTensor value := Attempt.within focus (annotator.printTensor value)
  customOperation inputs operation templates :=
    Attempt.within focus (annotator.customOperation inputs operation templates)

/-- Close a block that is dropped while open; a failure is reported and not raised. -/
def dropBlock (annotator : Annotator σ) (report : Notice → Attempt σ Unit) : Attempt σ Unit := do
  match ← annotator.endBlock.observe with
  | .ok () => pure ()
  | .error cause => report (.blockNotClosed cause)

/-- Run a layer on a part of the device. The block stays open, and what follows stays on that
part until the next one begins. -/
def onIpu (annotator : Annotator σ) (ipu : Nat) (layer : Attempt σ α) : Attempt σ α := do
  annotator.beginBlock ipu
  layer

/-- Insert an operation whose results look like some examples. The annotator is given new
tensors of zeros, so that no template is the same storage as an input. -/
def customOp (annotator : Annotator σ) (inputs : List Tensor) (operation : CustomOperation)
    (examples : List Tensor) : Attempt σ (List Tensor) := do
  let templates ← Attempt.ofResult (examples.mapM Tensor.zerosLike)
  annotator.customOperation inputs operation templates

end Annotator

end Offload
