/-
# Argument trees

The arguments of a call are not a flat list of tensors: they may be sequences and mappings of
arguments, with plain values among them. A tree keeps these containers. Its leaves have an
order, from left to right, in which they are visited, changed and handed on.
-/

import Offload.Attempt
import Offload.Double
import Offload.Tensor.Basic

namespace Offload

/-- A leaf of an argument. -/
inductive Value where
  /-- Nothing was given. -/
  | none
  | bool (value : Bool)
  | int (value : Int)
  | float (value : Double)
  | str (value : String)
  | tensor (value : Tensor)
  deriving Inhabited

namespace Value

/-- The name of a leaf's kind. -/
def kind : Value → String
  | none => "none"
  | bool _ => "bool"
  | int _ => "int"
  | float _ => "float"
  | str _ => "str"
  | tensor _ => "tensor"

/-- The tensor a leaf holds. -/
def tensor? : Value → Option Tensor
  | tensor value => some value
  | _ => Option.none

/-- The leaf holds nothing. -/
def isNone : Value → Bool
  | none => true
  | _ => false

/-- The leaf is a tensor whose elements are not in one block. -/
def isStrided : Value → Bool
  | tensor value => !value.isContiguous
  | _ => false

/-- The leaf is a tensor of reduced precision. -/
def isHalf : Value → Bool
  | tensor value => value.dtype.isHalf
  | _ => false

/-- Change the tensor a leaf holds; other leaves stay. -/
def onTensor (change : Tensor → Result Tensor) : Value → Result Value
  | tensor value => (change value).map tensor
  | other => .ok other

/-- Equality of leaves: numbers as numbers, tensors by their logical elements. -/
def equal : Value → Value → Result Bool
  | none, none => .ok true
  | bool left, bool right => .ok (left == right)
  | int left, int right => .ok (left == right)
  | float left, float right => .ok (left.equal right)
  | str left, str right => .ok (left == right)
  | tensor left, tensor right => left.equal right
  | _, _ => .ok false

end Value

/-- An argument: a leaf, or a container of arguments. Keys of a mapping stand in the order
given and may repeat. -/
inductive Tree where
  | leaf (value : Value)
  | sequence (items : List Tree)
  | mapping (entries : List (String × Tree))
  deriving Inhabited

namespace Tree

/-- The argument that holds nothing. -/
def absent : Tree := .leaf .none

/-- The argument is a bare leaf that holds nothing. -/
def isAbsent : Tree → Bool
  | .leaf value => value.isNone
  | _ => false

/-- The leaf, if the argument is one. -/
def leaf? : Tree → Option Value
  | .leaf value => some value
  | _ => none

/-- The tensor, if the argument is a leaf that holds one. -/
def tensor? (tree : Tree) : Option Tensor := tree.leaf?.bind Value.tensor?

/-- The first entry of a mapping under a key. -/
def get? (tree : Tree) (key : String) : Option Tree :=
  match tree with
  | .mapping entries => (entries.find? fun entry => entry.1 == key).map Prod.snd
  | _ => none

section Traversal

variable {m : Type → Type} [Monad m]

mutual

/-- Visit every leaf from left to right and put what the visit gives in its place. -/
def mapM (visit : Value → m Value) : Tree → m Tree
  | .leaf value => do return .leaf (← visit value)
  | .sequence items => do return .sequence (← mapItemsM visit items)
  | .mapping entries => do return .mapping (← mapEntriesM visit entries)

/-- Visit the leaves of the items of a sequence. -/
def mapItemsM (visit : Value → m Value) : List Tree → m (List Tree)
  | [] => pure []
  | item :: items => do
      let first ← mapM visit item
      let others ← mapItemsM visit items
      return first :: others

/-- Visit the leaves of the entries of a mapping; the keys stay. -/
def mapEntriesM (visit : Value → m Value) : List (String × Tree) → m (List (String × Tree))
  | [] => pure []
  | (key, item) :: entries => do
      let first ← mapM visit item
      let others ← mapEntriesM visit entries
      return (key, first) :: others

end

end Traversal

mutual

/-- The leaves from left to right. -/
def leaves : Tree → List Value
  | .leaf value => [value]
  | .sequence items => leavesOfItems items
  | .mapping entries => leavesOfEntries entries

/-- The leaves of several arguments in a row. -/
def leavesOfItems : List Tree → List Value
  | [] => []
  | item :: items => leaves item ++ leavesOfItems items

/-- The leaves of the entries of a mapping. -/
def leavesOfEntries : List (String × Tree) → List Value
  | [] => []
  | (_, item) :: entries => leaves item ++ leavesOfEntries entries

end

/-- The tensors among the leaves. -/
def tensors (tree : Tree) : List Tensor := tree.leaves.filterMap Value.tensor?

mutual

/-- Equality of containers, keys and leaves, compared from left to right up to the first
difference. -/
def equal : Tree → Tree → Result Bool
  | .leaf left, .leaf right => left.equal right
  | .sequence left, .sequence right =>
      if left.length = right.length then itemsEqual left right else .ok false
  | .mapping left, .mapping right =>
      if left.length = right.length then entriesEqual left right else .ok false
  | _, _ => .ok false

/-- Equality of the items of two sequences of one length. -/
def itemsEqual : List Tree → List Tree → Result Bool
  | left :: lefts, right :: rights => do
      if ← equal left right then itemsEqual lefts rights else return false
  | _, _ => .ok true

/-- Equality of the entries of two mappings of one size. -/
def entriesEqual : List (String × Tree) → List (String × Tree) → Result Bool
  | (leftKey, left) :: lefts, (rightKey, right) :: rights => do
      if leftKey ≠ rightKey then return false
      if ← equal left right then entriesEqual lefts rights else return false
  | _, _ => .ok true

end

section Matched

variable {σ : Type}

/-- One leaf of a selective visit: a leaf that is selected raises the flag and is changed. -/
def visitMatched (selected : Value → Bool) (change : Value → Attempt σ Value) (value : Value) :
    Attempt (Bool × σ) Value := do
  if selected value then
    modify fun state => (true, state.2)
    Attempt.onRest (change value)
  else
    return value

/-- Change the selected leaves. The flag says whether a leaf was selected; once raised it stays,
also when a change fails. -/
def mapMatched (selected : Value → Bool) (change : Value → Attempt σ Value) (tree : Tree) :
    Attempt (Bool × σ) Tree :=
  tree.mapM (visitMatched selected change)

end Matched

end Tree

end Offload
