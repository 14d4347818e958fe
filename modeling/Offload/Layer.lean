/-
# Layers

The parameters of a model are named by dotted paths. Those whose paths agree up to the last dot
form a layer, which is cast between precisions as a whole.
-/

import Offload.Dict
import Offload.Tensor.Basic

namespace Offload

/-- A named parameter of a model. -/
abbrev NamedParameter := String × Tensor

/-- The name of a layer and the element types of its parameters. -/
structure LayerInfo where
  name : String
  dtypes : List DType
  deriving DecidableEq, Repr, Inhabited

namespace LayerInfo

/-- The reduced-precision type of a layer: that of its first parameter that has one. -/
def half? (layer : LayerInfo) : Option DType := layer.dtypes.find? DType.isHalf

/-- The layer a path belongs to: what stands before the last dot, nothing if there is none. -/
def nameOfPath (path : String) : String :=
  match path.toList.reverse.dropWhile (· != '.') with
  | [] => ""
  | _ :: owner => String.ofList owner.reverse

/-- Add a parameter to its layer. -/
def addTo (layers : Dict (List DType)) (parameter : NamedParameter) : Dict (List DType) :=
  let name := nameOfPath parameter.1
  layers.insert name ((layers.get? name).getD [] ++ [parameter.2.dtype])

/-- The layers of some parameters, by name; within a layer the parameters keep their order. -/
def ofParameters (parameters : List NamedParameter) : List LayerInfo :=
  (parameters.foldl addTo Dict.empty).entries.map fun (name, dtypes) => ⟨name, dtypes⟩

end LayerInfo

end Offload
