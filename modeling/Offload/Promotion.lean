/-
# Promotion

Models are captured in full precision. Before that, layers and inputs of reduced precision are
promoted, and a record is kept of what was; afterwards the same layers are cast back, on the
captured graph and on the model. What was promoted before a failure stays in the record.
-/

import Offload.Call.Binding
import Offload.Layer
import Offload.Notice

namespace Offload

/-- What was promoted: layers with their own element types, and whether any input was. -/
structure Promotion where
  layers : List (String × DType)
  anyInput : Bool
  deriving DecidableEq, Repr, Inhabited

/-- What a promotion needs of a model: its layers, a way to cast one, and somewhere to report
to. -/
structure LayerAccess (σ : Type) where
  layers : Attempt σ (List LayerInfo)
  cast : String → DType → Attempt σ Unit
  report : Notice → Attempt σ Unit

namespace Promotion

variable {σ : Type}

/-- Nothing was promoted. -/
def none : Promotion := ⟨[], false⟩

/-- Record that a layer was promoted. -/
def remember (layer : String) (dtype : DType) : Attempt (Promotion × σ) Unit :=
  modify fun state => ({ state.1 with layers := state.1.layers ++ [(layer, dtype)] }, state.2)

/-- Promote a layer that has a parameter of reduced precision. -/
def promoteLayer (access : LayerAccess σ) (layer : LayerInfo) :
    Attempt (Promotion × σ) Unit :=
  match layer.half? with
  | .none => pure ()
  | some dtype => do
      Attempt.onRest (access.report (.promotingLayer layer.name dtype))
      Attempt.onRest (access.cast layer.name .f32)
      remember layer.name dtype

/-- Promote the layers of a model one after the other. -/
def promoteModel (access : LayerAccess σ) : Attempt (Promotion × σ) Unit := do
  (← Attempt.onRest access.layers).forM (promoteLayer access)

/-- Promote the inputs of a binding. -/
def promoteInputs : Attempt (Promotion × Binding × σ) Unit := do
  let promoted ← Attempt.onRest Binding.promote
  modify fun state => ({ state.1 with anyInput := state.1.anyInput || promoted }, state.2)

/-- Cast the promoted layers back to their own types. -/
def restore (promotion : Promotion) (cast : String → DType → Attempt σ Unit) :
    Attempt σ Unit :=
  promotion.layers.forM fun (layer, dtype) => cast layer dtype

end Promotion

end Offload
