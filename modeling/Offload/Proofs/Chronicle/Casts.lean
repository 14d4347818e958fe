/-
# Chains of casts

The loops of a compilation go over the layers that are promoted: they cast each of them on the
model, and again on the model and on the graph to cast them back. Each loop is told of as a chain,
in which every cast goes on from what the one before it left, and it stops at the first cast that
fails. Where casts convert whole layers, a promotion leaves no layer of reduced precision.
-/

import Offload.Proofs.Chronicle.Growth
import Offload.Proofs.Precision.Types

namespace Offload

open Attempt

/-! ## Layers that are converted as a whole -/

namespace LayerInfo

/-- Convert all parameters of some layers to a type. -/
def convert (layers : List String) (dtype : DType) (info : LayerInfo) : LayerInfo :=
  if info.name ∈ layers then { info with dtypes := info.dtypes.map fun _ => dtype } else info

/-- Converting one more layer. -/
theorem convert_append_singleton (layers : List String) (layer : String) (dtype : DType)
    (info : LayerInfo) :
    convert [layer] dtype (convert layers dtype info) = convert (layers ++ [layer]) dtype info := by
  unfold convert
  by_cases last : info.name = layer
  · subst last
    by_cases earlier : info.name ∈ layers <;> simp [earlier]
  · by_cases earlier : info.name ∈ layers <;> simp [earlier, last]

/-- Converting every layer of reduced precision to full precision leaves none. -/
theorem half?_convert_promoted {infos : List LayerInfo} {info : LayerInfo} (listed : info ∈ infos) :
    (convert (ParameterTypes.promoted infos) .f32 info).half? = none := by
  unfold convert
  split
  · rw [half?, List.find?_eq_none]
    intro dtype there
    obtain ⟨-, -, rfl⟩ := List.mem_map.mp there
    exact Bool.false_ne_true
  · next unpromoted =>
      cases half : info.half? with
      | none => rfl
      | some dtype =>
          have recorded : (info.name, dtype) ∈ ParameterTypes.record infos :=
            List.mem_filterMap.mpr ⟨info, listed, by rw [half, Option.map_some]⟩
          exact absurd (List.mem_map_of_mem recorded) unpromoted

end LayerInfo

/-- A model shows some layers whenever it is asked, and casts convert whole layers of them. -/
structure ModelInterface.Converts {World Model : Type} (interface : ModelInterface World Model)
    (shown : Model → List LayerInfo) : Prop where
  layers : ∀ model world, (interface.layers model).Ends world
    (fun infos _ => infos = shown model) fun _ _ => True
  cast : ∀ model world layer dtype, (interface.castLayer layer dtype).Ends (model, world)
    (fun _ part => shown part.1 = (shown model).map (LayerInfo.convert [layer] dtype))
    fun _ _ => True

variable {P : Platform}

/-! ## Loops of casts -/

section Casts

variable {α : Type} (cast : α → String → DType → Result Unit → α → Happening P) (first : α)

/-- Layers were cast with success, one after the other. -/
inductive Casts : List (String × DType) → α → List (Happening P) → Prop where
  | none : Casts [] first []
  | next {plan : List (String × DType)} {before : α} {told : List (Happening P)}
      (earlier : Casts plan before told) (layer : String) (dtype : DType) (after : α) :
      Casts (plan ++ [(layer, dtype)]) after (told ++ [cast before layer dtype (.ok ()) after])

/-- Layers were cast one after the other, up to one of which the cast failed. -/
inductive Breaks (plan : List (String × DType)) (cause : Error) : List (Happening P) → Prop where
  | failed {done later : List (String × DType)} {layer : String} {dtype : DType} {before : α}
      {told : List (Happening P)} (split : plan = done ++ (layer, dtype) :: later)
      (earlier : Casts cast first done before told) (after : α) :
      Breaks plan cause (told ++ [cast before layer dtype (.error cause) after])

end Casts

/-- One thing is told of each cast. -/
theorem Casts.length {α : Type} {cast : α → String → DType → Result Unit → α → Happening P}
    {first last : α} {plan : List (String × DType)} {told : List (Happening P)}
    (casts : Casts cast first plan last told) : told.length = plan.length := by
  induction casts with
  | none => rfl
  | next _ _ _ _ ih => rw [List.length_append, List.length_append, ih]; rfl

/-- A loop of casts is a chain of them, or stops at the first that fails. What is known of a way is
known of a longer one. -/
theorem ends_forM_casts {σ α : Type} {cast : α → String → DType → Result Unit → α → Happening P}
    (part : σ → α) (passed : List (Happening P) → σ → σ → Prop)
    {step : String × DType → Attempt σ PUnit} {plan : List (String × DType)} {start : σ}
    (stays : passed [] start start)
    (goes : ∀ {told told' middle reached}, passed told start middle → passed told' middle reached →
      passed (told ++ told') start reached)
    (each : ∀ layer dtype, (layer, dtype) ∈ plan → ∀ told reached, passed told start reached →
      (step (layer, dtype)).Ends reached
        (fun _ next => passed [cast (part reached) layer dtype (.ok ()) (part next)] reached next)
        fun cause next =>
          passed [cast (part reached) layer dtype (.error cause) (part next)] reached next) :
    (plan.forM step).Ends start
      (fun _ last => ∃ told, Casts cast (part start) plan (part last) told ∧ passed told start last)
      fun cause last => ∃ told, Breaks cast (part start) plan cause told ∧
        passed told start last := by
  refine ends_forM
    (fun done state => ∃ told, Casts cast (part start) done (part state) told ∧
      passed told start state) ⟨[], .none, stays⟩ ?_
  rintro earlier ⟨layer, dtype⟩ later split reached ⟨told, casts, way⟩
  apply (each layer dtype (by simp [split]) told reached way).mono
  · intro _ next step
    exact ⟨_, casts.next layer dtype _, goes way step⟩
  · intro cause next step
    exact ⟨_, .failed split casts _, goes way step⟩

namespace Executor

open Chronicled

variable {running : Running P.chronicled} (loss : running.executor.subject.LossWithin Silent)

include loss

/-- Casting the layers of the model back is a chain of casts, or stops at the first that fails. -/
theorem ends_restore_told (promotion : Promotion)
    (free : promotion.layers = [] ∨ hostFree running = true) :
    (promotion.restore (castLayer (P := P.chronicled))).Ends running
      (fun _ reached => ∃ told,
        Casts .castLayer (hostOf running) promotion.layers (hostOf reached) told ∧
          Passes told running reached)
      fun cause reached => ∃ told,
        Breaks .castLayer (hostOf running) promotion.layers cause told ∧
          Passes told running reached := by
  refine ends_forM_casts hostOf Passes (passes_refl loss) Passes.trans ?_
  intro layer dtype there told reached passes
  have free : hostFree reached = true := by
    rw [passes.free]
    exact free.resolve_left (List.ne_nil_of_mem there)
  apply (ends_castLayer_told passes.loss layer dtype).mono
  · rintro _ next ⟨-, cast, -⟩
    exact cast
  · intro cause next ended
    rwa [if_pos free] at ended

/-- Casting the layers of the graph back is a chain of casts, or stops at the first that fails. -/
theorem ends_restoreGraph_told (promotion : Promotion) (graph : P.Graph) :
    (promotion.restore fun layer dtype =>
      onGraph (P := P.chronicled) (P.chronicled.castGraphLayer layer dtype)).Ends (graph, running)
      (fun _ reached => ∃ told,
        Casts .castGraphLayer graph promotion.layers reached.1 told ∧
          Passes told running reached.2)
      fun cause reached => ∃ told, Breaks .castGraphLayer graph promotion.layers cause told ∧
        Passes told running reached.2 := by
  refine ends_forM_casts Prod.fst (fun told before reached => Passes told before.2 reached.2)
    (passes_refl loss) Passes.trans ?_
  rintro layer dtype - told ⟨graph', reached⟩ passes
  exact ends_castGraphLayer_told passes.loss graph' layer dtype

end Executor

end Offload
