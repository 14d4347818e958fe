/-
# Platforms that cannot be told apart

Two platforms that do the same, as far as an executor can tell: their worlds, models, graphs,
executables, hooks and losses are related in some way, and every operation on related things, with
inputs that are alike, comes to ends that agree. Nothing is said of how a capture goes; it may be held
with any answers that are alike, and comes to graphs that are related.
-/

import Offload.Platform.Basic
import Offload.Executor.Subject
import Offload.Proofs.Simulation.Bindings

namespace Offload

open Attempt

/-! ## What is handed over -/

/-- Two parameters have the same path and related values. -/
structure NamedParameter.Relates (rel : Tensor → Tensor → Prop)
    (parameter other : NamedParameter) : Prop where
  path : parameter.1 = other.1
  value : rel parameter.2 other.2

theorem NamedParameter.Relates.eq {parameter other : NamedParameter}
    (related : parameter.Relates Eq other) : parameter = other :=
  Prod.ext related.path related.value

/-- Two graphs are compiled with related inputs, and with the same options. -/
structure CompileRequest.Relates (rel : Value → Value → Prop) (request other : CompileRequest) :
    Prop where
  inputs : List.Forall₂ rel request.inputs other.inputs
  options : request.options = other.options
  training : request.training = other.training
  optimizer : request.optimizer = other.optimizer

theorem CompileRequest.Relates.eq {request other : CompileRequest}
    (related : request.Relates (Value.Relates Eq) other) : request = other := by
  obtain ⟨inputs, options, training, optimizer⟩ := request
  obtain ⟨inputs', options', training', optimizer'⟩ := other
  obtain ⟨same, rfl, rfl, rfl⟩ := related
  obtain rfl := List.forall₂_eq_eq_eq ▸ same.imp fun _ _ => Value.Relates.eq
  rfl

/-- The outputs are of the same kind, and their results are related. -/
inductive Output.Relates (rel : Value → Value → Prop) : Output → Output → Prop where
  | single {result result' : Tree} (related : result.Aligned rel result') :
      Relates rel (.single result) (.single result')
  | many {results results' : List Tree} (related : Tree.AlignedItems rel results results') :
      Relates rel (.many results) (.many results')
  | notExecuted : Relates rel .notExecuted .notExecuted

theorem Output.relates_ofResults {rel : Value → Value → Prop} {results results' : List Tree}
    (related : Tree.AlignedItems rel results results') :
    Output.Relates rel (.ofResults results) (.ofResults results') :=
  match results, results', related with
  | [], [], related => .many related
  | [_], [_], ⟨related, _⟩ => .single related
  | _ :: _ :: _, _ :: _ :: _, related => .many related

theorem Output.Relates.eq {output output' : Output}
    (related : output.Relates (Value.Relates Eq) output') : output = output' := by
  cases related with
  | single related => rw [related.eq fun _ _ => Value.Relates.eq]
  | many related => rw [related.eq fun _ _ => Value.Relates.eq]
  | notExecuted => rfl

/-- Samples of related inputs are related. -/
theorem Tree.AlignedItems.samples {rel : Tensor → Tensor → Prop} : ∀ {items items' : List Tree},
    Tree.AlignedItems (Value.Relates rel) items items' →
      List.Forall₂ (Option.Rel rel) (items.map Tree.tensor?) (items'.map Tree.tensor?)
  | [], [], _ => .nil
  | .leaf _ :: _, .leaf _ :: _, ⟨related, others⟩ => .cons related.tensor? (samples others)
  | .sequence _ :: _, .sequence _ :: _, ⟨_, others⟩ => .cons .none (samples others)
  | .mapping _ :: _, .mapping _ :: _, ⟨_, others⟩ => .cons .none (samples others)

/-! ## Dialogues -/

section Dialogue

variable {World World' α α' σ σ' : Type}

/-- Two ways to answer that agree from related states, in which the worlds are related. -/
structure ModelAnswers.Alike (like : Likeness) (worlds : World → World' → Prop)
    (states : σ → σ' → Prop) (focus : Focus σ World) (focus' : Focus σ' World')
    (answers : ModelAnswers σ) (answers' : ModelAnswers σ') : Prop where
  signature : ∀ state state', states state state' →
    answers.signature state = answers'.signature state'
  layers : answers.layers.Alike Eq states answers'.layers
  parameters : answers.parameters.Alike (List.Forall₂ (NamedParameter.Relates like.outer)) states
    answers'.parameters
  forward : ∀ inputs inputs', Tree.AlignedItems like.Handed inputs inputs' →
    (answers.forward inputs).Alike (Tree.Aligned like.Handed) states (answers'.forward inputs')
  looks : ∀ state state', states state state' → worlds (focus.get state) (focus'.get state')
  moves : ∀ state state' world world', states state state' → worlds world world' →
    states (focus.set world state) (focus'.set world' state')
  rests : ∀ state', focus'.set (focus'.get state') state' = state'

/-- Held with answers that agree, two dialogues come to ends that agree. -/
def Capture.Alike (like : Likeness) (worlds : World → World' → Prop) (values : α → α' → Prop)
    (dialogue : Capture World α) (dialogue' : Capture World' α') : Prop :=
  ∀ ⦃σ σ' : Type⦄ ⦃states : σ → σ' → Prop⦄ ⦃focus : Focus σ World⦄ ⦃focus' : Focus σ' World'⦄
    ⦃answers : ModelAnswers σ⦄ ⦃answers' : ModelAnswers σ'⦄,
    answers.Alike like worlds states focus focus' answers' →
      (dialogue.run answers focus).Alike values states (dialogue'.run answers' focus')

end Dialogue

/-! ## Platforms -/

/-- Two platforms that an executor cannot tell apart, and what is related then. -/
structure Simulation (like : Likeness) (P Q : Platform) where
  worlds : P.World → Q.World → Prop
  models : P.Model → Q.Model → Prop
  graphs : P.Graph → Q.Graph → Prop
  executables : P.Executable → Q.Executable → Prop
  hooks : P.Hook → Q.Hook → Prop
  results : Tensor → Tensor → Prop
  losses : Loss P → Loss Q → Prop
  signature : ∀ {model model'}, models model model' →
    P.model.signature model = Q.model.signature model'
  forward : ∀ {model model' inputs inputs'}, models model model' →
    Tree.AlignedItems like.Handed inputs inputs' →
      (P.model.forward model inputs).Alike (Tree.Aligned like.Handed) worlds
        (Q.model.forward model' inputs')
  parameters : ∀ {model model'}, models model model' →
    (P.model.parameters model).Alike (List.Forall₂ (NamedParameter.Relates like.outer)) worlds
      (Q.model.parameters model')
  layers : ∀ {model model'}, models model model' →
    (P.model.layers model).Alike Eq worlds (Q.model.layers model')
  castLayer : ∀ layer dtype,
    (P.model.castLayer layer dtype).Alike Eq (Both models worlds) (Q.model.castLayer layer dtype)
  trace : ∀ {inputs inputs'}, Tree.AlignedItems like.Handed inputs inputs' →
    (P.trace inputs).Alike like worlds graphs (Q.trace inputs')
  script : P.script.Alike like worlds graphs Q.script
  inputCount : ∀ {graph graph'}, graphs graph graph' → P.inputCount graph = Q.inputCount graph'
  inferInput : ∀ position {sample sample'}, like.outer sample sample' →
    (P.inferInput position sample).Alike Eq (Both graphs worlds) (Q.inferInput position sample')
  castGraphLayer : ∀ layer dtype,
    (P.castGraphLayer layer dtype).Alike Eq (Both graphs worlds) (Q.castGraphLayer layer dtype)
  compileTraced : ∀ {graph graph' request request'}, graphs graph graph' →
    CompileRequest.Relates like.Handed request request' →
      (P.compileTraced graph request).Alike executables worlds (Q.compileTraced graph' request')
  compileScripted : ∀ {graph graph' request request'}, graphs graph graph' →
    CompileRequest.Relates like.Handed request request' →
      (P.compileScripted graph request).Alike executables worlds
        (Q.compileScripted graph' request')
  execute : ∀ {executable executable' inputs inputs'}, executables executable executable' →
    List.Forall₂ like.Handed inputs inputs' → ∀ optimizer,
      (P.execute executable inputs optimizer).Alike (Tree.AlignedItems (Value.Relates results)) worlds
        (Q.execute executable' inputs' optimizer)
  copyToHost : ∀ {executable executable'}, executables executable executable' →
    (P.copyToHost executable).Alike Eq worlds (Q.copyToHost executable')
  copyToDevice : ∀ {executable executable'}, executables executable executable' →
    (P.copyToDevice executable).Alike Eq worlds (Q.copyToDevice executable')
  refresh : ∀ {hook hook'}, hooks hook hook' → (P.refresh hook).Alike Eq worlds (Q.refresh hook')
  loss : ∀ {loss loss'}, losses loss loss' → ∀ {output output' target target'},
    Tree.Aligned like.Handed output output' → Tree.Aligned like.Handed target target' →
      (loss output target).Alike (Tree.Aligned like.Handed) worlds (loss' output' target')

namespace Simulation

variable {like : Likeness} {P Q : Platform} (sim : Simulation like P Q)

/-- Graphs are told alike of samples that are related. The induction is on the samples. -/
theorem alike_annotateInputs (count : Nat) {samples samples' : List (Option Tensor)}
    (related : List.Forall₂ (Option.Rel like.outer) samples samples') :
    ∀ position, (P.annotateInputs count position samples).Alike Eq (Both sim.graphs sim.worlds)
      (Q.annotateInputs count position samples') := by
  induction related with
  | nil => exact fun _ => alike_pure rfl
  | cons first _ ih =>
      intro position
      cases first with
      | none => exact ih (position + 1)
      | some sample =>
          exact alike_ite
            (alike_bind_eq (sim.inferInput position sample) fun _ => ih (position + 1))
            (ih (position + 1))

end Simulation

end Offload
