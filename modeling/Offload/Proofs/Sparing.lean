/-
# Causes that are never given

`Spares` says of a platform, or of one thing that is asked of it, that a certain cause is never the
cause of its failures. A capture spares a cause if it does not make it up: it may pass on what its
questions failed for, as long as they spare the cause themselves. What the library computes on its
own fails for causes of a few sorts and spares all others, among them the cause that an executor has
no executable; only using an executable that is not there fails for that.
-/

import Offload.Proofs.Executor.Views
import Offload.Proofs.Journal.Growth

namespace Offload

open Attempt

section Capture

variable {World α σ : Type}

/-- The dialogue does not make up the cause. -/
def Capture.Spares (spared : Error) : Capture World α → Prop
  | .done outcome => outcome ≠ .error spared
  | .look next => ∀ world, (next world).Spares spared
  | .leave _ next => next.Spares spared
  | .signature next => ∀ answer, (next answer).Spares spared
  | .layers next => ∀ answer, answer ≠ .error spared → (next answer).Spares spared
  | .parameters next => ∀ answer, answer ≠ .error spared → (next answer).Spares spared
  | .forward _ next => ∀ answer, answer ≠ .error spared → (next answer).Spares spared

variable {rel : σ → σ → Prop} [IsPreorder σ rel] {condition : σ → Prop}
  {kept : ∀ {before reached}, rel before reached → condition before → condition reached}
  {spared : Error} {answers : ModelAnswers σ} {focus : Focus σ (Journaled World)}
  {operation : Operation}

/-- A capture that is written down stays within what its parts stay within, and it spares a cause
that it does not make up and its questions spare. The induction is on the dialogue, from the state
in which it began. -/
theorem Capture.abides_journaled (layers : answers.layers.Abides (.barring rel condition kept spared))
    (parameters : answers.parameters.Abides (.barring rel condition kept spared))
    (forward : ∀ inputs, (answers.forward inputs).Abides (.barring rel condition kept spared))
    (moves : ∀ state world, rel state (focus.set { focus.get state with world := world } state))
    (written : ∀ state succeeded,
      rel state (focus.set ((focus.get state).write operation succeeded) state))
    (dialogue : Capture World α) (spares : ∀ state, condition state → dialogue.Spares spared) :
    ((dialogue.journaled operation).run answers focus).Abides
      (.barring rel condition kept spared) := by
  intro origin
  have goes (dialogue : Capture World α) (state : σ) (within : rel origin state)
      (spares : condition origin → dialogue.Spares spared) :
      ((dialogue.journaled operation).run answers focus).Ends state
        (fun _ reached => rel origin reached)
        fun cause reached => rel origin reached ∧ (condition origin → cause ≠ spared) := by
    have asks {β : Type} {question : Attempt σ β}
        (abides : question.Abides (.barring rel condition kept spared))
        {next : Result β → Capture World α}
        (ih : ∀ answer state, rel origin state → (condition origin → (next answer).Spares spared) →
          (((next answer).journaled operation).run answers focus).Ends state
            (fun _ reached => rel origin reached)
            fun cause reached => rel origin reached ∧ (condition origin → cause ≠ spared))
        (state : σ) (within : rel origin state)
        (spares : condition origin → ∀ answer, answer ≠ .error spared →
          (next answer).Spares spared) :
        (do ((next (← question.observe)).journaled operation).run answers focus).Ends state
          (fun _ reached => rel origin reached)
          fun cause reached => rel origin reached ∧ (condition origin → cause ≠ spared) :=
      ends_bind_observe abides within fun outcome reached _ within failing =>
        ih outcome reached within fun holds => spares holds outcome fun same =>
          (failing spared same).2 holds rfl
    induction dialogue generalizing state with
    | done outcome =>
        have within := trans_of rel within (written state (Journaled.succeeds outcome))
        exact ends_ofResult (fun _ _ => within) fun cause same =>
          ⟨within, fun holds failed => spares holds (by rw [same, failed])⟩
    | look next ih => exact ih (focus.get state).world state within fun holds => spares holds _
    | leave world next ih =>
        exact ih _ (trans_of rel within (moves state world)) spares
    | signature next ih =>
        exact ih (answers.signature state) state within fun holds => spares holds _
    | layers next ih => exact asks layers ih state within spares
    | parameters next ih => exact asks parameters ih state within spares
    | forward inputs next ih => exact asks (forward inputs) ih state within spares
  exact goes dialogue origin (refl_of rel origin) (spares origin)

end Capture

/-- Nothing that is asked of the platform to compile or to execute fails for the cause. -/
structure Platform.Spares (P : Platform) (spared : Error) : Prop where
  forward : ∀ model inputs, (P.model.forward model inputs).Abides (.sparing spared)
  parameters : ∀ model, (P.model.parameters model).Abides (.sparing spared)
  layers : ∀ model, (P.model.layers model).Abides (.sparing spared)
  castLayer : ∀ layer dtype, (P.model.castLayer layer dtype).Abides (.sparing spared)
  trace : ∀ inputs, (P.trace inputs).Spares spared
  script : P.script.Spares spared
  inferInput : ∀ position sample, (P.inferInput position sample).Abides (.sparing spared)
  castGraphLayer : ∀ layer dtype, (P.castGraphLayer layer dtype).Abides (.sparing spared)
  compileTraced : ∀ graph request, (P.compileTraced graph request).Abides (.sparing spared)
  compileScripted : ∀ graph request, (P.compileScripted graph request).Abides (.sparing spared)
  execute : ∀ executable inputs optimizer,
    (P.execute executable inputs optimizer).Abides (.sparing spared)
  copyToHost : ∀ executable, (P.copyToHost executable).Abides (.sparing spared)
  copyToDevice : ∀ executable, (P.copyToDevice executable).Abides (.sparing spared)
  refresh : ∀ hook, (P.refresh hook).Abides (.sparing spared)

/-- The loss of the subject, if it has one, does not fail for the cause. -/
def Subject.Spares {P : Platform} (spared : Error) (subject : Subject P) : Prop :=
  ∀ loss, subject.loss? = some loss →
    ∀ output target, (loss output target).Abides (.sparing spared)

section Computed

variable {α β : Type} {spared : Error}

theorem map_spares {outcome : Result α} {change : α → β} (spares : outcome ≠ .error spared) :
    outcome.map change ≠ .error spared := by
  cases outcome with
  | ok value => exact nofun
  | error cause => exact fun same => spares (congrArg Except.error (Except.error.inj same))

theorem bind_spares {outcome : Result α} {next : α → Result β} (spares : outcome ≠ .error spared)
    (rest : ∀ value, next value ≠ .error spared) : (outcome >>= next) ≠ .error spared := by
  cases outcome with
  | ok value => exact rest value
  | error cause => exact fun same => spares (congrArg Except.error (Except.error.inj same))

theorem mapM_spares {next : α → Result β} (each : ∀ value, next value ≠ .error spared)
    (values : List α) : values.mapM next ≠ .error spared := by
  induction values with
  | nil => exact nofun
  | cons value others ih =>
      rw [List.mapM_cons]
      exact bind_spares (each value) fun _ => bind_spares ih fun _ => nofun

/-- The outcome of a step without state spares what the step spares. -/
theorem outcome_spares {step : Attempt Unit α} (abides : step.Abides (.sparing spared)) :
    step.outcome ≠ .error spared := by
  have ends := abides ()
  unfold outcome
  unfold Ends at ends
  generalize step.perform () = ended at *
  obtain ⟨outcome | value, reached⟩ := ended
  · exact fun same => ends (Except.error.inj same)
  · exact nofun

theorem ofResult_spares {σ : Type} {outcome : Result α} (spares : outcome ≠ .error spared) :
    (ofResult outcome : Attempt σ α).Abides (.sparing spared) :=
  abides_ofResult fun _ same _ barred => spares (by rw [same, barred])

/-- What failed before is passed on. -/
theorem error_spares {outcome : Result α} {cause : Error} (spares : outcome ≠ .error spared)
    (failed : outcome = .error cause) : (.error cause : Result β) ≠ .error spared :=
  fun same => spares (failed.trans (congrArg Except.error (Except.error.inj same)))

theorem onTensor_spares {change : Tensor → Result Tensor}
    (changes : ∀ tensor, change tensor ≠ .error spared) (value : Value) :
    value.onTensor change ≠ .error spared := by
  cases value with
  | tensor tensor => exact map_spares (changes tensor)
  | _ => exact nofun

end Computed

/-- What reading the elements of a tensor fails for. -/
inductive Error.Reading : Error → Prop where
  | outOfBounds : Reading .outOfBounds
  | unrepresentable (dtype : DType) : Reading (.unrepresentable dtype)

/-- What slicing fails for. -/
inductive Error.Slicing : Error → Prop where
  | dimension (dimension rank : Nat) : Slicing (.dimensionOutOfRange dimension rank)
  | length (dimension start length size : Nat) :
      Slicing (.narrowOutOfBounds dimension start length size)
  | outOfBounds : Slicing .outOfBounds

/-- What dividing a batch fails for, beside slicing. -/
inductive Error.Dividing : Error → Prop where
  | indivisible (shape : Shape)
      (size deviceIterations replicationFactor gradientAccumulation multiplier : Nat) :
      Dividing (.batchDimension shape size deviceIterations replicationFactor gradientAccumulation
        multiplier)
  | overflow (deviceIterations replicationFactor gradientAccumulation : Nat) :
      Dividing (.batchMultiplierOverflow deviceIterations replicationFactor gradientAccumulation)

/-- What flattening options fails for. -/
inductive Error.Flattening : Error → Prop where
  | unresolved : Flattening .unresolvedAnchorMode
  | conflict (keys : List String) : Flattening (.optionKeyConflict keys)

/-- What binding arguments by position and name fails for. -/
inductive Error.Naming : Error → Prop where
  | duplicate (name : String) : Naming (.duplicateArgument name)
  | tooMany (expected : List String) (got : Nat) : Naming (.tooManyArguments expected got)
  | unexpected (name : String) : Naming (.unexpectedKeyword name)
  | missing (name : String) : Naming (.missingArgument name)
  | afterHole (name : String) (holes : List (String × Nat)) :
      Naming (.argumentAfterHole name holes)

section Apart

variable {spared : Error}

/-- A failure of one sort is not of another sort. -/
theorem of_sort_spares {α : Type} {sort : Error → Prop} {cause : Error} (of : sort cause)
    (apart : ¬ sort spared) : (.error cause : Result α) ≠ .error spared :=
  fun same => apart (Except.error.inj same ▸ of)

theorem copyAs_spares (reading : ¬ spared.Reading) (tensor : Tensor) (target : DType) :
    tensor.copyAs target ≠ .error spared := by
  apply map_spares
  rw [Tensor.elementsAs, Buffer.gather_eq, Layout.positions, Layout.firstPositions]
  have reads (position : Nat) : tensor.buffer.readAs target position ≠ .error spared := by
    unfold Buffer.readAs Buffer.read
    split
    · next failed =>
        split at failed
        · cases failed
        · obtain rfl := Except.error.inj failed
          exact of_sort_spares .outOfBounds reading
    · split
      · rintro ⟨⟩
      · exact of_sort_spares (.unrepresentable target) reading
  split
  · exact of_sort_spares .outOfBounds reading
  · exact mapM_spares reads _

theorem contiguous_spares (reading : ¬ spared.Reading) (tensor : Tensor) :
    tensor.contiguous ≠ .error spared := by
  unfold Tensor.contiguous
  split
  · exact nofun
  · exact copyAs_spares reading tensor _

theorem toDType_spares (reading : ¬ spared.Reading) (tensor : Tensor) (target : DType) :
    tensor.toDType target ≠ .error spared := by
  unfold Tensor.toDType
  split
  · exact nofun
  · exact copyAs_spares reading tensor _

theorem batchNarrow_spares (slicing : ¬ spared.Slicing) (dividing : ¬ spared.Dividing)
    (batch : Batch) (tensor : Tensor) : batch.narrow tensor ≠ .error spared := by
  have finds (shape : Shape) (dimension : Nat) : shape.lookup dimension ≠ .error spared := by
    unfold Shape.lookup
    split
    · exact nofun
    · exact of_sort_spares (.dimension _ _) slicing
  have multiplies : batch.multiplier ≠ .error spared := by
    rw [Batch.multiplier_eq]
    split
    · exact nofun
    · exact of_sort_spares (.overflow _ _ _) dividing
  have narrows (length : Nat) : tensor.narrow 0 0 length ≠ .error spared := by
    apply map_spares
    unfold Layout.narrow
    split
    · next failed => exact error_spares (finds tensor.layout.shape 0) failed
    · split
      · exact of_sort_spares (.length _ _ _ _) slicing
      · split
        · exact of_sort_spares .outOfBounds slicing
        · exact nofun
  unfold Batch.narrow
  split
  · next failed => exact error_spares (finds tensor.shape 0) failed
  · split
    · next failed => exact error_spares multiplies failed
    · split
      · exact narrows _
      · exact of_sort_spares (.indivisible _ _ _ _ _ _) dividing

theorem flatten_spares (flattening : ¬ spared.Flattening) (options : Options) :
    options.flatten ≠ .error spared := by
  have merges (table group : OptionTable) : table.merge group ≠ .error spared := by
    unfold OptionTable.merge
    dsimp only
    split
    · exact nofun
    · exact of_sort_spares (.conflict _) flattening
  unfold Options.flatten
  dsimp only
  split
  · exact of_sort_spares .unresolved flattening
  · exact bind_spares (merges _ _) fun _ => merges _ _

theorem collect_spares (naming : ¬ spared.Naming) (call : CallArguments) :
    ∀ (position : Nat) (holes : List (String × Nat)) (parameters : List Parameter),
      Binding.collect call position holes parameters ≠ .error spared
  | _, _, [] => nofun
  | position, holes, parameter :: later => by
      have rest (holes : List (String × Nat)) :=
        collect_spares naming call (position + 1) holes later
      unfold Binding.collect
      split
      · exact map_spares (rest _)
      · split
        · split
          · exact map_spares (rest _)
          · exact of_sort_spares (.afterHole _ _) naming
        · split
          · exact of_sort_spares (.missing _) naming
          · split
            · exact rest _
            · split
              · exact map_spares (rest _)
              · exact rest _

/-- Binding the arguments of a call fails for their names, or for what their elements are read
from. -/
theorem ofCall_spares (naming : ¬ spared.Naming) (reading : ¬ spared.Reading)
    (signature : Signature) (call : CallArguments) :
    Binding.ofCall signature call ≠ .error spared := by
  have binds : Binding.bind signature call ≠ .error spared := by
    unfold Binding.bind
    split
    · exact of_sort_spares (.duplicate _) naming
    · split
      · exact of_sort_spares (.tooMany _ _) naming
      · split
        · exact of_sort_spares (.unexpected _) naming
        · exact map_spares (collect_spares naming call _ _ _)
  refine bind_spares binds fun bound => outcome_spares (abides_withOwn ?_)
  exact Binding.abides_forEachMatched fun value =>
    ofResult_spares (onTensor_spares (contiguous_spares reading) value)

/-- The views that compilation works on fail for a batch, or for what the elements of a tensor are
read from. -/
theorem views_spares (reading : ¬ spared.Reading) (slicing : ¬ spared.Slicing)
    (dividing : ¬ spared.Dividing) (options : Options) (binding : Binding) :
    Executor.Views.of options binding ≠ .error spared := by
  refine bind_spares (outcome_spares (abides_withOwn ?_)) fun _ =>
    bind_spares (outcome_spares (abides_withOwn (abides_withOwn ?_))) fun _ => nofun
  · exact Binding.abides_forEach fun value =>
      ofResult_spares (onTensor_spares (batchNarrow_spares slicing dividing _) value)
  · refine abides_bind (abides_onRest (Binding.abides_forEachMatched fun value => ?_)) fun _ =>
      abides_modify fun _ => trivial
    exact ofResult_spares (onTensor_spares (fun _ => toDType_spares reading _ _) value)

/-- Preparing what compilation works with does not fail for a missing executable. -/
theorem draft_spares (options : Options) (binding : Binding) :
    Executor.draft options binding ≠ .error .notCompiled := by
  have flattens : options.flatten ≠ .error .notCompiled := flatten_spares (by nofun) options
  have views : Executor.Views.of options binding ≠ .error .notCompiled :=
    views_spares (by nofun) (by nofun) (by nofun) options binding
  exact bind_spares flattens fun _ => bind_spares views fun _ => nofun

end Apart

end Offload
