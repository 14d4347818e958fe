/-
# Steps that are alike

One step over two kinds of state. From related states, alike steps succeed or fail together: with
related values or with the same cause, and into related states. Everything that is written for any
state at all is alike for all of them as soon as its parts are, so there is one law for each way to
build an attempt, and one for each traversal and each promotion.
-/

import Offload.Batch
import Offload.Promotion
import Offload.Proofs.Aligned
import Offload.Proofs.Attempt

namespace Offload

variable {σ τ σ' τ' α β α' β' : Type}

namespace Attempt

/-- Two ends of a step that agree. -/
inductive Agree (values : α → α' → Prop) (states : σ → σ' → Prop) :
    Result α × σ → Result α' × σ' → Prop where
  | ok {value : α} {value' : α'} {reached : σ} {reached' : σ'} (same : values value value')
      (related : states reached reached') :
      Agree values states (.ok value, reached) (.ok value', reached')
  | error {cause : Error} {reached : σ} {reached' : σ'} (related : states reached reached') :
      Agree values states (.error cause, reached) (.error cause, reached')

/-- From related states both steps come to ends that agree. -/
def Alike (values : α → α' → Prop) (states : σ → σ' → Prop) (step : Attempt σ α)
    (other : Attempt σ' α') : Prop :=
  ∀ state state', states state state' →
    Agree values states (step.perform state) (other.perform state')

/-- Both parts are related. -/
def Both (owns : τ → τ' → Prop) (states : σ → σ' → Prop) (state : τ × σ) (state' : τ' × σ') :
    Prop :=
  owns state.1 state'.1 ∧ states state.2 state'.2

/-- The first parts are the same, and the second parts are related. -/
def Beside (states : σ → σ' → Prop) (state : τ × σ) (state' : τ × σ') : Prop :=
  state.1 = state'.1 ∧ states state.2 state'.2

section Alike

variable {values : α → α' → Prop} {values' : β → β' → Prop} {states : σ → σ' → Prop}
  {owns : τ → τ' → Prop}

theorem Alike.mono {weaker : α → α' → Prop} {step : Attempt σ α} {step' : Attempt σ' α'}
    (alike : step.Alike values states step')
    (weakens : ∀ value value', values value value' → weaker value value') :
    step.Alike weaker states step' := by
  intro state state' related
  have ends := alike state state' related
  generalize step.perform state = ended at *
  generalize step'.perform state' = ended' at *
  cases ends with
  | ok same related => exact .ok (weakens _ _ same) related
  | error related => exact .error related

theorem alike_refl (step : Attempt σ α) : step.Alike Eq Eq step := by
  rintro state _ rfl
  rcases step.perform state with ⟨outcome | outcome, reached⟩
  · exact .error rfl
  · exact .ok rfl rfl

theorem alike_pure {value : α} {value' : α'} (same : values value value') :
    (pure value : Attempt σ α).Alike values states (pure value') :=
  fun _ _ related => .ok same related

theorem alike_throw (cause : Error) :
    (throw cause : Attempt σ α).Alike values states (throw cause) :=
  fun _ _ related => .error related

theorem alike_ofResult (outcome : Result α) :
    (ofResult outcome : Attempt σ α).Alike Eq states (ofResult outcome) := by
  intro state state' related
  rw [perform_ofResult, perform_ofResult]
  cases outcome with
  | ok value => exact .ok rfl related
  | error cause => exact .error related

theorem alike_get : (get : Attempt σ σ).Alike states states get :=
  fun _ _ related => .ok related related

theorem alike_modify {change : σ → σ} {change' : σ' → σ'}
    (changes : ∀ state state', states state state' → states (change state) (change' state')) :
    (modify change : Attempt σ Unit).Alike Eq states (modify change') :=
  fun state state' related => .ok rfl (changes state state' related)

theorem alike_bind {first : Attempt σ α} {first' : Attempt σ' α'} {next : α → Attempt σ β}
    {next' : α' → Attempt σ' β'} (firsts : first.Alike values states first')
    (nexts : ∀ value value', values value value' →
      (next value).Alike values' states (next' value')) :
    (first >>= next).Alike values' states (first' >>= next') := by
  intro state state' related
  have ends := firsts state state' related
  rw [perform_bind, perform_bind]
  generalize first.perform state = ended at *
  generalize first'.perform state' = ended' at *
  cases ends with
  | ok same related => exact nexts _ _ same _ _ related
  | error related => exact .error related

/-- What is found in both states is the same for the rest of both steps. -/
theorem alike_bind_eq {first : Attempt σ α} {first' : Attempt σ' α} {next : α → Attempt σ β}
    {next' : α → Attempt σ' β'} (firsts : first.Alike Eq states first')
    (nexts : ∀ value, (next value).Alike values' states (next' value)) :
    (first >>= next).Alike values' states (first' >>= next') := by
  apply alike_bind firsts
  intro value value' same
  rw [same]
  exact nexts value'

theorem alike_ite {condition : Prop} [Decidable condition] {yes no : Attempt σ α}
    {yes' no' : Attempt σ' α'} (holding : yes.Alike values states yes')
    (failing : no.Alike values states no') :
    (if condition then yes else no).Alike values states (if condition then yes' else no') := by
  split
  · exact holding
  · exact failing

theorem alike_observe {step : Attempt σ α} {step' : Attempt σ' α}
    (steps : step.Alike Eq states step') :
    step.observe.Alike Eq states step'.observe := by
  intro state state' related
  have ends := steps state state' related
  rw [perform_observe, perform_observe]
  generalize step.perform state = ended at *
  generalize step'.perform state' = ended' at *
  cases ends with
  | ok same related => exact .ok (congrArg _ same) related
  | error related => exact .ok rfl related

/-- Steps on related parts are alike on the wholes. -/
theorem alike_within {parts : τ → τ' → Prop} {focus : Focus σ τ} {focus' : Focus σ' τ'}
    {step : Attempt τ α} {step' : Attempt τ' α'} (steps : step.Alike values parts step')
    (gets : ∀ state state', states state state' → parts (focus.get state) (focus'.get state'))
    (sets : ∀ part part' state state', parts part part' → states state state' →
      states (focus.set part state) (focus'.set part' state')) :
    (within focus step).Alike values states (within focus' step') := by
  intro state state' related
  have ends := steps _ _ (gets state state' related)
  rw [perform_within, perform_within]
  generalize step.perform (focus.get state) = ended at *
  generalize step'.perform (focus'.get state') = ended' at *
  cases ends with
  | ok same related' => exact .ok same (sets _ _ _ _ related' related)
  | error related' => exact .error (sets _ _ _ _ related' related)

theorem alike_onRest_both {step : Attempt σ α} {step' : Attempt σ' α'}
    (steps : step.Alike values states step') :
    (onRest step : Attempt (τ × σ) α).Alike values (Both owns states) (onRest step') :=
  alike_within steps (fun _ _ related => related.2) fun _ _ _ _ part related => ⟨related.1, part⟩

/-- What starts related and is worked on alike is handed out related. -/
theorem alike_withOwn_both {own : τ} {own' : τ'} {step : Attempt (τ × σ) α}
    {step' : Attempt (τ' × σ') α'} (owned : owns own own')
    (steps : step.Alike values (Both owns states) step') :
    (withOwn own step).Alike (fun ended ended' => values ended.1 ended'.1 ∧ owns ended.2 ended'.2)
      states (withOwn own' step') := by
  intro state state' related
  have ends := steps (own, state) (own', state') ⟨owned, related⟩
  rw [perform_withOwn, perform_withOwn]
  generalize step.perform (own, state) = ended at *
  generalize step'.perform (own', state') = ended' at *
  cases ends with
  | ok same related => exact .ok ⟨same, related.1⟩ related.2
  | error related => exact .error related.2

theorem alike_onRest {step : Attempt σ α} {step' : Attempt σ' α'}
    (steps : step.Alike values states step') :
    (onRest step : Attempt (τ × σ) α).Alike values (Beside states) (onRest step') := by
  have ends : (onRest step : Attempt (τ × σ) α).Alike values (Both Eq states) (onRest step') :=
    alike_onRest_both steps
  exact ends

theorem alike_withOwn {own : τ} {step : Attempt (τ × σ) α} {step' : Attempt (τ × σ') α}
    (steps : step.Alike Eq (Beside states) step') :
    (withOwn own step).Alike Eq states (withOwn own step') := by
  have ends : step.Alike Eq (Both Eq states) step' := steps
  exact (alike_withOwn_both rfl ends).mono fun _ _ same => Prod.ext same.1 same.2

theorem alike_forM {step : α → Attempt σ PUnit} {step' : α → Attempt σ' PUnit}
    (steps : ∀ item, (step item).Alike Eq states (step' item)) (items : List α) :
    (items.forM step).Alike Eq states (items.forM step') := by
  induction items with
  | nil => exact alike_pure rfl
  | cons item rest ih =>
      show (step item >>= fun _ => rest.forM step).Alike Eq states
        (step' item >>= fun _ => rest.forM step')
      exact alike_bind_eq (steps item) fun _ => ih

end Alike

end Attempt

section Traversal

open Attempt

variable {states : σ → σ' → Prop} {rel rel' : Value → Value → Prop} {visit : Value → Attempt σ Value}
  {visit' : Value → Attempt σ' Value}

mutual

theorem Tree.Aligned.alike_mapM
    (visits : ∀ value value', rel value value' → (visit value).Alike rel' states (visit' value')) :
    ∀ {tree tree' : Tree}, tree.Aligned rel tree' →
      (tree.mapM visit).Alike (Tree.Aligned rel') states (tree'.mapM visit')
  | .leaf _, .leaf _, related =>
      alike_bind (visits _ _ related) fun _ _ changed => alike_pure changed
  | .sequence _, .sequence _, aligned =>
      alike_bind (AlignedItems.alike_mapItemsM visits aligned) fun _ _ changed => alike_pure changed
  | .mapping _, .mapping _, aligned =>
      alike_bind (AlignedEntries.alike_mapEntriesM visits aligned) fun _ _ changed =>
        alike_pure changed

/-- Traversals of aligned arguments are alike if the visits of related leaves are. -/
theorem Tree.AlignedItems.alike_mapItemsM
    (visits : ∀ value value', rel value value' → (visit value).Alike rel' states (visit' value')) :
    ∀ {items items' : List Tree}, AlignedItems rel items items' →
      (Tree.mapItemsM visit items).Alike (AlignedItems rel') states
        (Tree.mapItemsM visit' items')
  | [], [], _ => alike_pure trivial
  | _ :: _, _ :: _, ⟨first, others⟩ =>
      alike_bind (first.alike_mapM visits) fun _ _ changed =>
        alike_bind (AlignedItems.alike_mapItemsM visits others) fun _ _ rest =>
          alike_pure ⟨changed, rest⟩

theorem Tree.AlignedEntries.alike_mapEntriesM
    (visits : ∀ value value', rel value value' → (visit value).Alike rel' states (visit' value')) :
    ∀ {entries entries' : List (String × Tree)}, AlignedEntries rel entries entries' →
      (Tree.mapEntriesM visit entries).Alike (AlignedEntries rel') states
        (Tree.mapEntriesM visit' entries')
  | [], [], _ => alike_pure trivial
  | (_, _) :: _, (_, _) :: _, ⟨key, first, others⟩ =>
      alike_bind (first.alike_mapM visits) fun _ _ changed =>
        alike_bind (AlignedEntries.alike_mapEntriesM visits others) fun _ _ rest =>
          alike_pure ⟨key, changed, rest⟩

end

theorem Tree.alike_mapItemsM (visits : ∀ value, (visit value).Alike Eq states (visit' value))
    (items : List Tree) : (mapItemsM visit items).Alike Eq states (mapItemsM visit' items) := by
  have aligned : AlignedItems Eq items items := .refl (fun _ => rfl) items
  have traversed : (mapItemsM visit items).Alike (AlignedItems Eq) states (mapItemsM visit' items) :=
    aligned.alike_mapItemsM fun value _ same => same ▸ visits value
  exact traversed.mono fun _ _ same => same.eq fun _ _ => id

end Traversal

namespace Binding

open Attempt

variable {states : σ → σ' → Prop}

private theorem alike_setArguments (arguments : List Tree) :
    (setArguments arguments : Attempt (Binding × σ) Unit).Alike Eq (Beside states)
      (setArguments arguments) :=
  alike_modify fun _ _ related => ⟨by rw [related.1], related.2⟩

variable {change : Value → Attempt σ Value} {change' : Value → Attempt σ' Value}

theorem alike_forEach (changes : ∀ value, (change value).Alike Eq states (change' value)) :
    (forEach change).Alike Eq (Beside states) (forEach change') := by
  apply alike_bind alike_get
  intro state state' related
  rw [related.1]
  apply alike_bind_eq (alike_setArguments _)
  intro _
  exact alike_bind_eq (alike_onRest (Tree.alike_mapItemsM changes _)) alike_setArguments

theorem alike_forEachMatched {selected : Value → Bool}
    (changes : ∀ value, (change value).Alike Eq states (change' value)) :
    (forEachMatched selected change).Alike Eq (Beside states)
      (forEachMatched selected change') := by
  have visits (value : Value) : (Tree.visitMatched selected change value).Alike Eq (Beside states)
      (Tree.visitMatched selected change' value) := by
    unfold Tree.visitMatched
    split
    · exact alike_bind_eq (alike_modify fun _ _ related => ⟨rfl, related.2⟩) fun _ =>
        alike_onRest (changes value)
    · exact alike_pure rfl
  apply alike_bind alike_get
  intro state state' related
  rw [related.1]
  apply alike_bind_eq (alike_setArguments _)
  intro _
  apply alike_bind_eq (alike_onRest (alike_withOwn (Tree.alike_mapItemsM visits _)))
  intro _
  exact alike_bind_eq (alike_setArguments _) fun _ => alike_pure rfl

theorem alike_densify :
    (densify : Attempt (Binding × σ) Bool).Alike Eq (Beside states) densify :=
  alike_forEachMatched fun _ => alike_ofResult _

theorem alike_promote :
    (promote : Attempt (Binding × σ) Bool).Alike Eq (Beside states) promote :=
  alike_forEachMatched fun _ => alike_ofResult _

theorem alike_traceView (batch : Batch) :
    (batch.traceView : Attempt (Binding × σ) Unit).Alike Eq (Beside states) batch.traceView :=
  alike_forEach fun _ => alike_ofResult _

end Binding

namespace Promotion

open Attempt

variable {states : σ → σ' → Prop}

theorem alike_promoteInputs :
    (promoteInputs : Attempt (Promotion × Binding × σ) Unit).Alike Eq (Beside (Beside states))
      promoteInputs := by
  apply alike_bind_eq (alike_onRest Binding.alike_promote)
  intro promoted
  exact alike_modify fun _ _ related => ⟨by rw [related.1], related.2⟩

theorem alike_promoteModel {access : LayerAccess σ} {access' : LayerAccess σ'}
    (layers : access.layers.Alike Eq states access'.layers)
    (casts : ∀ layer dtype, (access.cast layer dtype).Alike Eq states (access'.cast layer dtype))
    (reports : ∀ notice, (access.report notice).Alike Eq states (access'.report notice)) :
    (promoteModel access).Alike Eq (Beside states) (promoteModel access') := by
  refine alike_bind_eq (alike_onRest layers) fun infos => alike_forM (fun layer => ?_) infos
  unfold promoteLayer
  split
  · exact alike_pure rfl
  · apply alike_bind_eq (alike_onRest (reports _))
    intro _
    apply alike_bind_eq (alike_onRest (casts _ _))
    intro _
    exact alike_modify fun _ _ related => ⟨by rw [related.1], related.2⟩

theorem alike_restore {cast : String → DType → Attempt σ Unit}
    {cast' : String → DType → Attempt σ' Unit}
    (casts : ∀ layer dtype, (cast layer dtype).Alike Eq states (cast' layer dtype))
    (promotion : Promotion) :
    (promotion.restore cast).Alike Eq states (promotion.restore cast') :=
  alike_forM (fun _ => casts _ _) _

end Promotion

end Offload
