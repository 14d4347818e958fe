/-
# A chronicle changes nothing

A platform with a chronicle simulates the platform, with worlds that differ in the chronicle only.
So a compilation comes to the same with a chronicle and without, and what the chronicle tells of a
run happened in the run without it.
-/

import Offload.Proofs.Chronicle.Basic
import Offload.Proofs.Journal.Sessions

namespace Offload

open Attempt

variable {P : Platform} {α τ : Type}

namespace Chronicled

/-- A world with a chronicle and the world itself. -/
def Shows (state : Chronicled P) (world : P.World) : Prop := state.world = world

/-- A step is alike another if it has the outcome of the other, and a state that shows the one the
other leaves. -/
private theorem alike_of_perform {σ σ' : Type} {shows : σ → σ' → Prop} {step : Attempt σ α}
    {other : Attempt σ' α}
    (same : ∀ state state', shows state state' →
      (step.perform state).1 = (other.perform state').1 ∧
        shows (step.perform state).2 (other.perform state').2) :
    step.Alike Eq shows other := by
  intro state state' related
  obtain ⟨outcome, left⟩ := same state state' related
  generalize step.perform state = ended at *
  generalize other.perform state' = ended' at *
  obtain ⟨cause | value, reached⟩ := ended
  · obtain ⟨_, reached'⟩ := ended'
    obtain rfl := outcome
    exact .error left
  · obtain ⟨_, reached'⟩ := ended'
    obtain rfl := outcome
    exact .ok rfl left

theorem alike_focus (step : Attempt P.World α) :
    (Attempt.within focus step).Alike Eq Shows step :=
  alike_of_perform fun _ _ shows => by cases shows; exact ⟨rfl, rfl⟩

theorem alike_focusBeside (step : Attempt (τ × P.World) α) :
    (Attempt.within focusBeside step).Alike Eq (Beside Shows) step :=
  alike_of_perform fun state state' shows => by
    obtain rfl : (state.1, state.2.world) = state' := Prod.ext shows.1 shows.2
    exact ⟨rfl, rfl, rfl⟩

theorem alike_telling (happening : Result α → Happening P) (step : Attempt P.World α) :
    (telling happening step).Alike Eq Shows step :=
  alike_of_perform fun _ _ shows => by cases shows; exact ⟨rfl, rfl⟩

theorem alike_tellingBeside (happening : τ → Result α → τ → Happening P)
    (step : Attempt (τ × P.World) α) :
    (tellingBeside happening step).Alike Eq (Beside Shows) step :=
  alike_of_perform fun state state' shows => by
    obtain rfl : (state.1, state.2.world) = state' := Prod.ext shows.1 shows.2
    exact ⟨rfl, rfl, rfl⟩

end Chronicled

/-- A dialogue goes the same way whether it is told of or not. The induction is on the dialogue. -/
theorem Capture.alike_chronicled (happening : Result α → Happening P)
    (dialogue : Capture P.World α) :
    (dialogue.chronicled happening).Alike .exact Chronicled.Shows Eq dialogue := by
  intro σ σ' states focus focus' answers answers' agree
  induction dialogue with
  | done outcome =>
      intro state state' related
      have told := agree.moves _ _ ((focus.get state).tell (happening outcome)) (focus'.get state')
        related (agree.looks _ _ related)
      rw [agree.rests] at told
      exact alike_ofResult outcome _ _ told
  | look next ih =>
      intro state state' related
      have seen : (focus.get state).world = focus'.get state' := agree.looks state state' related
      have goes := ih (focus.get state).world state state' related
      simp only [Capture.chronicled, run, perform_bind, perform_get]
      rw [seen] at goes ⊢
      exact goes
  | leave world next ih =>
      intro state state' related
      exact ih _ _ (agree.moves state state' _ world related rfl)
  | signature next ih =>
      intro state state' related
      have goes := ih (answers.signature state) state state' related
      simp only [Capture.chronicled, run, perform_bind, perform_get]
      rw [agree.signature state state' related] at goes ⊢
      exact goes
  | layers next ih => exact alike_bind_eq (alike_observe agree.layers) ih
  | parameters next ih =>
      have asked := agree.parameters.mono fun _ _ same =>
        List.forall₂_eq_eq_eq ▸ same.imp fun _ _ => NamedParameter.Relates.eq
      exact alike_bind_eq (alike_observe asked) ih
  | forward inputs next ih =>
      have ran := (agree.forward inputs inputs (.refl (Value.Relates.refl fun _ => rfl) _)).mono
        fun _ _ same => same.eq fun _ _ => Value.Relates.eq
      exact alike_bind_eq (alike_observe ran) ih

open Chronicled in
/-- A platform with a chronicle cannot be told from the platform. -/
def Platform.chronicling (P : Platform) : Simulation .exact P.chronicled P where
  worlds := Shows
  models := Eq
  graphs := Eq
  executables := Eq
  hooks := Eq
  results := Eq
  losses loss plain := loss = plain.chronicled
  signature := congrArg P.model.signature
  forward := by
    rintro model _ inputs inputs' rfl handed
    obtain rfl := handed.eq fun _ _ => Value.Relates.eq
    exact (alike_focus _).of_eq (.refl (Value.Relates.refl fun _ => rfl))
  parameters := by
    rintro model _ rfl
    exact (alike_focus _).of_eq fun _ => List.forall₂_same.mpr fun _ _ => ⟨rfl, rfl⟩
  layers := by
    rintro model _ rfl
    exact alike_focus _
  castLayer layer dtype := by
    exact alike_tellingBeside (.castLayer · layer dtype) (P.model.castLayer layer dtype)
  trace := by
    intro inputs inputs' handed
    obtain rfl := handed.eq fun _ _ => Value.Relates.eq
    exact Capture.alike_chronicled _ _
  script := Capture.alike_chronicled _ _
  inputCount := congrArg P.inputCount
  inferInput := by
    rintro position sample _ rfl
    exact alike_focusBeside _
  castGraphLayer layer dtype := by
    exact alike_tellingBeside (.castGraphLayer · layer dtype) (P.castGraphLayer layer dtype)
  compileTraced := by
    rintro graph _ request request' rfl requests
    obtain rfl := requests.eq
    exact alike_telling _ _
  compileScripted := by
    rintro graph _ request request' rfl requests
    obtain rfl := requests.eq
    exact alike_telling _ _
  execute := by
    rintro executable _ inputs inputs' rfl handed optimizer
    obtain rfl := List.forall₂_eq_eq_eq ▸ handed.imp fun _ _ => Value.Relates.eq
    exact (alike_focus _).of_eq (.refl (Value.Relates.refl fun _ => rfl))
  copyToHost := by
    rintro executable _ rfl
    exact alike_focus _
  copyToDevice := by
    rintro executable _ rfl
    exact alike_focus _
  refresh := by
    rintro hook _ rfl
    exact alike_focus _
  loss := by
    rintro _ loss rfl output output' target target' outputs targets
    obtain rfl := outputs.eq fun _ _ => Value.Relates.eq
    obtain rfl := targets.eq fun _ _ => Value.Relates.eq
    exact (alike_focus _).of_eq (.refl (Value.Relates.refl fun _ => rfl))

namespace Executor

/-- A compilation comes to the same with a chronicle and without. -/
theorem chronicled_compileBinding (binding : Binding) :
    (compileBinding (P := P.chronicled) binding).Alike Eq (Running.Similar P.chronicling)
      (compileBinding binding) :=
  alike_compileBinding ⟨rfl, .refl (Value.Relates.refl fun _ => rfl) _⟩

/-- A call comes to the same with a chronicle and without. -/
theorem chronicled_call (arguments : CallArguments) :
    (call (P := P.chronicled) arguments).Alike Eq (Running.Similar P.chronicling)
      (call arguments) := by
  have same : CallArguments.Aligned Likeness.exact.Held arguments arguments :=
    .refl (Value.Relates.refl fun _ => rfl) _
  have calls := @alike_call _ _ _ P.chronicling _ _ same
  exact calls.mono fun _ _ => Output.Relates.eq

end Executor

end Offload
