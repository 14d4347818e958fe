/-
# Where attempts end

Two ways to speak about an attempt without opening it. `Ends` follows one run from one state and
tells its success from its failure. `Obeys` is for the many steps of which only a relation
between the state before and the state after matters, whatever their outcome: a preorder that
single steps obey is obeyed by everything built from them, so an invariant is carried through a
long step without naming its parts.
-/

import Offload.Attempt
import Mathlib.Order.Defs.Unbundled

namespace Offload

variable {σ τ α β : Type}

namespace Attempt

@[simp]
theorem perform_get (state : σ) : (get : Attempt σ σ).perform state = (.ok state, state) := rfl

@[simp]
theorem perform_modify (change : σ → σ) (state : σ) :
    (modify change : Attempt σ Unit).perform state = (.ok (), change state) := rfl

@[simp]
theorem perform_onRest (step : Attempt σ α) (state : τ × σ) :
    (onRest step).perform state =
      ((step.perform state.2).1, (state.1, (step.perform state.2).2)) := rfl

@[simp]
theorem perform_onCopy (step : Attempt σ α) (state : σ) :
    step.onCopy.perform state =
      match step.perform state with
      | (.ok value, reached) => (.ok value, reached)
      | (.error cause, _) => (.error cause, state) := rfl

@[simp]
theorem perform_withOwn (own : τ) (step : Attempt (τ × σ) α) (state : σ) :
    (withOwn own step).perform state =
      ((step.perform (own, state)).1.map fun value => (value, (step.perform (own, state)).2.1),
        (step.perform (own, state)).2.2) := rfl

/-- Attempts that do the same from every state are the same. -/
theorem perform_ext {first second : Attempt σ α}
    (same : ∀ state, first.perform state = second.perform state) : first = second :=
  funext same

end Attempt

/-- What is put into a part is read from it, and putting back what was read changes nothing. -/
structure Focus.Lawful (focus : Focus τ σ) : Prop where
  get_set : ∀ part whole, focus.get (focus.set part whole) = part
  set_set : ∀ part other whole, focus.set part (focus.set other whole) = focus.set part whole
  set_get : ∀ whole, focus.set (focus.get whole) whole = whole

namespace Attempt

theorem within_pure {focus : Focus τ σ} (lawful : focus.Lawful) (value : α) :
    within focus (pure value) = pure value :=
  perform_ext fun whole => by simp [lawful.set_get]

/-- Doing two things on a part is doing both on the part, one after the other. -/
theorem within_bind {focus : Focus τ σ} (lawful : focus.Lawful) (first : Attempt σ α)
    (next : α → Attempt σ β) :
    within focus (first >>= next) =
      within focus first >>= fun value => within focus (next value) := by
  apply perform_ext
  intro whole
  simp only [perform_bind, perform_within]
  rcases first.perform (focus.get whole) with ⟨outcome | outcome, part⟩
  · rfl
  · simp only [lawful.get_set, lawful.set_set]

/-- From a state, the step succeeds into `good` or fails into `bad`. -/
def Ends (step : Attempt σ α) (state : σ) (good : α → σ → Prop) (bad : Error → σ → Prop) :
    Prop :=
  match step.perform state with
  | (.ok value, reached) => good value reached
  | (.error cause, reached) => bad cause reached

section Ends

variable {state : σ} {good good' : α → σ → Prop} {bad bad' : Error → σ → Prop}

/-- A step may be judged by weaker ends. -/
theorem Ends.mono {step : Attempt σ α} (ends : step.Ends state good bad)
    (weaker : ∀ value reached, good value reached → good' value reached)
    (failing : ∀ cause reached, bad cause reached → bad' cause reached) :
    step.Ends state good' bad' := by
  unfold Ends at *
  split at ends
  · exact weaker _ _ ends
  · exact failing _ _ ends

/-- Two judgements of one step are one. -/
theorem Ends.and {step : Attempt σ α} (ends : step.Ends state good bad)
    (ends' : step.Ends state good' bad') :
    step.Ends state (fun value reached => good value reached ∧ good' value reached)
      fun cause reached => bad cause reached ∧ bad' cause reached := by
  unfold Ends at *
  split at ends
  · exact ⟨ends, by simp_all⟩
  · exact ⟨ends, by simp_all⟩

/-- A failed first step ends the whole; otherwise the rest goes on from where it ended. -/
@[simp]
theorem ends_bind {first : Attempt σ α} {next : α → Attempt σ β} {good : β → σ → Prop} :
    (first >>= next).Ends state good bad ↔
      first.Ends state (fun value reached => (next value).Ends reached good bad) bad := by
  unfold Ends
  rw [perform_bind]
  rcases first.perform state with ⟨outcome | outcome, reached⟩ <;> rfl

@[simp]
theorem ends_pure {value : α} : (pure value : Attempt σ α).Ends state good bad ↔ good value state :=
  Iff.rfl

@[simp]
theorem ends_get {good : σ → σ → Prop} :
    (get : Attempt σ σ).Ends state good bad ↔ good state state := Iff.rfl

@[simp]
theorem ends_modify {change : σ → σ} {good : Unit → σ → Prop} :
    (modify change : Attempt σ Unit).Ends state good bad ↔ good () (change state) := Iff.rfl

@[simp]
theorem ends_observe {step : Attempt σ α} {good : Result α → σ → Prop} :
    step.observe.Ends state good bad ↔
      step.Ends state (fun value reached => good (.ok value) reached)
        (fun cause reached => good (.error cause) reached) := by
  unfold Ends
  rw [perform_observe]
  rcases step.perform state with ⟨outcome | outcome, reached⟩ <;> rfl

@[simp]
theorem ends_within {focus : Focus τ σ} {step : Attempt σ α} {state : τ} {good : α → τ → Prop}
    {bad : Error → τ → Prop} :
    (within focus step).Ends state good bad ↔
      step.Ends (focus.get state) (fun value part => good value (focus.set part state))
        (fun cause part => bad cause (focus.set part state)) := by
  unfold Ends
  rw [perform_within]
  rcases step.perform (focus.get state) with ⟨outcome | outcome, reached⟩ <;> rfl

@[simp]
theorem ends_withOwn {own : τ} {step : Attempt (τ × σ) α} {good : α × τ → σ → Prop} :
    (withOwn own step).Ends state good bad ↔
      step.Ends (own, state) (fun value reached => good (value, reached.1) reached.2)
        (fun cause reached => bad cause reached.2) := by
  unfold Ends
  rw [perform_withOwn]
  rcases step.perform (own, state) with ⟨outcome | outcome, reached⟩ <;> rfl

@[simp]
theorem ends_onCopy {step : Attempt σ α} :
    step.onCopy.Ends state good bad ↔ step.Ends state good fun cause _ => bad cause state := by
  unfold Ends
  rw [perform_onCopy]
  rcases step.perform state with ⟨outcome | outcome, reached⟩ <;> rfl

/-- A step that only passes on an outcome leaves the state. -/
theorem ends_ofResult {outcome : Result α} (value : ∀ value, outcome = .ok value → good value state)
    (failing : ∀ cause, outcome = .error cause → bad cause state) :
    (ofResult outcome : Attempt σ α).Ends state good bad := by
  unfold Ends
  rw [perform_ofResult]
  rcases outcome with cause | result
  · exact failing cause rfl
  · exact value result rfl

end Ends

/-- A loop is judged by an invariant over the items it is done with. -/
theorem ends_forM {step : α → Attempt σ PUnit} {items : List α} {state : σ}
    {bad : Error → σ → Prop} (invariant : List α → σ → Prop) (start : invariant [] state)
    (each : ∀ earlier item later, items = earlier ++ item :: later → ∀ reached,
      invariant earlier reached →
        (step item).Ends reached (fun _ next => invariant (earlier ++ [item]) next) bad) :
    (items.forM step).Ends state (fun _ reached => invariant items reached) bad := by
  -- the induction is on the items to come, with those before them fixed
  have goes (later earlier : List α) (split : items = earlier ++ later) (reached : σ)
      (held : invariant earlier reached) :
      (later.forM step).Ends reached (fun _ last => invariant items last) bad := by
    induction later generalizing earlier reached with
    | nil => simpa [split] using held
    | cons item rest ih =>
        show (step item >>= fun _ => rest.forM step).Ends reached _ bad
        rw [ends_bind]
        refine (each earlier item rest split reached held).mono ?_ fun _ _ => id
        exact fun _ next held => ih (earlier ++ [item]) (by simp [split]) next held
  exact goes items [] rfl state start

/-- Every step ends somehow. -/
theorem ends_somehow (step : Attempt σ α) (state : σ) :
    step.Ends state (fun _ _ => True) fun _ _ => True := by
  unfold Ends
  split <;> trivial

/-- Every step ends as it does. -/
theorem ends_perform (step : Attempt σ α) (state : σ) :
    step.Ends state (fun value reached => step.perform state = (.ok value, reached))
      fun cause reached => step.perform state = (.error cause, reached) := by
  unfold Ends
  split <;> assumption

/-- A step that is known to succeed ends well. -/
theorem Ends.ok {step : Attempt σ α} {state reached : σ} {value : α} {good : α → σ → Prop}
    {bad : Error → σ → Prop} (ends : step.Ends state good bad)
    (ended : step.perform state = (.ok value, reached)) : good value reached := by
  unfold Ends at ends
  rwa [ended] at ends

/-- A step that is known to fail ends badly. -/
theorem Ends.error {step : Attempt σ α} {state reached : σ} {cause : Error}
    {good : α → σ → Prop} {bad : Error → σ → Prop} (ends : step.Ends state good bad)
    (ended : step.perform state = (.error cause, reached)) : bad cause reached := by
  unfold Ends at ends
  rwa [ended] at ends

/-- A step that ends well only under a condition, and badly only without, succeeds exactly under the
condition. -/
theorem Ends.succeeds_iff {condition : Prop} {step : Attempt σ Unit} {state : σ}
    {good : σ → Prop} {bad : Error → σ → Prop}
    (ends : step.Ends state (fun _ reached => condition ∧ good reached)
      fun cause reached => ¬ condition ∧ bad cause reached) :
    (∃ reached, step.perform state = (.ok (), reached)) ↔ condition := by
  constructor
  · rintro ⟨reached, done⟩
    exact (ends.ok done).1
  · intro met
    rcases ended : step.perform state with ⟨cause | _, reached⟩
    · exact absurd met (ends.error ended).1
    · exact ⟨reached, rfl⟩

/-- What holds at both ends of a step holds of the state it leaves. -/
theorem Ends.reached {holds : σ → Prop} {step : Attempt σ α} {state : σ}
    (ends : step.Ends state (fun _ reached => holds reached) fun _ reached => holds reached) :
    holds (step.perform state).2 := by
  unfold Ends at ends
  revert ends
  rcases step.perform state with ⟨outcome | outcome, reached⟩ <;> exact id

/-- An observed step does not fail, so it is judged by the state it leaves. -/
theorem ends_observe_of_reached {holds : σ → Prop} {step : Attempt σ α} {state : σ}
    {bad : Error → σ → Prop} (reached : holds (step.perform state).2) :
    step.observe.Ends state (fun _ reached => holds reached) bad := by
  unfold Ends
  rwa [perform_observe]

/-- Whatever comes of the step, it takes every state to a related one. -/
def Obeys (rel : σ → σ → Prop) (step : Attempt σ α) : Prop :=
  ∀ state, rel state (step.perform state).2

section Obeys

variable {rel : σ → σ → Prop}

/-- What a step obeys holds of both its ends. -/
theorem Obeys.ends {step : Attempt σ α} (obeys : step.Obeys rel) (state : σ) :
    step.Ends state (fun _ reached => rel state reached) fun _ reached => rel state reached := by
  have related := obeys state
  unfold Ends
  revert related
  rcases step.perform state with ⟨outcome | outcome, reached⟩ <;> exact id

/-- A step of which both ends are related to the start obeys the relation. -/
theorem obeys_of_ends {step : Attempt σ α}
    (ends : ∀ state, step.Ends state (fun _ reached => rel state reached)
      fun _ reached => rel state reached) : step.Obeys rel :=
  fun state => (ends state).reached

theorem Obeys.mono {wider : σ → σ → Prop} {step : Attempt σ α} (obeys : step.Obeys rel)
    (weaker : ∀ before reached, rel before reached → wider before reached) : step.Obeys wider :=
  fun state => weaker _ _ (obeys state)

/-- A step on a part obeys what putting the part back carries over to the whole. -/
theorem obeys_within {inner : τ → τ → Prop} {focus : Focus σ τ} {step : Attempt τ α}
    (obeys : step.Obeys inner)
    (carried : ∀ state part, inner (focus.get state) part → rel state (focus.set part state)) :
    (within focus step).Obeys rel :=
  fun state => carried state _ (obeys _)

/-- Only the second part matters, and there the relation holds. -/
def OnRest (rel : σ → σ → Prop) (before reached : τ × σ) : Prop := rel before.2 reached.2

instance [IsPreorder σ rel] : IsPreorder (τ × σ) (OnRest rel) where
  refl state := refl_of rel state.2
  trans _ _ _ first second := trans_of rel first second

theorem obeys_onRest {step : Attempt σ α} (obeys : step.Obeys rel) :
    (onRest step : Attempt (τ × σ) α).Obeys (OnRest rel) :=
  fun state => obeys state.2

theorem obeys_withOwn {own : τ} {step : Attempt (τ × σ) α} (obeys : step.Obeys (OnRest rel)) :
    (withOwn own step).Obeys rel :=
  fun state => obeys (own, state)

variable [IsPreorder σ rel]

theorem obeys_pure (value : α) : (pure value : Attempt σ α).Obeys rel :=
  fun state => refl_of rel state

theorem obeys_throw (cause : Error) : (throw cause : Attempt σ α).Obeys rel :=
  fun state => refl_of rel state

theorem obeys_get : (get : Attempt σ σ).Obeys rel := fun state => refl_of rel state

theorem obeys_ofResult (outcome : Result α) : (ofResult outcome : Attempt σ α).Obeys rel :=
  fun state => refl_of rel state

theorem obeys_onCopy {step : Attempt σ α} (obeys : step.Obeys rel) : step.onCopy.Obeys rel :=
  obeys_of_ends fun state => ends_onCopy.mpr ((obeys.ends state).mono (fun _ _ => id) fun _ _ _ =>
    refl_of rel state)

theorem obeys_bind {first : Attempt σ α} {next : α → Attempt σ β}
    (start : first.Obeys rel) (rest : ∀ value, (next value).Obeys rel) :
    (first >>= next).Obeys rel := by
  intro state
  have started := start state
  rw [perform_bind]
  revert started
  rcases first.perform state with ⟨cause | value, reached⟩
  · exact id
  · exact fun started => trans_of rel started (rest value reached)

theorem obeys_forM {step : α → Attempt σ PUnit} (items : List α)
    (each : ∀ item ∈ items, (step item).Obeys rel) : (items.forM step).Obeys rel := by
  induction items with
  | nil => exact obeys_pure _
  | cons item rest ih =>
      show (step item >>= fun _ => rest.forM step).Obeys rel
      exact obeys_bind (each item (by simp)) fun _ =>
        ih fun other there => each other (by simp [there])

end Obeys

end Attempt

end Offload
