/-
# How journals grow

A step on a journaled world only ever adds entries. Which ones it may add is all that most proofs
need of it, so `Grows` is a preorder that keeps that and nothing else. The operations of a
journaled platform add exactly one entry each, and a capture adds those of its questions and its
own at the end.
-/

import Offload.Proofs.Attempt
import Offload.Proofs.Journal.Basic

namespace Offload

namespace Journaled

variable {World α τ : Type}

/-- Something was asked, with an outcome, and left the world as it is now. -/
def asked (operation : Operation) (succeeded : Bool) (world : World) (state : Journaled World) :
    Journaled World :=
  write operation succeeded { state with world := world }

/-- Only entries of an allowed kind were added, all demanded or all not. -/
structure Grows (allowed : Entry → Prop) (before reached : Journaled World) : Prop where
  demanding : reached.demanding = before.demanding
  entries : ∃ more, reached.entries = before.entries ++ more ∧
    ∀ entry ∈ more, entry.demanded = before.demanding ∧ allowed entry

variable {allowed : Entry → Prop}

instance : IsPreorder (Journaled World) (Grows allowed) where
  refl state := ⟨rfl, [], (List.append_nil _).symm, by simp⟩
  trans first second third := by
    rintro ⟨same, more, grown, all⟩ ⟨same', more', grown', all'⟩
    refine ⟨same'.trans same, more ++ more', by rw [grown', grown, List.append_assoc], ?_⟩
    intro entry there
    rw [same] at all'
    exact (List.mem_append.mp there).elim (all entry) (all' entry)

theorem Grows.mono {wider : Entry → Prop} {before reached : Journaled World}
    (grows : Grows allowed before reached) (weaker : ∀ entry, allowed entry → wider entry) :
    Grows wider before reached := by
  obtain ⟨same, more, grown, all⟩ := grows
  exact ⟨same, more, grown, fun entry there => (all entry there).imp_right (weaker entry)⟩

theorem grows_asked {operation : Operation} {succeeded : Bool} (world : World)
    (state : Journaled World) (kind : allowed ⟨operation, succeeded, state.demanding⟩) :
    Grows allowed state (state.asked operation succeeded world) :=
  ⟨rfl, [_], rfl, by simpa using kind⟩

/-- Noting a step adds its entry, whatever the outcome. -/
theorem ends_noting (operation : Operation) (step : Attempt World α) (state : Journaled World) :
    (noting operation step).Ends state
      (fun value reached => ∃ world, step.perform state.world = (.ok value, world) ∧
        reached = state.asked operation true world)
      fun cause reached => ∃ world, step.perform state.world = (.error cause, world) ∧
        reached = state.asked operation false world := by
  simp only [noting, Attempt.ends_bind, Attempt.ends_observe, Attempt.ends_within,
    Attempt.ends_modify]
  unfold Attempt.Ends focus
  rcases step.perform state.world with ⟨outcome | outcome, world⟩ <;> exact ⟨world, rfl, rfl⟩

/-- Noting a step with something beside the world adds its entry, whatever the outcome. -/
theorem ends_notingBeside (operation : Operation) (step : Attempt (τ × World) α)
    (state : τ × Journaled World) :
    (notingBeside operation step).Ends state
      (fun value reached => ∃ part, step.perform (state.1, state.2.world) = (.ok value, part) ∧
        reached = (part.1, state.2.asked operation true part.2))
      fun cause reached => ∃ part, step.perform (state.1, state.2.world) = (.error cause, part) ∧
        reached = (part.1, state.2.asked operation false part.2) := by
  simp only [notingBeside, Attempt.ends_bind, Attempt.ends_observe, Attempt.ends_within,
    Attempt.onRest, Attempt.ends_modify]
  unfold Attempt.Ends focusBeside
  rcases step.perform (state.1, state.2.world) with ⟨outcome | outcome, part⟩ <;>
    exact ⟨part, rfl, rfl⟩

theorem obeys_noting {operation : Operation} (step : Attempt World α)
    (kind : ∀ succeeded demanded, allowed ⟨operation, succeeded, demanded⟩) :
    (noting operation step).Obeys (Grows allowed) :=
  Attempt.obeys_of_ends fun state => (ends_noting operation step state).mono
    (fun _ _ ⟨_, _, same⟩ => same ▸ grows_asked _ state (kind _ _))
    fun _ _ ⟨_, _, same⟩ => same ▸ grows_asked _ state (kind _ _)

theorem obeys_notingBeside {operation : Operation} (step : Attempt (τ × World) α)
    (kind : ∀ succeeded demanded, allowed ⟨operation, succeeded, demanded⟩) :
    (notingBeside operation step).Obeys (Attempt.OnRest (Grows allowed)) :=
  Attempt.obeys_of_ends fun state => (ends_notingBeside operation step state).mono
    (fun _ _ ⟨_, _, same⟩ => same ▸ grows_asked _ state.2 (kind _ _))
    fun _ _ ⟨_, _, same⟩ => same ▸ grows_asked _ state.2 (kind _ _)

/-- Compiling adds one entry, and an executable gets the tag that is in it. -/
theorem ends_compiling {Executable : Type} (request : CompileRequest)
    (step : Attempt World Executable) (state : Journaled World) :
    (compiling request step).Ends state
      (fun tagged reached =>
        tagged.tag = ⟨state.entries.countP Entry.compiles, request.training⟩ ∧
          ∃ world, step.perform state.world = (.ok tagged.executable, world) ∧
            reached = state.asked (.compile tagged.tag request) true world)
      fun cause reached => ∃ tag world, step.perform state.world = (.error cause, world) ∧
        reached = state.asked (.compile tag request) false world := by
  simp only [compiling, Attempt.ends_bind, Attempt.ends_get, Attempt.ends_pure]
  apply (ends_noting _ step state).mono
  · intro _ _ ended
    obtain ⟨world, succeeded, same⟩ := ended
    exact ⟨trivial, world, succeeded, same⟩
  · intro _ _ ended
    obtain ⟨world, failed, same⟩ := ended
    exact ⟨_, world, failed, same⟩

end Journaled

section Capture

variable {σ World α : Type} {rel : σ → σ → Prop} [IsPreorder σ rel] {answers : ModelAnswers σ}
  {focus : Focus σ (Journaled World)} {operation : Operation}

/-- A capture that is written down stays within what its questions obey and what changing the
world obeys, and then writes its entry. The induction is on the dialogue. -/
theorem Capture.writes_journaled (layers : answers.layers.Obeys rel)
    (parameters : answers.parameters.Obeys rel)
    (forward : ∀ inputs, (answers.forward inputs).Obeys rel)
    (moves : ∀ state world, rel state (focus.set { focus.get state with world := world } state))
    (dialogue : Capture World α) (state : σ) :
    ∃ middle succeeded, rel state middle ∧
      (((dialogue.journaled operation).run answers focus).perform state).2 =
        focus.set ((focus.get middle).write operation succeeded) middle := by
  have asks {β : Type} {question : Attempt σ β} (obeys : question.Obeys rel)
      {rest : Result β → Capture World α}
      (ih : ∀ answer state, ∃ middle succeeded, rel state middle ∧
        ((((rest answer).journaled operation).run answers focus).perform state).2 =
          focus.set ((focus.get middle).write operation succeeded) middle) (state : σ) :
      ∃ middle succeeded, rel state middle ∧
        ((question.observe >>= fun answer =>
          ((rest answer).journaled operation).run answers focus).perform state).2 =
          focus.set ((focus.get middle).write operation succeeded) middle := by
    rw [Attempt.perform_bind, Attempt.perform_observe]
    obtain ⟨middle, succeeded, stays, ended⟩ :=
      ih (question.perform state).1 (question.perform state).2
    exact ⟨middle, succeeded, trans_of rel (obeys state) stays, ended⟩
  induction dialogue generalizing state with
  | done outcome => exact ⟨state, Journaled.succeeds outcome, refl_of rel state, rfl⟩
  | look next ih => exact ih (focus.get state).world state
  | leave world next ih =>
      obtain ⟨middle, succeeded, stays, ended⟩ :=
        ih (focus.set { focus.get state with world := world } state)
      exact ⟨middle, succeeded, trans_of rel (moves state world) stays, ended⟩
  | signature next ih => exact ih (answers.signature state) state
  | layers next ih => exact asks layers ih state
  | parameters next ih => exact asks parameters ih state
  | forward inputs next ih => exact asks (forward inputs) ih state

/-- A capture that is written down obeys what its parts and writing its entry obey. -/
theorem Capture.obeys_journaled (layers : answers.layers.Obeys rel)
    (parameters : answers.parameters.Obeys rel)
    (forward : ∀ inputs, (answers.forward inputs).Obeys rel)
    (moves : ∀ state world, rel state (focus.set { focus.get state with world := world } state))
    (written : ∀ state succeeded,
      rel state (focus.set ((focus.get state).write operation succeeded) state))
    (dialogue : Capture World α) :
    ((dialogue.journaled operation).run answers focus).Obeys rel := by
  intro state
  obtain ⟨middle, succeeded, stays, ended⟩ :=
    dialogue.writes_journaled layers parameters forward moves state
  rw [ended]
  exact trans_of rel stays (written middle succeeded)

end Capture

end Offload
