/-
# Verdicts

A verdict judges both ends of a step from any state: a relation for where a success may lead, and
another one, which also sees the cause, for where a failure may. Successes are a preorder, and a
failure may come late or be followed by further steps, so what single steps abide by is abided by
in everything built from them. A relation that does not look at the outcome is a special verdict,
and obeying it is abiding by that one.
-/

import Offload.Proofs.Attempt
import Offload.Tree

namespace Offload

variable {σ τ α β : Type}

/-- Where the successes and the failures of a step may lead. -/
structure Verdict (σ : Type) where
  good : σ → σ → Prop
  bad : σ → Error → σ → Prop
  refl : ∀ state, good state state
  trans : ∀ {first second third}, good first second → good second third → good first third
  /-- A failure may come after a success. -/
  late : ∀ {first second cause third},
    good first second → bad second cause third → bad first cause third
  /-- A failure that was only observed may be followed by a success. -/
  early : ∀ {first cause second third},
    bad first cause second → good second third → bad first cause third
  /-- What a failure leaves is no worse than what a success leaves. -/
  good_of_bad : ∀ {first cause second}, bad first cause second → good first second

namespace Verdict

/-- The verdict that does not tell failures from successes. -/
def plain (rel : σ → σ → Prop) [IsPreorder σ rel] : Verdict σ where
  good := rel
  bad first _ second := rel first second
  refl := refl_of rel
  trans := trans_of rel
  late := trans_of rel
  early := trans_of rel
  good_of_bad := id

/-- The verdict that only one cause is never the cause of a failure. -/
def sparing (spared : Error) : Verdict σ where
  good _ _ := True
  bad _ cause _ := cause ≠ spared
  refl _ := trivial
  trans _ _ := trivial
  late _ apart := apart
  early apart _ := apart
  good_of_bad _ := trivial

/-- The verdict that does not tell failures from successes, but for one cause that a failure does
not have where a condition holds. The condition is one that the relation keeps. -/
def barring (rel : σ → σ → Prop) [IsPreorder σ rel] (condition : σ → Prop)
    (kept : ∀ {before reached}, rel before reached → condition before → condition reached)
    (barred : Error) : Verdict σ where
  good := rel
  bad first cause second := rel first second ∧ (condition first → cause ≠ barred)
  refl := refl_of rel
  trans := trans_of rel
  late good bad := ⟨trans_of rel good bad.1, fun holds => bad.2 (kept good holds)⟩
  early bad good := ⟨trans_of rel bad.1 good, bad.2⟩
  good_of_bad bad := bad.1

/-- The verdict that nothing is said where a condition does not hold; elsewhere what is done stays
within a relation that keeps the condition, and a failure is to blame on something. -/
def blaming (condition : σ → Prop) (rel : σ → σ → Prop) [IsPreorder σ rel]
    (blame : σ → Error → σ → Prop)
    (kept : ∀ {before reached}, rel before reached → condition before → condition reached)
    (late : ∀ {first second cause third},
      rel first second → blame second cause third → blame first cause third)
    (early : ∀ {first cause second third},
      blame first cause second → rel second third → blame first cause third) :
    Verdict σ where
  good first second := condition first → rel first second
  bad first cause second := condition first → rel first second ∧ blame first cause second
  refl state _ := refl_of rel state
  trans good good' holds := trans_of rel (good holds) (good' (kept (good holds) holds))
  late good bad holds :=
    have failed := bad (kept (good holds) holds)
    ⟨trans_of rel (good holds) failed.1, late (good holds) failed.2⟩
  early bad good holds :=
    have failed := bad holds
    have later := good (kept failed.1 holds)
    ⟨trans_of rel failed.1 later, early failed.2 later⟩
  good_of_bad bad holds := (bad holds).1

/-- Whatever the first verdict puts up with, the second one does. -/
structure Le (finer coarser : Verdict σ) : Prop where
  good : ∀ {first second}, finer.good first second → coarser.good first second
  bad : ∀ {first cause second}, finer.bad first cause second → coarser.bad first cause second

theorem Le.refl (verdict : Verdict σ) : verdict.Le verdict := ⟨id, id⟩

/-- Only the second part matters, and there the verdict is the same. -/
def onRest (verdict : Verdict σ) : Verdict (τ × σ) where
  good first second := verdict.good first.2 second.2
  bad first cause second := verdict.bad first.2 cause second.2
  refl state := verdict.refl state.2
  trans := verdict.trans
  late := verdict.late
  early := verdict.early
  good_of_bad := verdict.good_of_bad

end Verdict

namespace Attempt

/-- From every state the step ends as the verdict wants. -/
def Abides (verdict : Verdict σ) (step : Attempt σ α) : Prop :=
  ∀ state, step.Ends state (fun _ reached => verdict.good state reached) (verdict.bad state)

/-- Abiding by a verdict that does not look at the outcome is obeying its relation. -/
theorem abides_plain {rel : σ → σ → Prop} [IsPreorder σ rel] {step : Attempt σ α} :
    step.Abides (.plain rel) ↔ step.Obeys rel :=
  ⟨fun abides state => (abides state).reached, Obeys.ends⟩

theorem abides_plain_onRest {rel : σ → σ → Prop} [IsPreorder σ rel] {step : Attempt (τ × σ) α} :
    step.Abides (Verdict.plain rel).onRest ↔ step.Obeys (OnRest rel) :=
  ⟨fun abides state => (abides state).reached, Obeys.ends⟩

variable {verdict : Verdict σ}

/-- What abides leaves a state as good as after a success, whatever its outcome. -/
theorem Abides.reached {step : Attempt σ α} (abides : step.Abides verdict) (state : σ) :
    verdict.good state (step.perform state).2 :=
  ((abides state).mono (fun _ _ => id) fun _ _ => verdict.good_of_bad).reached

/-- What abides by a verdict abides by every coarser one. -/
theorem Abides.le {coarser : Verdict σ} {step : Attempt σ α} (abides : step.Abides verdict)
    (le : verdict.Le coarser) : step.Abides coarser :=
  fun state => (abides state).mono (fun _ _ => le.good) fun _ _ => le.bad

theorem abides_pure (value : α) : (pure value : Attempt σ α).Abides verdict := verdict.refl

theorem abides_get : (get : Attempt σ σ).Abides verdict := verdict.refl

theorem abides_modify {change : σ → σ} (changes : ∀ state, verdict.good state (change state)) :
    (modify change : Attempt σ Unit).Abides verdict := changes

theorem abides_throw {cause : Error} (fails : ∀ state, verdict.bad state cause state) :
    (throw cause : Attempt σ α).Abides verdict := fails

theorem abides_ofResult {outcome : Result α}
    (fails : ∀ cause, outcome = .error cause → ∀ state, verdict.bad state cause state) :
    (ofResult outcome : Attempt σ α).Abides verdict :=
  fun state => ends_ofResult (fun _ _ => verdict.refl state) fun cause same => fails cause same state

theorem abides_bind {first : Attempt σ α} {next : α → Attempt σ β} (start : first.Abides verdict)
    (rest : ∀ value, (next value).Abides verdict) : (first >>= next).Abides verdict := by
  intro state
  rw [ends_bind]
  refine (start state).mono (fun value reached good => ?_) fun _ _ => id
  exact (rest value reached).mono (fun _ _ => verdict.trans good) fun _ _ => verdict.late good

theorem abides_forM {step : α → Attempt σ PUnit} (items : List α)
    (each : ∀ item ∈ items, (step item).Abides verdict) : (items.forM step).Abides verdict := by
  induction items with
  | nil => exact abides_pure _
  | cons item rest ih =>
      show (step item >>= fun _ => rest.forM step).Abides verdict
      exact abides_bind (each item (by simp)) fun _ =>
        ih fun other there => each other (by simp [there])

/-- A step on a part abides by what putting the part back carries over to the whole. -/
theorem abides_within {inner : Verdict τ} {focus : Focus σ τ} {step : Attempt τ α}
    (abides : step.Abides inner)
    (good : ∀ state part, inner.good (focus.get state) part →
      verdict.good state (focus.set part state))
    (bad : ∀ state cause part, inner.bad (focus.get state) cause part →
      verdict.bad state cause (focus.set part state)) :
    (within focus step).Abides verdict :=
  fun state => ends_within.mpr
    ((abides (focus.get state)).mono (fun _ part => good state part) fun cause part =>
      bad state cause part)

theorem abides_onRest {step : Attempt σ α} (abides : step.Abides verdict) :
    (onRest step : Attempt (τ × σ) α).Abides verdict.onRest :=
  abides_within abides (fun _ _ => id) fun _ _ _ => id

theorem abides_withOwn {own : τ} {step : Attempt (τ × σ) α} (abides : step.Abides verdict.onRest) :
    (withOwn own step).Abides verdict :=
  fun state => ends_withOwn.mpr (abides (own, state))

/-- A run that has done well since its origin, and of which the next step abides, is judged by the
rest of the way. -/
theorem ends_bind_of_abides {first : Attempt σ α} {next : α → Attempt σ β} {origin state : σ}
    {good : β → σ → Prop} {bad : Error → σ → Prop} (abides : first.Abides verdict)
    (within : verdict.good origin state)
    (rest : ∀ value reached, verdict.good origin reached → (next value).Ends reached good bad)
    (failing : ∀ cause reached, verdict.bad origin cause reached → bad cause reached) :
    (first >>= next).Ends state good bad := by
  rw [ends_bind]
  exact (abides state).mono
    (fun value reached good => rest value reached (verdict.trans within good))
    fun cause reached bad => failing cause reached (verdict.late within bad)

/-- An outcome that was observed and is passed on later fails as it did when it was observed. -/
theorem ends_bind_observe {first : Attempt σ α} {next : Result α → Attempt σ β} {origin state : σ}
    {good : β → σ → Prop} {bad : Error → σ → Prop} (abides : first.Abides verdict)
    (within : verdict.good origin state)
    (rest : ∀ outcome reached, first.perform state = (outcome, reached) →
      verdict.good origin reached →
      (∀ cause, outcome = .error cause → verdict.bad origin cause reached) →
      (next outcome).Ends reached good bad) :
    (first.observe >>= next).Ends state good bad := by
  rw [ends_bind, ends_observe]
  refine ((abides state).and (ends_perform first state)).mono (fun value reached ended => ?_)
    fun cause reached ended => ?_
  · exact rest _ reached ended.2 (verdict.trans within ended.1) fun _ => nofun
  · have failed := verdict.late within ended.1
    refine rest _ reached ended.2 (verdict.good_of_bad failed) fun other same => ?_
    rwa [← Except.error.inj same]

end Attempt

section Traversal

open Attempt

variable {verdict : Verdict σ} {visit : Value → Attempt σ Value}

mutual

/-- A traversal abides by what every visit abides by. -/
theorem Tree.abides_mapM (visits : ∀ value, (visit value).Abides verdict) :
    ∀ tree : Tree, (tree.mapM visit).Abides verdict
  | .leaf value => abides_bind (visits value) fun _ => abides_pure _
  | .sequence items => abides_bind (Tree.abides_mapItemsM visits items) fun _ => abides_pure _
  | .mapping entries =>
      abides_bind (Tree.abides_mapEntriesM visits entries) fun _ => abides_pure _

theorem Tree.abides_mapItemsM (visits : ∀ value, (visit value).Abides verdict) :
    ∀ items : List Tree, (Tree.mapItemsM visit items).Abides verdict
  | [] => abides_pure _
  | item :: items =>
      abides_bind (Tree.abides_mapM visits item) fun _ =>
        abides_bind (Tree.abides_mapItemsM visits items) fun _ => abides_pure _

theorem Tree.abides_mapEntriesM (visits : ∀ value, (visit value).Abides verdict) :
    ∀ entries : List (String × Tree), (Tree.mapEntriesM visit entries).Abides verdict
  | [] => abides_pure _
  | (_, item) :: entries =>
      abides_bind (Tree.abides_mapM visits item) fun _ =>
        abides_bind (Tree.abides_mapEntriesM visits entries) fun _ => abides_pure _

end

end Traversal

end Offload
