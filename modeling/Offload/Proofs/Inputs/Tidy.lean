/-
# Dense tensors reach the platform

On a journaled platform everything that is handed over can be read off the entries. Once the
arguments of a call are bound, whatever tensor goes along with an entry is one block, and the
application is not warned of strided inputs again; sessions that change in such ways only are tidy.
-/

import Offload.Proofs.Executor.Turns
import Offload.Proofs.Journal.Growth

namespace Offload

open Attempt

/-- Every tensor that is handed over to be captured with, compiled for or executed on is one
block. -/
def Operation.Dense : Operation → Prop
  | .trace inputs => AllDense (Tree.leavesOfItems inputs)
  | .inferInput _ sample => sample.isContiguous = true
  | .compile _ request => AllDense request.inputs
  | .execute _ inputs _ => AllDense inputs
  | _ => True

instance verdict_good_preorder {σ : Type} (verdict : Verdict σ) : IsPreorder σ verdict.good where
  refl := verdict.refl
  trans _ _ _ := verdict.trans

namespace Session

variable {P : Platform}

/-- Only entries with dense tensors were added, and no warning of strided inputs was given. -/
structure Tidy (before reached : Session P.journaled) : Prop where
  journal : Journaled.Grows (fun entry => entry.operation.Dense) before.world reached.world
  told : ∃ more, reached.notices = before.notices ++ more ∧ Notice.stridedInput ∉ more

instance : IsPreorder (Session P.journaled) Tidy where
  refl session := ⟨refl_of _ session.world, [], (List.append_nil _).symm, nofun⟩
  trans _ _ _ := by
    rintro ⟨journal, more, told, quiet⟩ ⟨journal', more', told', quiet'⟩
    refine ⟨trans_of (Journaled.Grows _) journal journal', more ++ more', ?_, ?_⟩
    · rw [told', told, List.append_assoc]
    · exact fun there => (List.mem_append.mp there).elim quiet quiet'

/-- What changes the world only, and the journal by dense entries, is tidy. -/
theorem Tidy.of_world {before : Session P.journaled} {world : Journaled P.World}
    (journal : Journaled.Grows (fun entry => entry.operation.Dense) before.world world) :
    Tidy before { before with world := world } :=
  ⟨journal, [], (List.append_nil _).symm, nofun⟩

theorem abides_onWorld_tidy {α : Type} {step : Attempt (Journaled P.World) α}
    (grows : step.Obeys (Journaled.Grows fun entry => entry.operation.Dense)) :
    (onWorld (P := P.journaled) step).Abides (.plain Tidy) :=
  abides_plain.mpr (obeys_within grows fun _ _ grown => .of_world grown)

theorem abides_noting_tidy {α : Type} {operation : Operation} (step : Attempt P.World α)
    (dense : ∀ succeeded demanded, (⟨operation, succeeded, demanded⟩ : Entry).operation.Dense) :
    (onWorld (P := P.journaled) (Journaled.noting operation step)).Abides (.plain Tidy) :=
  abides_onWorld_tidy (Journaled.obeys_noting step dense)

theorem abides_beside_tidy {τ : Type} {operation : Operation} (step : Attempt (τ × P.World) Unit)
    (dense : ∀ succeeded demanded, (⟨operation, succeeded, demanded⟩ : Entry).operation.Dense) :
    (within (focusBeside (P := P.journaled))
      (Journaled.notingBeside operation step)).Abides (Verdict.plain Tidy).onRest :=
  abides_plain_onRest.mpr (obeys_within
    (Journaled.obeys_notingBeside step dense) fun _ _ grown => .of_world grown)

theorem abides_compiling_tidy {request : CompileRequest} (dense : AllDense request.inputs)
    (step : Attempt P.World P.Executable) :
    (onWorld (P := P.journaled) (Journaled.compiling request step)).Abides (.plain Tidy) := by
  refine abides_onWorld_tidy (obeys_of_ends fun state =>
    (Journaled.ends_compiling request step state).mono ?_ ?_)
  · rintro _ _ ⟨-, world, -, rfl⟩
    exact Journaled.grows_asked world state dense
  · rintro _ _ ⟨_, world, -, rfl⟩
    exact Journaled.grows_asked world state dense

/-- All that is done on the way of a call is tidy. -/
theorem endures_tidy : Endures (P := P.journaled) (.plain Tidy) where
  tells session notice quiet :=
    ⟨refl_of _ session.world, [notice], rfl, by simpa using Ne.symm quiet⟩
  refuses session _ _ := refl_of Tidy session
  devices session _ := ⟨refl_of _ session.world, [], (List.append_nil _).symm, nofun⟩
  models session _ := ⟨refl_of _ session.world, [], (List.append_nil _).symm, nofun⟩
  forward _ _ := abides_noting_tidy _ fun _ _ => trivial
  parameters _ := abides_noting_tidy _ fun _ _ => trivial
  layers _ := abides_noting_tidy _ fun _ _ => trivial
  castLayer _ _ := abides_beside_tidy _ fun _ _ => trivial
  inferInput _ _ dense := abides_beside_tidy _ fun _ _ => dense
  castGraphLayer _ _ := abides_beside_tidy _ fun _ _ => trivial
  compileTraced _ _ dense := abides_compiling_tidy dense _
  compileScripted _ _ dense := abides_compiling_tidy dense _
  execute _ _ _ dense := abides_noting_tidy _ fun _ _ => dense
  copyToHost _ := abides_noting_tidy _ fun _ _ => trivial
  copyToDevice _ := abides_noting_tidy _ fun _ _ => trivial
  refresh _ := abides_noting_tidy _ fun _ _ => trivial

end Session

/-- A loss asks nothing of the platform. -/
theorem Subject.endures_tidy {P : Platform} (subject : Subject P) :
    subject.journaled.Endures (.plain Session.Tidy) := by
  intro loss has output target
  have still (plain : Loss P) : (Session.onWorld (P := P.journaled)
      (plain.journaled output target)).Abides (.plain Session.Tidy) :=
    Session.abides_onWorld_tidy fun _ => ⟨rfl, [], (List.append_nil _).symm, nofun⟩
  cases subject with
  | own model => cases has
  | shared handle => cases has
  | training handle plain? =>
      cases plain? with
      | none => cases has
      | some plain =>
          obtain rfl := Option.some.inj has
          exact still plain

namespace Executor

variable {P : Platform}

/-- A verdict of sessions that does not look at the outcome does not look at it in an executor. -/
theorem abides_working_plain {rel : Session P → Session P → Prop} [IsPreorder (Session P) rel]
    {α : Type} {step : Attempt (Running P) α} :
    step.Abides (working (.plain rel)) ↔ step.Obeys (working (.plain rel)).good :=
  ⟨fun abides state => (abides state).reached, Obeys.ends⟩

/-- A dialogue is tidy if what is captured with is dense. -/
theorem abides_capture_tidy {operation : Operation} (dialogue : Capture P.World P.Graph)
    (dense : ∀ succeeded demanded, (⟨operation, succeeded, demanded⟩ : Entry).operation.Dense) :
    (capture (P := P.journaled) (dialogue.journaled operation)).Abides
      (working (.plain Session.Tidy)) := by
  have moves {running : Running P.journaled} {world : Journaled P.World}
      (grows : Journaled.Grows (fun entry => entry.operation.Dense) running.session.world world) :
      (working (.plain Session.Tidy)).good running (worldFocus.set world running) :=
    ⟨.refl _, fun _ => .of_world grows⟩
  refine abides_working_plain.mpr (Capture.obeys_journaled
    (abides_working_plain.mp (abides_answers_layers_working Session.endures_tidy))
    (abides_working_plain.mp (abides_answers_parameters_working Session.endures_tidy))
    (fun inputs => abides_working_plain.mp
      (abides_answers_forward_working Session.endures_tidy inputs))
    (fun running world => moves ⟨rfl, [], (List.append_nil _).symm, nofun⟩)
    (fun running succeeded =>
      moves (Journaled.grows_asked running.session.world.world _ (dense _ _)))
    dialogue)

theorem endures_tidy : Endures (P := P.journaled) (.plain Session.Tidy) where
  toEndures := Session.endures_tidy
  trace inputs dense := abides_capture_tidy (P.trace inputs) fun _ _ => dense
  script := abides_capture_tidy P.script fun _ _ => trivial

end Executor

end Offload
