/-
# Several trainers of one model

A team is a workshop around one model, which may be wrapped for training and for inference any
number of times. All handles of the model share one hook, and whoever wraps the model for training
replaces it, so from then on only the device of the new wrapper is looked at by a read. The main
statement is that after a read that succeeded nothing that was trained by the wrapper for training
that was made last is left on its device, while the marks of all others are what they were.
-/

import Offload.Proofs.Weights.Recruit
import Offload.Proofs.Workshop.Staleness

namespace Offload

open Attempt Session Executor

/-- One model and what was made of it. -/
structure Team (P : Platform) where
  handle : Handle
  workshop : Workshop P

namespace Team

variable {P : Platform} {α : Type}

/-- What an application can do with a model and its wrappers. -/
inductive Move (P : Platform) where
  /-- Wrap the model for training. -/
  | train (options : Options) (loss : Option (Loss P)) (optimizer : Option HostOptimizer)
  /-- Wrap the model for inference. -/
  | watch (options : Options)
  /-- Give a wrapper a task. -/
  | work (number : Nat) (task : Task)
  /-- Read the parameters of the model through a handle. -/
  | parameters
  /-- Run the model through a handle. -/
  | forward (inputs : List Tree)
  /-- Refresh the host weights of the model through a handle. -/
  | sync
  /-- Something happened to the world, and to the model and those who hold it. -/
  | elapse (world : P.World) (model : P.Model) (readers : Nat) (writing : Bool)

/-- A model that was just shared. -/
def start (world : P.World) (model : P.Model) : Team P where
  handle := ⟨0⟩
  workshop :=
    { Workshop.start world with
      session := ((addModel (P := P.journaled) model).perform (Session.start (.start world))).2 }

/-- Make a wrapper of the model. -/
def enlist (step : Attempt (Session P.journaled) (Executor P.journaled)) (team : Team P) : Team P :=
  match step.perform team.workshop.session with
  | (.ok wrapper, session) =>
      { team with
        workshop :=
          { session := session
            wrappers := team.workshop.wrappers ++ [wrapper]
            history := team.workshop.history ++ [.made wrapper.requested] } }
  | (.error _, session) => { team with workshop := { team.workshop with session := session } }

/-- Make a move. What fails leaves what it has reached. -/
def step (team : Team P) : Move P → Team P
  | .train options loss optimizer =>
      team.enlist (Executor.trainingModel team.handle options (loss.map Loss.journaled) optimizer)
  | .watch options => team.enlist (Executor.inferenceModel team.handle options)
  | .work number task => { team with workshop := team.workshop.work number task }
  | .parameters => { team with workshop := team.workshop.read (Session.parameters team.handle) }
  | .forward inputs =>
      { team with workshop := team.workshop.read (Session.forward team.handle inputs) }
  | .sync => { team with workshop := team.workshop.read (Session.resolve team.handle) }
  | .elapse world model readers writing =>
      { team with
        workshop := team.workshop.elapse world
          (team.workshop.session.models.update team.handle.number fun cell =>
            { cell with model := model, readers := readers, writing := writing }) }

/-- Make some moves one after the other. -/
def run (team : Team P) (moves : List (Move P)) : Team P := moves.foldl step team

end Team

/-- The device of the last post that trains. -/
def Post.lead? (posts : List Post) : Option DeviceId :=
  (posts.filter Post.training).getLast?.map Post.device

theorem Post.lead?_append_singleton (posts : List Post) (post : Post) :
    lead? (posts ++ [post]) = if post.training then some post.device else lead? posts := by
  rw [lead?, lead?, List.filter_append, List.filter_singleton]
  split <;> simp [*]

/-- The device of the wrapper for training that was made last. -/
def Team.lead? {P : Platform} (team : Team P) : Option DeviceId := Post.lead? team.workshop.posts

section Keep

variable {P : Platform} {binding : Binding} {before reached : Running P.journaled}

/-- No hook was changed, and a wrapper that trains a model goes on doing so. -/
structure Executor.Keeps (before reached : Running P.journaled) : Prop where
  hook : ∀ handle, (reached.session.cell handle).hook = (before.session.cell handle).hook
  trains : ∀ handle loss, before.executor.subject = .training handle loss →
    reached.executor.subject = .training handle loss

instance : IsPreorder (Running P.journaled) Executor.Keeps where
  refl _ := ⟨fun _ => rfl, fun _ _ => id⟩
  trans _ _ _ earlier later :=
    ⟨fun handle => (later.hook handle).trans (earlier.hook handle),
      fun handle loss same => later.trains handle loss (earlier.trains handle loss same)⟩

theorem Executor.Does.keeps (does : Does binding before reached)
    (journaled : before.executor.subject.IsJournaled) : Keeps before reached := by
  cases does with
  | tells _ tells =>
      obtain ⟨notices, warned, rfl⟩ := tells
      exact ⟨fun _ => rfl, fun _ _ => id⟩
  | prepares _ fresh prepares =>
      exact ⟨(prepares.errands journaled).hook, fun handle loss same =>
        (prepares.subject.trains handle loss same).trans same⟩
  | refreshes session errands => exact ⟨errands.hook, fun _ _ => id⟩
  | _ => exact ⟨fun _ => rfl, fun _ _ => id⟩

theorem Executor.Deeds.keeps (deeds : Deeds binding before reached)
    (journaled : before.executor.subject.IsJournaled) : Keeps before reached := by
  induction deeds with
  | refl => exact refl_of Keeps before
  | tail earlier does ih =>
      have role := Deeds.role earlier
      exact trans_of Keeps ih (does.keeps (role.journaled journaled))

theorem Executor.Executes.keeps {inputs : List Value} {succeeded : Bool}
    (executes : Executes inputs before succeeded reached) : Keeps before reached := by
  cases executes with
  | succeeds tagged world there =>
      refine ⟨fun _ => ?_, fun _ _ => id⟩
      unfold executedSession
      dsimp only
      split <;> rfl
  | fails tagged world there => exact ⟨fun _ => rfl, fun _ _ => id⟩

theorem Executor.Called.keeps {arguments : CallArguments} {outcome : Result Output}
    (called : Called arguments before outcome reached)
    (journaled : before.executor.subject.IsJournaled) : Keeps before reached := by
  cases called with
  | failed _ _ _ deeds => exact deeds.keeps journaled
  | refused _ _ _ _ deeds _ executes =>
      exact trans_of Keeps (deeds.keeps journaled) executes.keeps
  | stopped _ _ deeds => exact deeds.keeps journaled
  | executed _ _ _ _ deeds _ executes =>
      exact trans_of Keeps (deeds.keeps journaled) executes.keeps

/-- No task changes a hook, or what is trained. -/
theorem Executor.Worked.keeps {task : Task} {outcome : Result (Option Output)}
    (worked : Worked before task outcome reached)
    (journaled : before.executor.subject.IsJournaled) : Keeps before reached := by
  cases worked with
  | called arguments outcome _ called => exact called.keeps journaled
  | plain _ _ binding _ kind deeds => exact deeds.keeps journaled
  | copied _ _ binding ready kind deeds =>
      have kept := deeds.keeps journaled
      exact ⟨kept.hook, kept.trains⟩
  | _ => exact ⟨fun _ => rfl, fun _ _ => id⟩

end Keep

section Read

variable {P : Platform} {handle : Handle} {lead : Option DeviceId}

/-- The mark of the given device was cleared, and all others are what they were. -/
def Session.Pulls (lead : Option DeviceId) (before reached : Session P.journaled) : Prop :=
  ∀ id, (reached.device id).hostStale = ((before.device id).hostStale && decide (lead ≠ some id))

theorem Session.Pulls.of_devices {before reached last : Session P.journaled}
    (pulls : Pulls lead before reached) (devices : last.devices = reached.devices) :
    Pulls lead before last := by
  intro id
  rw [Session.device, devices]
  exact pulls id

/-- Where stale weights are fetched from the device, there are none any more. -/
theorem Session.ends_fetchIfStale_pulls (id : DeviceId) (session : Session P.journaled) :
    (fetchIfStale id).Ends session (fun _ reached => Pulls (some id) session reached)
      fun _ _ => True := by
  simp only [fetchIfStale, ends_bind, ends_get]
  split
  · rw [ends_bind, notify, ends_modify, ends_bind]
    refine (ends_copying id _ _).mono ?_ fun _ _ _ => trivial
    rintro _ _ ⟨tagged, world, -, -, rfl⟩ other
    rw [did_device]
    split
    · next same => simp [same]
    · next apart =>
        have chosen : some id ≠ some other := fun same => apart (Option.some.inj same).symm
        rw [decide_eq_true chosen, Bool.and_true]
        rfl
  · next fresh =>
      intro other
      by_cases same : other = id
      · simp [same, Bool.eq_false_iff.mpr fresh]
      · have chosen : some id ≠ some other := fun chosen => same (Option.some.inj chosen).symm
        rw [decide_eq_true chosen, Bool.and_true]

/-- Refreshing a model looks at the device that is its hook. -/
theorem Session.ends_resolve_pulls (session : Session P.journaled)
    (hook : (session.cell handle).hook = lead.map .device) :
    (resolve handle).Ends session (fun _ reached => Pulls lead session reached)
      fun _ _ => True := by
  simp only [resolve, ends_bind, ends_get, hook]
  cases lead with
  | none => exact fun id => by simp
  | some id =>
      refine (ends_fetchIfStale_pulls id session).mono (fun refreshed reached pulls => ?_)
        fun _ _ _ => trivial
      split
      · rw [updateCell, ends_bind, ends_modify]
        exact pulls.of_devices rfl
      · exact pulls

/-- A read of the model through the handle succeeded. -/
def Session.Reads (handle : Handle) (before reached : Session P.journaled) : Prop :=
  (∃ parameters, (Session.parameters handle).perform before = (.ok parameters, reached)) ∨
    ∃ inputs output, (Session.forward handle inputs).perform before = (.ok output, reached)

theorem Session.Reads.pulls {before reached : Session P.journaled}
    (reads : Reads handle before reached) (hook : (before.cell handle).hook = lead.map .device) :
    Pulls lead before reached := by
  have asking {α : Type} {step : Attempt (Session P.journaled) α}
      (idles : step.Obeys (Idles handle)) :
      (do let _ ← resolve handle; step : Attempt (Session P.journaled) α).Ends before
        (fun _ reached => Pulls lead before reached) fun _ _ => True := by
    rw [ends_bind]
    refine (ends_resolve_pulls before hook).mono (fun _ middle pulls => ?_) fun _ _ _ => trivial
    exact (idles.ends middle).mono (fun _ _ idle => pulls.of_devices idle.devices)
      fun _ _ _ => trivial
  rcases reads with ⟨parameters, ended⟩ | ⟨inputs, output, ended⟩
  · exact (asking (obeys_parametersAsIs bears_idles handle)).ok ended
  · exact (asking (obeys_forwardAsIs bears_idles handle inputs)).ok ended

theorem Session.Reads.errands {before reached : Session P.journaled}
    (reads : Reads handle before reached) : Errands false before reached := by
  rcases reads with ⟨parameters, ended⟩ | ⟨inputs, output, ended⟩
  · have errands : Errands false before _ := (abides_parameters id handle).reached before
    rwa [ended] at errands
  · have errands : Errands false before _ := (abides_forward id handle inputs).reached before
    rwa [ended] at errands

end Read

namespace Team

variable {P : Platform} {team : Team P}

/-- The marks of a team say what its history says, wrappers that train do so with the model of the
team, and its hook is the device of the last of them. -/
structure Staffed (team : Team P) : Prop where
  truthful : Workshop.Truthful team.workshop
  trains : ∀ wrapper ∈ team.workshop.wrappers, wrapper.training = true →
    ∃ loss, wrapper.subject = .training team.handle loss
  hook : (team.workshop.session.cell team.handle).hook = team.lead?.map .device

theorem staffed_start (world : P.World) (model : P.Model) : Staffed (start world model) where
  truthful :=
    ((Workshop.truthful_start world).step
      (.elapse world (start world model).workshop.session.models)).1
  trains _ there := nomatch there
  hook := rfl

/-- A read or a change of the world leaves the wrappers, and no hook is changed. -/
theorem Staffed.of_wrappers (staffed : Staffed team) {workshop : Workshop P}
    (truthful : Workshop.Truthful workshop) (wrappers : workshop.wrappers = team.workshop.wrappers)
    (hook : (workshop.session.cell team.handle).hook =
      (team.workshop.session.cell team.handle).hook) :
    Staffed { team with workshop := workshop } where
  truthful := truthful
  trains wrapper there := staffed.trains wrapper (wrappers ▸ there)
  hook := by
    rw [lead?, Workshop.posts]
    dsimp only
    rw [wrappers]
    exact hook.trans staffed.hook

theorem Staffed.read {α : Type} {step : Attempt (Session P.journaled) α} (staffed : Staffed team)
    (abides : step.Abides (errandsVerdict false (P.Spares .notCompiled))) :
    Staffed { team with workshop := team.workshop.read step } := by
  have errands : Errands false team.workshop.session (step.perform team.workshop.session).2 :=
    abides.reached team.workshop.session
  exact staffed.of_wrappers (staffed.truthful.read abides).1 rfl (errands.hook team.handle)

theorem Staffed.work (staffed : Staffed team) (number : Nat) (task : Task) :
    Staffed { team with workshop := team.workshop.work number task } := by
  have truthful := (staffed.truthful.work number task).1
  unfold Workshop.work at truthful ⊢
  split
  · exact staffed
  · next wrapper there =>
      have mem := List.mem_of_getElem? there
      have journaled := staffed.truthful.sound.orderly.journaled wrapper mem
      have worked : Worked ⟨wrapper, team.workshop.session⟩ task _ _ :=
        worked_runTask task journaled
      rw [there] at truthful
      dsimp only at truthful ⊢
      generalize (runTask task).perform ⟨wrapper, team.workshop.session⟩ = ended
        at worked truthful ⊢
      obtain ⟨outcome, reached⟩ := ended
      have keeps := worked.keeps journaled
      obtain ⟨more, finished⟩ :=
        worked.finished staffed.truthful.sound.undemanding there staffed.truthful.sound.orderly
      exact
        { truthful := truthful
          trains := fun other other_there trains => by
            rcases List.mem_or_eq_of_mem_set other_there with old | rfl
            · exact staffed.trains other old trains
            · obtain ⟨loss, subject⟩ := staffed.trains wrapper mem (finished.role.training ▸ trains)
              exact ⟨loss, keeps.trains team.handle loss subject⟩
          hook := by
            rw [lead?, Workshop.posts]
            dsimp only
            rw [map_set_of_eq there finished.role.post, keeps.hook]
            exact staffed.hook }

/-- A new wrapper joins. If it trains, it trains the model, and the hook becomes its device. -/
structure Joins (team : Team P) (subject : Subject P) (training : Bool)
    (models : Store (ModelCell P.journaled)) : Prop where
  trains : training = true → ∃ loss, subject.journaled = .training team.handle loss
  hook : (models.get team.handle.number).hook =
    if training then some (.device ⟨team.workshop.session.devices.next⟩)
    else (team.workshop.session.cell team.handle).hook

theorem Staffed.enlist (staffed : Staffed team)
    {step : Attempt (Session P.journaled) (Executor P.journaled)}
    (ends : step.Ends team.workshop.session
      (fun wrapper reached => ∃ subject options training optimizer models,
        Joins team subject training models ∧
        wrapper = recruit subject.journaled options training optimizer team.workshop.session ∧
        reached = { Session.housing team.workshop.session with models := models })
      fun _ reached => reached = team.workshop.session) : Staffed (team.enlist step) := by
  unfold Team.enlist
  split
  · next wrapper reached ended =>
      obtain ⟨subject, options, training, optimizer, models, joins, rfl, rfl⟩ := ends.ok ended
      have wrapped := (staffed.truthful.wrap subject options training optimizer).1
      rw [Workshop.wrap, perform_make] at wrapped
      exact
        { truthful :=
            (wrapped.step (.elapse team.workshop.session.world.world models)).1
          trains := fun other there trains => by
            rcases List.mem_append.mp there with old | new
            · exact staffed.trains other old trains
            · obtain rfl := List.mem_singleton.mp new
              exact joins.trains trains
          hook := by
            have hook := joins.hook
            rw [lead?, Workshop.posts, List.map_append, List.map_singleton,
              Post.lead?_append_singleton]
            cases training with
            | true => exact hook
            | false => exact hook.trans staffed.hook }
  · next cause reached ended =>
      rw [ends.error ended]
      exact staffed

/-- Every move keeps a team staffed. -/
theorem Staffed.step (staffed : Staffed team) (move : Move P) : Staffed (team.step move) := by
  cases move with
  | train options loss optimizer =>
      refine staffed.enlist ((ends_trainingModel _ _ _ _ _).mono ?_ fun _ _ => id)
      rintro _ _ ⟨⟨options, descriptor, rfl⟩, rfl⟩
      refine ⟨.training team.handle loss, options, true, some descriptor, _,
        ⟨fun _ => ⟨_, rfl⟩, ?_⟩, rfl, rfl⟩
      rw [Store.get_update, if_pos rfl]
      rfl
  | watch options =>
      refine staffed.enlist ((ends_inferenceModel _ _ _).mono ?_ fun _ _ => id)
      rintro _ _ ⟨rfl, options, rfl⟩
      exact ⟨.shared team.handle, options, false, none, team.workshop.session.models, ⟨nofun, rfl⟩,
        rfl, rfl⟩
  | work number task => exact staffed.work number task
  | parameters => exact staffed.read (abides_parameters id team.handle)
  | forward inputs => exact staffed.read (abides_forward id team.handle inputs)
  | sync => exact staffed.read (abides_resolve id team.handle)
  | elapse world model readers writing =>
      refine staffed.of_wrappers (staffed.truthful.step (.elapse world _)).1 rfl ?_
      refine sameHooks_update ?_ team.handle.number
      exact fun _ => rfl

/-- Every run keeps a team staffed. -/
theorem Staffed.run (staffed : Staffed team) (moves : List (Move P)) :
    Staffed (team.run moves) := by
  induction moves generalizing team with
  | nil => exact staffed
  | cons move later ih => exact ih (staffed.step move)

/-- A handle of the model of the team: the one that was there first, or the one that a wrapper
trains. -/
def Handles (team : Team P) (handle : Handle) : Prop :=
  handle = team.handle ∨
    ∃ wrapper ∈ team.workshop.wrappers, wrapper.training = true ∧
      trainedModel? wrapper = some handle

theorem Staffed.handle (staffed : Staffed team) {handle : Handle} (through : team.Handles handle) :
    handle = team.handle := by
  rcases through with same | ⟨wrapper, there, trains, trained⟩
  · exact same
  · obtain ⟨loss, subject⟩ := staffed.trains wrapper there trains
    rw [trainedModel?, subject] at trained
    exact (Option.some.inj trained).symm

/-- Whatever was done with a model and any number of wrappers, a read of the model that succeeds,
through any handle, leaves nothing that the wrapper for training that was made last has trained on
its device: its mark is cleared, and no training step of it is unsaved. The mark of any other
wrapper is what it was. -/
theorem read_pulls_last_trainer (world : P.World) (model : P.Model) (moves : List (Move P))
    (handle : Handle) (through : ((start world model).run moves).Handles handle)
    (reached : Session P.journaled)
    (reads : Reads handle ((start world model).run moves).workshop.session reached) :
    ∀ wrapper ∈ ((start world model).run moves).workshop.wrappers,
      (((start world model).run moves).lead? = some wrapper.device →
        (reached.device wrapper.device).hostStale = false ∧
          ∀ tagged, (reached.device wrapper.device).executable = some tagged →
            ¬ Unsaved tagged.tag reached.world.entries) ∧
      (((start world model).run moves).lead? ≠ some wrapper.device →
        (reached.device wrapper.device).hostStale =
          (((start world model).run moves).workshop.session.device wrapper.device).hostStale) := by
  have staffed := (staffed_start world model).run moves
  generalize (start world model).run moves = team at *
  obtain rfl := staffed.handle through
  intro wrapper _
  have pulls := reads.pulls staffed.hook wrapper.device
  refine ⟨fun leads => ?_, fun other => ?_⟩
  · have cleared : (reached.device wrapper.device).hostStale = false := by
      rw [pulls, leads]
      simp
    refine ⟨cleared, fun tagged executable unsaved => ?_⟩
    obtain ⟨more, goes⟩ : ∃ more, Goes _ _ none team.workshop.session reached more :=
      staffed.truthful.candid.errands reads.errands
    -- the read kept the session candid, so an unsaved step would still be marked
    have stale := (goes.upholds.candid.hostStale wrapper.device).mpr ⟨tagged, executable, unsaved⟩
    exact nomatch stale.symm.trans cleared
  · rw [pulls, decide_eq_true other, Bool.and_true]

/-- A model that gives back its inputs. -/
def rehearsedModel : (Rehearsal.platform true).Model := ⟨.empty, [], true⟩

/-- A model is wrapped for training twice, and each wrapper makes a step. -/
def trainedTwice : List (Move (Rehearsal.platform true)) :=
  [.train .initial none none, .train .initial none none, .work 0 (.call ⟨[.absent], []⟩),
    .work 1 (.call ⟨[.absent], []⟩)]

/-- What comes of that. -/
abbrev twiceTrained : Team (Rehearsal.platform true) :=
  (start Rehearsal.World.initial rehearsedModel).run trainedTwice

/-- Reading the parameters of that model succeeds. -/
theorem reads_twiceTrained : Reads ⟨0⟩ twiceTrained.workshop.session
    ((Session.parameters ⟨0⟩).perform twiceTrained.workshop.session).2 := by
  have succeeds :
      ((Session.parameters ⟨0⟩).perform twiceTrained.workshop.session).1.isOk = true := by
    decide +kernel
  refine .inl ?_
  generalize (Session.parameters ⟨0⟩).perform twiceTrained.workshop.session = ended at succeeds ⊢
  obtain ⟨_ | parameters, reached⟩ := ended
  · exact nomatch succeeds
  · exact ⟨parameters, rfl⟩

/-- A wrapper of the rehearsed platform. -/
abbrev Rehearsed := Executor (Rehearsal.platform true).journaled

/-- The step of the wrapper that was made first stays on its device. -/
theorem read_leaves_first_trainer :
    ∃ reached, Reads ⟨0⟩ twiceTrained.workshop.session reached ∧
      ∃ wrapper : Rehearsed, wrapper ∈ twiceTrained.workshop.wrappers[0]? ∧
        wrapper.training = true ∧ (reached.device wrapper.device).hostStale = true ∧
          ∃ tagged ∈ (reached.device wrapper.device).executable,
            Unsaved tagged.tag reached.world.entries :=
  ⟨_, reads_twiceTrained, by decide +kernel⟩

/-- The step of the other one was on its device only, and is fetched. -/
theorem read_pulls_second_trainer :
    ∃ reached, twiceTrained.Handles ⟨0⟩ ∧ Reads ⟨0⟩ twiceTrained.workshop.session reached ∧
      ∃ wrapper : Rehearsed, wrapper ∈ twiceTrained.workshop.wrappers[1]? ∧
        (twiceTrained.workshop.session.device wrapper.device).hostStale = true ∧
          (reached.device wrapper.device).hostStale = false ∧
          ∀ tagged, (reached.device wrapper.device).executable = some tagged →
            ¬ Unsaved tagged.tag reached.world.entries := by
  obtain ⟨wrapper, there, leads, stale⟩ :
      ∃ wrapper : Rehearsed, wrapper ∈ twiceTrained.workshop.wrappers[1]? ∧
        twiceTrained.lead? = some wrapper.device ∧
          (twiceTrained.workshop.session.device wrapper.device).hostStale = true := by
    decide +kernel
  have through : twiceTrained.Handles ⟨0⟩ := .inl (by decide +kernel)
  have pulled := (@read_pulls_last_trainer (Rehearsal.platform true) Rehearsal.World.initial
    rehearsedModel trainedTwice ⟨0⟩ through _ reads_twiceTrained wrapper
    (List.mem_of_getElem? there)).1 leads
  exact ⟨_, through, reads_twiceTrained, wrapper, there, stale, pulled⟩

end Team

end Offload
