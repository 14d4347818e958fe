/-
# Fleets

A fleet is one model with its wrappers: at most one that trains it and any number that watch it,
all in one session of a journaled platform. Its moves are what an application can do with it, in
any order and number: wrap the model, call and compile the wrappers, read the model through its
handles, and fetch trained weights by hand. Between two moves the world may become any other, so
the operations of the platform may fail or succeed as they like at any point.

The main statement is that every run of a fleet is sound: its session stays balanced and its
wrappers attached, each with a device of its own.
-/

import Offload.Proofs.Lists
import Offload.Proofs.Weights.Recruit

namespace Offload

open Attempt Session

/-- One model with its wrappers. -/
structure Fleet (P : Platform) where
  handle : Handle
  session : Session P.journaled
  trainer : Option (Executor P.journaled)
  watchers : List (Executor P.journaled)

/-- What an application can do with a fleet. -/
inductive Move (P : Platform) where
  /-- Wrap the model for training, if that was not done yet. -/
  | train (options : Options) (loss : Option (Loss P)) (optimizer : Option HostOptimizer)
  /-- Wrap the model for inference. -/
  | watch (options : Options)
  | callTrainer (arguments : CallArguments)
  | compileTrainer (arguments : CallArguments)
  | callWatcher (index : Nat) (arguments : CallArguments)
  | compileWatcher (index : Nat) (arguments : CallArguments)
  /-- Read the parameters through a handle. -/
  | parameters
  /-- Run the model through a handle. -/
  | forward (inputs : List Tree)
  /-- Refresh the host weights through a handle. -/
  | sync
  /-- Demand that the weights of the trainer are fetched. -/
  | fetch
  /-- Something happened to the world. -/
  | elapse (world : P.World)

/-- The move demands a copy of weights. -/
def Move.demands {P : Platform} : Move P → Bool
  | fetch => true
  | _ => false

namespace Fleet

variable {P : Platform} {α : Type}

/-- A model that was just shared, in a session of its own. -/
def start (world : P.World) (model : P.Model) : Fleet P where
  handle := ⟨0⟩
  session := ((addModel (P := P.journaled) model).perform (Session.start (.start world))).2
  trainer := none
  watchers := []

/-- Do something on the session. -/
def onSession (step : Attempt (Session P.journaled) α) (fleet : Fleet P) : Fleet P :=
  { fleet with session := (step.perform fleet.session).2 }

/-- Do something with the trainer, if there is one. -/
def withTrainer (step : Attempt (Running P.journaled) α) (fleet : Fleet P) : Fleet P :=
  match fleet.trainer with
  | none => fleet
  | some executor =>
      let reached := (step.perform ⟨executor, fleet.session⟩).2
      { fleet with session := reached.session, trainer := some reached.executor }

/-- Do something with a watcher, if there is one at the index. -/
def withWatcher (index : Nat) (step : Attempt (Running P.journaled) α) (fleet : Fleet P) :
    Fleet P :=
  match fleet.watchers[index]? with
  | none => fleet
  | some executor =>
      let reached := (step.perform ⟨executor, fleet.session⟩).2
      { fleet with
        session := reached.session
        watchers := fleet.watchers.set index reached.executor }

/-- Wrap the model for training. -/
def addTrainer (options : Options) (loss : Option (Loss P)) (optimizer : Option HostOptimizer)
    (fleet : Fleet P) : Fleet P :=
  match (Executor.trainingModel fleet.handle options (loss.map Loss.journaled) optimizer).perform
      fleet.session with
  | (.ok executor, session) => { fleet with session := session, trainer := some executor }
  | (.error _, session) => { fleet with session := session }

/-- Wrap the model for inference. -/
def addWatcher (options : Options) (fleet : Fleet P) : Fleet P :=
  match (Executor.inferenceModel fleet.handle options).perform fleet.session with
  | (.ok executor, session) =>
      { fleet with session := session, watchers := fleet.watchers ++ [executor] }
  | (.error _, session) => { fleet with session := session }

/-- What is asked from now on is demanded, or no longer. -/
def demand (demanding : Bool) (fleet : Fleet P) : Fleet P :=
  { fleet with session := fleet.session.demand demanding }

/-- The world is another now. -/
def elapse (world : P.World) (fleet : Fleet P) : Fleet P :=
  { fleet with
    session := { fleet.session with world := { fleet.session.world with world := world } } }

/-- Make a move. What fails leaves what it has reached. -/
def step (fleet : Fleet P) : Move P → Fleet P
  | .train options loss optimizer =>
      if fleet.trainer.isSome then fleet else fleet.addTrainer options loss optimizer
  | .watch options => fleet.addWatcher options
  | .callTrainer arguments => fleet.withTrainer (Executor.call arguments)
  | .compileTrainer arguments => fleet.withTrainer (Executor.compile arguments)
  | .callWatcher index arguments => fleet.withWatcher index (Executor.call arguments)
  | .compileWatcher index arguments => fleet.withWatcher index (Executor.compile arguments)
  | .parameters => fleet.onSession (Session.parameters fleet.handle)
  | .forward inputs => fleet.onSession (Session.forward fleet.handle inputs)
  | .sync => fleet.onSession (Session.resolve fleet.handle)
  | .fetch => ((fleet.demand true).withTrainer Executor.copyToHost).demand false
  | .elapse world => fleet.elapse world

/-- Make some moves one after the other. -/
def run (fleet : Fleet P) (moves : List (Move P)) : Fleet P := moves.foldl step fleet

/-- What was asked of the platform. -/
def entries (fleet : Fleet P) : List Entry := fleet.session.world.entries

/-- The device of the trainer. -/
def lead? (fleet : Fleet P) : Option DeviceId := fleet.trainer.map Executor.device

/-- The session is balanced, and every wrapper is attached and has a device of its own. -/
structure Sound (fleet : Fleet P) : Prop where
  balanced : Balanced fleet.handle fleet.lead? fleet.session
  trainer : ∀ executor, fleet.trainer = some executor →
    Executor.Enrolled fleet.handle fleet.lead? fleet.session executor
  watcher : ∀ (index : Nat) executor, fleet.watchers[index]? = some executor →
    Executor.Enrolled fleet.handle fleet.lead? fleet.session executor ∧ executor.training = false
  apart : ∀ (index other : Nat) first second, fleet.watchers[index]? = some first →
    fleet.watchers[other]? = some second → first.device = second.device → index = other

theorem start_balanced (world : P.World) (model : P.Model) :
    Balanced (start world model).handle none (start world model).session where
  hook := rfl
  refreshes := rfl
  ahead := Nat.le_refl _
  stale _ := nofun
  untrained _ := rfl
  registered :=
    { role := fun _ _ there => nomatch there
      numbered := fun _ _ there => nomatch there
      distinct := fun _ _ _ _ there => nomatch there }
  unmarked _ := rfl
  undemanded := rfl
  upToDate := Ledger.upToDate_nil

theorem sound_start (world : P.World) (model : P.Model) : Sound (start world model) where
  balanced := start_balanced world model
  trainer _ := nofun
  watcher _ _ := nofun
  apart _ _ _ _ := nofun

/-- The fleet is sound, and nothing was demanded on the way there. -/
structure Reaches (before reached : Fleet P) : Prop where
  sound : Sound reached
  journal : Journaled.Grows (fun _ => True) before.session.world reached.session.world

theorem Sound.stays {fleet : Fleet P} (sound : Sound fleet) : Reaches fleet fleet :=
  ⟨sound, refl_of (Journaled.Grows _) fleet.session.world⟩

section Step

variable {fleet : Fleet P}

/-- A fleet stays sound in another balanced session in which its wrappers are enrolled. -/
theorem Sound.of_session (sound : Sound fleet) {session : Session P.journaled}
    (balanced : Balanced fleet.handle fleet.lead? session)
    (enrolled : ∀ executor, Executor.Enrolled fleet.handle fleet.lead? fleet.session executor →
      Executor.Enrolled fleet.handle fleet.lead? session executor) :
    Sound { fleet with session := session } where
  balanced := balanced
  trainer executor there := enrolled executor (sound.trainer executor there)
  watcher index executor there := (sound.watcher index executor there).imp_left (enrolled executor)
  apart := sound.apart

/-- Reading the model keeps a fleet sound. -/
theorem Sound.onSession (sound : Sound fleet) {step : Attempt (Session P.journaled) α}
    (steady : step.Obeys (Steady fleet.handle fleet.lead?)) :
    Reaches fleet (fleet.onSession step) :=
  have ⟨balanced, spares⟩ := steady fleet.session sound.balanced
  ⟨sound.of_session balanced fun _ enrolled => enrolled.spared spares id, spares.journal⟩

/-- A step that carries the trainer keeps a fleet sound. -/
theorem Sound.withTrainer (sound : Sound fleet) {step : Attempt (Running P.journaled) α}
    (carries : ∀ executor, fleet.trainer = some executor →
      Executor.Carried fleet.handle fleet.lead? ⟨executor, fleet.session⟩
        (step.perform ⟨executor, fleet.session⟩).2) :
    Reaches fleet (fleet.withTrainer step) := by
  unfold Fleet.withTrainer
  split
  · exact sound.stays
  · next executor there =>
      have carried := carries executor there
      generalize (step.perform ⟨executor, fleet.session⟩).2 = reached at carried
      have lead : (some reached.executor).map Executor.device = fleet.lead? := by
        rw [lead?, there, Option.map_some, Option.map_some, carried.device]
      have balanced := carried.balanced
      have enrolled := (sound.trainer executor there).carried carried
      rw [← lead] at balanced enrolled
      refine ⟨?_, carried.spares.journal⟩
      refine
        { balanced := balanced
          trainer := fun other other_there => ?_
          watcher := fun index other other_there => ?_
          apart := sound.apart }
      · obtain rfl : reached.executor = other := by simpa using other_there
        exact enrolled
      · obtain ⟨watching, watches⟩ := sound.watcher index other other_there
        have apart : other.device ≠ executor.device := fun same => by
          have leads := watching.attached.role.mpr (by rw [lead?, there, Option.map_some, same])
          exact absurd (watches.symm.trans leads) nofun
        have spared := watching.spared carried.spares apart
        rw [← lead] at spared
        exact ⟨spared, watches⟩

/-- A step that carries a watcher keeps a fleet sound. -/
theorem Sound.withWatcher (sound : Sound fleet) {index : Nat}
    {step : Attempt (Running P.journaled) α}
    (carries : ∀ executor, fleet.watchers[index]? = some executor →
      Executor.Carried fleet.handle fleet.lead? ⟨executor, fleet.session⟩
        (step.perform ⟨executor, fleet.session⟩).2) :
    Reaches fleet (fleet.withWatcher index step) := by
  unfold Fleet.withWatcher
  split
  · exact sound.stays
  · next executor there =>
      have carried := carries executor there
      generalize (step.perform ⟨executor, fleet.session⟩).2 = reached at carried
      obtain ⟨enrolled, watches⟩ := sound.watcher index executor there
      have inside : index < fleet.watchers.length := (List.getElem?_eq_some_iff.mp there).1
      -- every watcher has the device that the watcher at its index had before
      have device (position : Nat) (now : Executor P.journaled)
          (now_there : (fleet.watchers.set index reached.executor)[position]? = some now) :
          (position = index ∧ now = reached.executor) ∨
            position ≠ index ∧ fleet.watchers[position]? = some now := by
        by_cases same : position = index
        · rw [same, List.getElem?_set_self inside, Option.some.injEq] at now_there
          exact .inl ⟨same, now_there.symm⟩
        · rw [List.getElem?_set_ne (Ne.symm same)] at now_there
          exact .inr ⟨same, now_there⟩
      refine ⟨?_, carried.spares.journal⟩
      refine
        { balanced := carried.balanced
          trainer := fun other other_there => ?_
          watcher := fun position other other_there => ?_
          apart := fun position position' first second first_there second_there same => ?_ }
      · apply (sound.trainer other other_there).spared carried.spares
        intro same
        have leads : fleet.lead? = some executor.device := by
          rw [lead?, other_there, Option.map_some, same]
        exact absurd (watches.symm.trans (enrolled.attached.role.mpr leads)) nofun
      · rcases device position other other_there with ⟨-, rfl⟩ | ⟨elsewhere, other_there⟩
        · refine ⟨enrolled.carried carried, ?_⟩
          rw [Bool.eq_false_iff, ne_eq, carried.attached.role, carried.device,
            ← enrolled.attached.role, watches]
          exact nofun
        · obtain ⟨watching, watches'⟩ := sound.watcher position other other_there
          exact ⟨watching.spared carried.spares fun same =>
            elsewhere (sound.apart position index other executor other_there there same), watches'⟩
      · have old (position : Nat) (now : Executor P.journaled)
            (now_there : (fleet.watchers.set index reached.executor)[position]? = some now) :
            ∃ old, fleet.watchers[position]? = some old ∧ old.device = now.device := by
          rcases device position now now_there with ⟨rfl, rfl⟩ | ⟨-, now_there⟩
          · exact ⟨executor, there, carried.device.symm⟩
          · exact ⟨now, now_there, rfl⟩
        obtain ⟨first', first_there', first_device⟩ := old position first first_there
        obtain ⟨second', second_there', second_device⟩ := old position' second second_there
        exact sound.apart position position' first' second' first_there' second_there'
          (first_device.trans (same.trans second_device.symm))

end Step

section Wrap

variable {fleet : Fleet P}

/-- The device of the trainer was given out. -/
theorem Sound.housed (sound : Sound fleet) (id : DeviceId) (chosen : fleet.lead? = some id) :
    id.number < fleet.session.devices.next := by
  obtain ⟨executor, there, rfl⟩ := Option.map_eq_some_iff.mp chosen
  exact (sound.trainer executor there).housed

theorem Sound.addWatcher (sound : Sound fleet) (options : Options) :
    Reaches fleet (fleet.addWatcher options) := by
  have ends := Executor.ends_inferenceModel fleet.handle options fleet.session
  unfold Ends at ends
  unfold Fleet.addWatcher
  split at ends <;> rename_i performed <;> rw [performed]
  · obtain ⟨rfl, options, rfl⟩ := ends
    have new {index : Nat} {executor : Executor P.journaled}
        (there : fleet.watchers[index]? = some executor) :
        executor.device.number ≠ fleet.session.devices.next :=
      Nat.ne_of_lt (sound.watcher index executor there).1.housed
    refine ⟨?_, refl_of (Journaled.Grows _) fleet.session.world⟩
    refine
      { balanced := sound.balanced.housing sound.housed
        trainer := fun executor there => (sound.trainer executor there).housing
        watcher := fun index executor there => ?_
        apart := fun index other first second first_there second_there same => ?_ }
    · rcases getElem?_concat_eq_some_iff.mp there with old | ⟨-, rfl⟩
      · obtain ⟨enrolled, watches⟩ := sound.watcher index executor old
        exact ⟨enrolled.housing, watches⟩
      · exact ⟨Executor.enrolled_watcher sound.housed options, rfl⟩
    · rcases getElem?_concat_eq_some_iff.mp first_there with old | ⟨last, rfl⟩ <;>
        rcases getElem?_concat_eq_some_iff.mp second_there with old' | ⟨last', rfl⟩
      · exact sound.apart index other first second old old' same
      · exact absurd (congrArg DeviceId.number same) (new old)
      · exact absurd (congrArg DeviceId.number same).symm (new old')
      · rw [last, last']
  · obtain rfl := ends
    exact sound.stays

theorem Sound.addTrainer (sound : Sound fleet) (none : fleet.trainer = none) (options : Options)
    (loss : Option (Loss P)) (optimizer : Option HostOptimizer) :
    Reaches fleet (fleet.addTrainer options loss optimizer) := by
  have ends := Executor.ends_trainingModel fleet.handle options
    (loss.map Loss.journaled) optimizer fleet.session
  have lead : fleet.lead? = .none := by rw [lead?, none, Option.map_none]
  unfold Ends at ends
  unfold Fleet.addTrainer
  split at ends <;> rename_i performed <;> rw [performed]
  · obtain ⟨⟨options, descriptor, rfl⟩, rfl⟩ := ends
    have balanced := sound.balanced.housing sound.housed
    rw [lead] at balanced
    refine ⟨?_, refl_of (Journaled.Grows _) fleet.session.world⟩
    refine
      { balanced := balanced.appoint (Executor.recruit_fresh _ _ _ _ _)
        trainer := fun executor there => ?_
        watcher := fun index executor there => ?_
        apart := sound.apart }
    · obtain rfl := Option.some.inj there
      exact Executor.enrolled_trainer options loss _ rfl
    · obtain ⟨enrolled, watches⟩ := sound.watcher index executor there
      rw [lead] at enrolled
      exact ⟨enrolled.appoint rfl rfl, watches⟩
  · obtain rfl := ends
    exact sound.stays

end Wrap

section Run

variable {fleet : Fleet P}

theorem Sound.elapse (sound : Sound fleet) (world : P.World) :
    Reaches fleet (fleet.elapse world) :=
  have idles : Idles fleet.handle fleet.session (fleet.elapse world).session :=
    ⟨⟨rfl, [], (List.append_nil _).symm, by simp⟩, rfl, rfl, rfl⟩
  have spares := idles.spares fun _ => False
  ⟨sound.of_session (idles.balanced sound.balanced) fun _ enrolled => enrolled.spared spares id,
    spares.journal⟩

/-- Whether what is asked is demanded does not matter to a wrapper. -/
theorem enrolled_demand {handle : Handle} {lead : Option DeviceId} {session : Session P.journaled}
    {executor : Executor P.journaled} (demanding : Bool)
    (enrolled : Executor.Enrolled handle lead session executor) :
    Executor.Enrolled handle lead (session.demand demanding) executor :=
  ⟨⟨enrolled.attached.serves, enrolled.attached.follows, enrolled.attached.leads,
    enrolled.attached.role, enrolled.attached.seen⟩, enrolled.housed⟩

/-- A fetch by hand happens on the device of the trainer, if there is one. -/
theorem step_fetch (fleet : Fleet P) : fleet.step .fetch =
    { fleet with
      session := match fleet.lead? with
        | none => fleet.session.demand false
        | some id => ((copyToHost id).perform (fleet.session.demand true)).2.demand false } := by
  obtain ⟨handle, session, trainer, watchers⟩ := fleet
  cases trainer <;> rfl

/-- A fetch by hand keeps a fleet sound. It is the one move that is demanded. -/
theorem Sound.fetch (sound : Sound fleet) : Sound (fleet.step .fetch) := by
  rw [step_fetch]
  have balanced := sound.balanced
  cases lead : fleet.lead? with
  | none =>
      have silent : Session.Silent fleet.session (fleet.session.demand false) :=
        ⟨[], (List.append_nil _).symm, by simp⟩
      exact sound.of_session (balanced.silent silent rfl rfl (fun _ => rfl) rfl)
        fun _ => enrolled_demand false
  | some id =>
      rw [lead] at balanced
      have fetches : (copyToHost id).Ends (fleet.session.demand true)
          (fun _ reached => Sound { fleet with session := reached.demand false })
          fun _ reached => Sound { fleet with session := reached.demand false } := by
        refine (ends_copyToHost fleet.handle id _).mono ?_ fun _ reached idles => ?_
        · intro _ reached ended
          obtain ⟨tagged, world, there, rfl⟩ := ended
          have spares : Spares (fun _ => False) (fleet.session.demand true)
              ((fleet.session.demand true).did (.copyToHost tagged.tag) world id fun device =>
                { device with hostStale := false }) :=
            spares_did (fun _ => rfl) fun _ _ _ _ => rfl
          refine sound.of_session ?_ fun _ enrolled =>
            enrolled_demand false ((enrolled_demand true enrolled).spared spares False.elim)
          rw [lead]
          exact balanced.fetch true there rfl rfl rfl rfl rfl
        · have spares := idles.spares fun _ => False
          refine sound.of_session ?_ fun _ enrolled =>
            enrolled_demand false ((enrolled_demand true enrolled).spared spares False.elim)
          rw [lead]
          exact balanced.silent idles.silent idles.hook idles.refreshes idles.device rfl
      exact fetches.reached

/-- Every move but a fetch by hand keeps a fleet sound and demands nothing. -/
theorem Sound.reaches (sound : Sound fleet) {move : Move P} (silent : move.demands = false) :
    Reaches fleet (fleet.step move) := by
  cases move with
  | train options loss optimizer =>
      rw [step]
      split
      · exact sound.stays
      · next none => exact sound.addTrainer (by simpa using none) options loss optimizer
  | watch options => exact sound.addWatcher options
  | callTrainer arguments =>
      apply sound.withTrainer
      intro executor there
      have enrolled := sound.trainer executor there
      exact ((Executor.ends_call ⟨executor, fleet.session⟩ sound.balanced
        enrolled.attached arguments).mono (fun _ _ ended => ended.1) fun _ _ => id).reached
  | compileTrainer arguments =>
      apply sound.withTrainer
      intro executor there
      exact (Executor.ends_compile ⟨executor, fleet.session⟩ sound.balanced
        (sound.trainer executor there).attached arguments).reached
  | callWatcher index arguments =>
      apply sound.withWatcher
      intro executor there
      have enrolled := (sound.watcher index executor there).1
      exact ((Executor.ends_call ⟨executor, fleet.session⟩ sound.balanced
        enrolled.attached arguments).mono (fun _ _ ended => ended.1) fun _ _ => id).reached
  | compileWatcher index arguments =>
      apply sound.withWatcher
      intro executor there
      exact (Executor.ends_compile ⟨executor, fleet.session⟩ sound.balanced
        (sound.watcher index executor there).1.attached arguments).reached
  | parameters => exact sound.onSession obeys_parameters
  | forward inputs => exact sound.onSession (obeys_forward inputs)
  | sync => exact sound.onSession obeys_resolve
  | fetch => exact absurd silent nofun
  | elapse world => exact sound.elapse world

theorem Sound.step (sound : Sound fleet) (move : Move P) : Sound (fleet.step move) := by
  cases demands : move.demands with
  | false => exact (sound.reaches demands).sound
  | true =>
      cases move with
      | fetch => exact sound.fetch
      | _ => exact nomatch demands

/-- Every run of a sound fleet ends in a sound fleet. -/
theorem Sound.run (sound : Sound fleet) (moves : List (Move P)) : Sound (fleet.run moves) := by
  induction moves generalizing fleet with
  | nil => exact sound
  | cons move later ih => exact ih (sound.step move)

end Run

end Fleet

end Offload
