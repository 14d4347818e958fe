/-
# Locked options

Many changes write an option without a look at what is there. They may, because of what every
change keeps, made or refused: each option declared from the start is there with its kind, and the
settings of capture and of training are one entry each, of the right kind. Once this holds, every
change keeps the kinds of all top-level options that it finds, and so does a run of changes.
-/

import Offload.Proofs.Options.Kinds
import Offload.Options.Store

namespace Offload.OptionStore

open Attempt

variable {store : OptionStore} {option : String} {value : OptionValue}

/-- The options declared from the start are there with their kinds, and the settings of capture
and of training are those that the configuration reads and no others. -/
structure Locked (store : OptionStore) : Prop where
  declared : Options.declared.Keeps store.general
  capture : store.capture = store.options.captureTable
  training : store.training = store.options.trainingTable

theorem locked_initial : initial.Locked := ⟨refl_of OptionTable.Keeps _, rfl, rfl⟩

/-- What a change keeps: the locks, and where they hold the kinds of all top-level options. -/
def Advances (before reached : OptionStore) : Prop :=
  before.Locked → reached.Locked ∧ before.general.Keeps reached.general

instance : IsPreorder OptionStore Advances where
  refl store locked := ⟨locked, refl_of OptionTable.Keeps store.general⟩
  trans _ _ _ first second locked := by
    obtain ⟨locked, keeps⟩ := first locked
    obtain ⟨locked, keeps'⟩ := second locked
    exact ⟨locked, trans_of OptionTable.Keeps keeps keeps'⟩

/-! ## What single changes do -/

/-- Setting writes a present option with a value of its kind, and is refused otherwise. -/
theorem ends_set : (set option value).Ends store
    (fun _ reached => store.general.kindAt? option = some value.kind ∧
      reached = { store with general := store.general.insert option value })
    fun _ reached => store.general.kindAt? option ≠ some value.kind ∧ reached = store := by
  refine ends_within.mpr (OptionTable.ends_set.mono ?_ ?_)
  · rintro _ _ ⟨present, rfl⟩
    exact ⟨present, rfl⟩
  · rintro _ _ ⟨apart, rfl⟩
    exact ⟨apart, rfl⟩

/-- Declaring or setting writes what the table admits, and is refused otherwise. -/
theorem ends_createOrSet : (createOrSet option value).Ends store
    (fun _ reached => store.general.Admits option value ∧
      reached = { store with general := store.general.insert option value })
    fun _ reached => ¬ store.general.Admits option value ∧ reached = store := by
  refine ends_within.mpr (OptionTable.ends_createOrSet.mono ?_ ?_)
  · rintro _ _ ⟨admits, rfl⟩
    exact ⟨admits, rfl⟩
  · rintro _ _ ⟨apart, rfl⟩
    exact ⟨apart, rfl⟩

/-- A change that is refused leaves the store exactly as it was. -/
theorem ends_change (step : Options.Change) (store : OptionStore) :
    (change step).Ends store (fun _ _ => True) fun _ reached => reached = store := by
  cases step with
  | set option value => exact ends_set.mono (fun _ _ _ => trivial) fun _ _ refused => refused.2
  | createOrSet option value =>
      exact ends_createOrSet.mono (fun _ _ _ => trivial) fun _ _ refused => refused.2
  | anchorMode mode period =>
      exact ends_bind.mpr (ends_ofResult (fun _ _ => trivial) fun _ _ => rfl)
  | offlineTarget version =>
      exact ends_onCopy.mpr ((ends_somehow _ store).mono (fun _ _ _ => trivial) fun _ _ _ => rfl)
  | ipuId | pipelining | randomSeed =>
      exact ends_createOrSet.mono (fun _ _ _ => trivial) fun _ _ refused => refused.2
  | deviceIterations | replicationFactor | gradientAccumulation | logDir | profile | simulator
  | connectionType | syncPattern | traceModel | backend => trivial

/-! ## What single changes keep -/

/-- A top-level option may be put if the table admits it where the locks hold. -/
theorem advances_insert (admits : store.Locked → store.general.Admits option value) :
    Advances store { store with general := store.general.insert option value } := by
  intro locked
  have keeps := (admits locked).keeps
  exact ⟨⟨trans_of OptionTable.Keeps locked.declared keeps, locked.capture, locked.training⟩, keeps⟩

/-- An option declared from the start may be put with the kind it was declared with. -/
theorem obeys_put (declared : Options.declared.kindAt? option = some value.kind) :
    (put option value).Obeys Advances :=
  fun _ => advances_insert fun locked => .inr (locked.declared _ _ declared)

theorem obeys_set : (set option value).Obeys Advances := by
  refine obeys_of_ends fun store => ends_set.mono ?_ ?_
  · rintro _ _ ⟨present, rfl⟩
    exact advances_insert fun _ => .inr present
  · rintro _ _ ⟨-, rfl⟩
    exact refl_of Advances _

theorem obeys_createOrSet : (createOrSet option value).Obeys Advances := by
  refine obeys_of_ends fun store => ends_createOrSet.mono ?_ ?_
  · rintro _ _ ⟨admits, rfl⟩
    exact advances_insert fun _ => admits
  · rintro _ _ ⟨-, rfl⟩
    exact refl_of Advances _

theorem obeys_setAnchorMode {mode : AnchorMode} {period : Option Nat} :
    (setAnchorMode mode period).Obeys Advances :=
  obeys_bind (obeys_ofResult _) fun _ => obeys_bind (obeys_put rfl) fun _ => obeys_put rfl

/-- Settings of capture that are one truth value are what is read from them. -/
theorem capture_eq {enabled : Bool}
    (one : store.capture = Dict.ofList [("trace_model", .bool enabled)]) :
    store.capture = store.options.captureTable := by
  have read : store.options.traceModel = enabled := by
    rw [options, OptionTable.boolAt, one, Dict.get?_ofList_singleton]
    rfl
  rw [Options.captureTable, read, one]

/-- Settings of training that are one number are what is read from them. -/
theorem training_eq {count : Nat}
    (one : store.training = Dict.ofList [("gradient_accumulation", .int count)]) :
    store.training = store.options.trainingTable := by
  have read : store.options.gradientAccumulation = count := by
    rw [options, OptionTable.intAt, one, Dict.get?_ofList_singleton]
    rfl
  rw [Options.trainingTable, read, one]

theorem obeys_setTraceModel {enabled : Bool} : (setTraceModel enabled).Obeys Advances := by
  intro store locked
  have one : store.capture.insert "trace_model" (.bool enabled) =
      Dict.ofList [("trace_model", .bool enabled)] := by
    rw [locked.capture, Options.captureTable, Dict.insert_ofList_singleton]
  exact ⟨⟨locked.declared, capture_eq one, locked.training⟩, refl_of OptionTable.Keeps _⟩

theorem obeys_setGradientAccumulation {count : Nat} :
    (setGradientAccumulation count).Obeys Advances := by
  intro store locked
  have one : store.training.insert "gradient_accumulation" (.int count) =
      Dict.ofList [("gradient_accumulation", .int count)] := by
    rw [locked.training, Options.trainingTable, Dict.insert_ofList_singleton]
  exact ⟨⟨locked.declared, locked.capture, training_eq one⟩, refl_of OptionTable.Keeps _⟩

theorem obeys_putBackend : (putBackend option value).Obeys Advances := fun _ locked =>
  ⟨⟨locked.declared, locked.capture, locked.training⟩, refl_of OptionTable.Keeps _⟩

/-! ## What a run of changes keeps -/

/-- Every change keeps the locks, and the kinds of all top-level options. -/
theorem obeys_change (step : Options.Change) : (change step).Obeys Advances := by
  cases step with
  | set option value => exact obeys_set
  | createOrSet option value => exact obeys_createOrSet
  | anchorMode mode period => exact obeys_setAnchorMode
  | gradientAccumulation count => exact obeys_setGradientAccumulation
  | offlineTarget version =>
      exact obeys_onCopy (obeys_bind (obeys_put rfl) fun _ => obeys_createOrSet)
  | ipuId | pipelining | randomSeed => exact obeys_createOrSet
  | traceModel enabled => exact obeys_setTraceModel
  | backend option value => exact obeys_putBackend
  | deviceIterations | replicationFactor | logDir | profile | simulator | connectionType
  | syncPattern => exact obeys_put rfl

/-- The store after some changes, each of them made or refused. -/
def after (store : OptionStore) (changes : List Options.Change) : OptionStore :=
  changes.foldl (fun reached step => ((change step).perform reached).2) store

theorem advances_after (store : OptionStore) (changes : List Options.Change) :
    Advances store (store.after changes) := by
  induction changes generalizing store with
  | nil => exact refl_of Advances store
  | cons step later ih => exact trans_of Advances (obeys_change step store) (ih _)

/-! ## What is changed by name -/

/-- A top-level option has got a value, and nothing else is different. -/
structure Gives (store : OptionStore) (option : String) (value : OptionValue)
    (reached : OptionStore) : Prop where
  given : reached.general.get? option = some value
  others : ∀ other, other ≠ option → reached.general.get? other = store.general.get? other
  capture : reached.capture = store.capture
  training : reached.training = store.training
  backend : reached.backend = store.backend

theorem gives_insert :
    store.Gives option value { store with general := store.general.insert option value } where
  given := by rw [Dict.get?_insert, if_pos rfl]
  others other apart := by rw [Dict.get?_insert, if_neg apart]
  capture := rfl
  training := rfl
  backend := rfl

/-- How options are changed by name: what is accepted, what it changes, and that nothing which is
refused changes anything. -/
structure Guarded (store : OptionStore) : Prop where
  set_iff : ∀ option value, (∃ reached, (set option value).perform store = (.ok (), reached)) ↔
    store.general.kindAt? option = some value.kind
  createOrSet_iff : ∀ option value,
    (∃ reached, (createOrSet option value).perform store = (.ok (), reached)) ↔
      store.general.Admits option value
  set_gives : ∀ option value reached, (set option value).perform store = (.ok (), reached) →
    store.Gives option value reached
  createOrSet_gives : ∀ option value reached,
    (createOrSet option value).perform store = (.ok (), reached) → store.Gives option value reached
  refused : ∀ step cause reached, (change step).perform store = (.error cause, reached) →
    reached = store

theorem guarded (store : OptionStore) : store.Guarded where
  set_iff _ _ := ends_set.succeeds_iff
  createOrSet_iff _ _ := ends_createOrSet.succeeds_iff
  set_gives _ _ _ done := (ends_set.ok done).2 ▸ gives_insert
  createOrSet_gives _ _ _ done := (ends_createOrSet.ok done).2 ▸ gives_insert
  refused step _ _ failed := (ends_change step store).error failed

/-- What the configuration reads is what is stored; nothing is read for want of a value. -/
structure Answers (store : OptionStore) : Prop where
  deviceIterations : store.general.get? "device_iterations" =
    some (.int store.options.deviceIterations)
  replicationFactor : store.general.get? "replication_factor" =
    some (.int store.options.replicationFactor)
  anchorReturnPeriod : store.general.get? "anchor_return_period" =
    some (.int store.options.anchorReturnPeriod)
  anchorMode : ∃ code, store.general.get? "anchor_mode" = some (.int code) ∧
    store.options.anchorMode? = AnchorMode.ofCode? code
  connectionType : ∃ code, store.general.get? "connection_type" = some (.int code) ∧
    store.options.connectionType? = ConnectionType.ofCode? code
  syncPattern : ∃ code, store.general.get? "sync_pattern" = some (.int code) ∧
    store.options.syncPattern? = SyncPattern.ofCode? code
  usesSimulator : store.general.get? "use_model" = some (.bool store.options.usesSimulator)
  traceModel : store.capture.get? "trace_model" = some (.bool store.options.traceModel)
  gradientAccumulation : store.training.get? "gradient_accumulation" =
    some (.int store.options.gradientAccumulation)

theorem Locked.answers (locked : store.Locked) : store.Answers := by
  have integer (option : String) (declared : Options.declared.kindAt? option = some .int) :
      store.general.get? option = some (.int (store.general.intAt option)) :=
    OptionTable.get?_eq_intAt (locked.declared _ _ declared)
  exact {
    deviceIterations := integer _ rfl
    replicationFactor := integer _ rfl
    anchorReturnPeriod := integer _ rfl
    anchorMode := ⟨_, integer _ rfl, rfl⟩
    connectionType := ⟨_, integer _ rfl, rfl⟩
    syncPattern := ⟨_, integer _ rfl, rfl⟩
    usesSimulator := OptionTable.get?_eq_boolAt (locked.declared _ _ rfl)
    traceModel := by rw [locked.capture, Options.captureTable, Dict.get?_ofList_singleton]
    gradientAccumulation := by
      rw [locked.training, Options.trainingTable, Dict.get?_ofList_singleton] }

/-- Whatever changes a configuration was made by, made or refused, the options declared from the
start are there with their kinds, as are the settings of capture and of training, so all that is
read is stored. What is changed by name follows the kinds that are there, and every top-level
option that is there keeps its kind under whatever changes are to come. -/
theorem types_locked_for_life (changes : List Options.Change) :
    let store := initial.after changes
    store.Locked ∧ store.Answers ∧ store.Guarded ∧
      (∀ further, store.general.Keeps (store.after further).general) ∧
      ∀ option value reached, (createOrSet option value).perform store = (.ok (), reached) →
        ∀ further, (reached.after further).general.kindAt? option = some value.kind := by
  intro store
  obtain ⟨locked, -⟩ := advances_after initial changes locked_initial
  refine ⟨locked, locked.answers, guarded store, fun further => (advances_after _ _ locked).2,
    fun option value reached done further => ?_⟩
  have created : reached.general.kindAt? option = some value.kind := by
    rw [OptionTable.kindAt?, ((guarded store).createOrSet_gives _ _ _ done).given, Option.map_some]
  have there : reached.Locked := ((obeys_createOrSet.ends store).ok done locked).1
  exact (advances_after reached further there).2 _ _ created

end Offload.OptionStore
