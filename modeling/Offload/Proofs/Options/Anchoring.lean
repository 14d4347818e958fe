/-
# The anchoring that is flattened

Two options say how output is anchored, by the code of a mode and by a period. Picking a mode writes
both and looks at whether they go together. Both can be set by name as well, and then nothing but the
kind of the value is looked at. Flattening tells one mode only, the one that stands for none; every
other code is passed on with the period beside it. So what is flattened is as it was picked, for the
mode, for the period and for the two together, unless the last change of them that was made set one
of them by name.
-/

import Offload.Proofs.Options.Flattening

namespace Offload.OptionStore

open Attempt

/-- The options that say how output is anchored. -/
def anchoring : List String := ["anchor_mode", "anchor_return_period"]

/-- The modes that may be picked. -/
def modes : List AnchorMode := [.final, .everyN, .all, .sum]

/-- The change gives an option a value by its name. -/
def names : Options.Change → Option String
  | .set option _ | .createOrSet option _ => some option
  | _ => none

/-- The change writes one of some options of anchoring. -/
def writes (options : List String) : Options.Change → Bool
  | .anchorMode _ _ => true
  | step => (names step).any options.contains

/-- The changes that are made, of some of which others may be refused. -/
def made (store : OptionStore) : List Options.Change → List Options.Change
  | [] => []
  | step :: later =>
      match (change step).perform store with
      | (.ok (), reached) => step :: reached.made later
      | (.error _, reached) => reached.made later

/-- Of the changes that are made, the last one that writes one of some options of anchoring. -/
def lastWriter? (store : OptionStore) (options : List String) (changes : List Options.Change) :
    Option Options.Change :=
  ((store.made changes).filter (writes options)).getLast?

/-- The last of these changes set one of the options by its name. -/
def NamedLast (options : List String) (changes : List Options.Change) : Prop :=
  ∃ step, initial.lastWriter? options changes = some step ∧ (names step).isSome

/-- What picking a mode writes. -/
def picked (mode : AnchorMode) (stored : Nat) (option : String) : OptionValue :=
  if option = "anchor_mode" then .int mode.code else .int stored

variable {store : OptionStore} {table other : OptionTable} {option : String} {value : OptionValue}
variable {options : List String}

/-- Some options have the same values in both tables. -/
def SameAt (options : List String) (table other : OptionTable) : Prop :=
  ∀ option ∈ options, table.get? option = other.get? option

theorem SameAt.trans {third : OptionTable} (first : SameAt options table other)
    (second : SameAt options other third) : SameAt options table third :=
  fun option there => (first option there).trans (second option there)

theorem SameAt.insert (outside : option ∉ options) :
    SameAt options (table.insert option value) table := by
  intro other there
  rw [Dict.get?_insert, if_neg]
  rintro rfl
  exact outside there

/-- The table has what the change picked for some options. Of values that are set by name nothing is
said. -/
def Holds (options : List String) (table : OptionTable) (step : Options.Change) : Prop :=
  (names step).isSome ∨ ∃ mode period stored, step = .anchorMode mode period ∧
    Options.storedPeriod mode period = .ok stored ∧
    ∀ option ∈ options, table.get? option = some (picked mode stored option)

/-- What was picked is there as long as the options stay what they are. -/
theorem Holds.of_same {step : Options.Change} (holds : Holds options table step)
    (same : SameAt options other table) : Holds options other step := by
  refine holds.imp_right ?_
  rintro ⟨mode, period, stored, rfl, fits, there⟩
  exact ⟨mode, period, stored, rfl, fits, fun option among =>
    (same option among).trans (there option among)⟩

/-! ## What one change writes -/

theorem ends_createOrSet_outside (outside : option ∉ options) :
    (createOrSet option value).Ends store
      (fun _ reached => SameAt options reached.general store.general) fun _ _ => True := by
  refine ends_createOrSet.mono ?_ fun _ _ _ => trivial
  rintro _ _ ⟨-, rfl⟩
  exact .insert outside

/-- A change that is made writes options of anchoring and no others, or none of them. -/
theorem ends_change_anchoring (within : options ⊆ anchoring) (step : Options.Change)
    (store : OptionStore) :
    (change step).Ends store
      (fun _ reached => if writes options step then Holds options reached.general step
        else SameAt options reached.general store.general)
      fun _ _ => True := by
  have outside {option : String} (apart : option ∉ anchoring) : option ∉ options :=
    fun there => apart (within there)
  have unnamed {option : String} (apart : ¬ (some option).any options.contains = true) :
      option ∉ options := by simpa using apart
  cases step with
  | set option value =>
      refine ends_set.mono ?_ fun _ _ _ => trivial
      rintro _ _ ⟨-, rfl⟩
      split
      · exact .inl rfl
      · next apart => exact .insert (unnamed apart)
  | createOrSet option value =>
      refine ends_createOrSet.mono ?_ fun _ _ _ => trivial
      rintro _ _ ⟨-, rfl⟩
      split
      · exact .inl rfl
      · next apart => exact .insert (unnamed apart)
  | anchorMode mode period =>
      refine ends_bind.mpr (ends_ofResult (fun stored fits => ?_) fun _ _ => trivial)
      refine .inr ⟨mode, period, stored, rfl, fits, fun option among => ?_⟩
      have either : option = "anchor_mode" ∨ option = "anchor_return_period" := by
        simpa [anchoring] using within among
      rcases either with rfl | rfl <;> simp [picked]
  | ipuId | pipelining | randomSeed => exact ends_createOrSet_outside (outside (by decide))
  | offlineTarget version =>
      refine ends_onCopy.mpr (ends_bind.mpr ?_)
      refine (ends_createOrSet_outside (outside (by decide))).mono (fun _ _ same => ?_)
        fun _ _ _ => trivial
      exact same.trans (.insert (outside (by decide)))
  | deviceIterations | replicationFactor | logDir | profile | simulator | connectionType
  | syncPattern => exact SameAt.insert (outside (by decide))
  | gradientAccumulation | traceModel | backend => exact fun _ _ => rfl

/-! ## What a run of changes leaves -/

/-- What a run leaves of some options is what the last change of them holds there, and if none was
made, what was there at the start. -/
def Leaves (options : List String) (start reached : OptionTable) : Option Options.Change → Prop
  | none => SameAt options reached start
  | some step => Holds options reached step

/-- The induction is on the changes from the first on: what the last one of the others leaves is left,
and if none of the others writes the options, what the first one leaves. -/
theorem leaves_after (within : options ⊆ anchoring) (store : OptionStore)
    (changes : List Options.Change) :
    Leaves options store.general (store.after changes).general
      (store.lastWriter? options changes) := by
  induction changes generalizing store with
  | nil => exact fun _ _ => rfl
  | cons step later ih =>
      rw [after, List.foldl_cons, ← after, lastWriter?, made]
      rcases done : (change step).perform store with ⟨cause | ⟨⟩, reached⟩
      · obtain rfl := (ends_change step store).error done
        exact ih reached
      · have one := (ends_change_anchoring within step store).ok done
        have others := ih reached
        rw [lastWriter?] at others
        dsimp only
        rw [List.filter_cons]
        split at one
        · next written =>
            rw [if_pos written, List.getLast?_cons]
            generalize ((reached.made later).filter (writes options)).getLast? = last at others ⊢
            cases last with
            | none => exact one.of_same others
            | some _ => exact others
        · next kept =>
            rw [if_neg kept]
            generalize ((reached.made later).filter (writes options)).getLast? = last at others ⊢
            cases last with
            | none => exact SameAt.trans others one
            | some _ => exact others

/-- After a run from the start some options of anchoring were set by name last, were picked together,
or are as they were declared. -/
theorem named_or_picked (within : options ⊆ anchoring) (changes : List Options.Change) :
    NamedLast options changes ∨
      (∃ mode period stored, Options.storedPeriod mode period = .ok stored ∧
        ∀ option ∈ options,
          (initial.after changes).general.get? option = some (picked mode stored option)) ∨
      SameAt options (initial.after changes).general Options.declared := by
  have left := leaves_after within initial changes
  cases last : initial.lastWriter? options changes with
  | none =>
      rw [last] at left
      exact .inr (.inr left)
  | some step =>
      rw [last] at left
      rcases left with named | ⟨mode, period, stored, -, fits, there⟩
      · exact .inl ⟨step, last, named⟩
      · exact .inr (.inl ⟨mode, period, stored, fits, there⟩)

/-! ## What is flattened -/

/-- The period that a mode is stored with goes with it. -/
theorem storedPeriod_fits {mode : AnchorMode} {period : Option Nat} {stored : Nat}
    (fits : Options.storedPeriod mode period = .ok stored) :
    0 < stored ∧ (mode ≠ .everyN → stored = 1) := by
  cases mode with
  | everyN =>
      rcases period with _ | _ | count
      · cases fits
      · cases fits
      · obtain rfl := Except.ok.inj fits
        exact ⟨Nat.succ_pos count, fun other => absurd rfl other⟩
  | final | all | sum | default =>
      obtain rfl := Except.ok.inj fits
      exact ⟨Nat.one_pos, fun _ => rfl⟩

/-- Flattened options have the top-level options that they were made of. -/
theorem general_of_flatten {flat : OptionTable} (flattened : store.options.flatten = .ok flat)
    (there : store.general.get? option = some value) : flat.get? option = some value :=
  (OptionTable.unites_of_perm (Options.entries_of_flatten flattened)).values store.general
    (by simp [Options.groups, OptionStore.options]) option value there

/-- Whatever changes a configuration was made by, made or refused, if it can be flattened then its
mode is one that may be picked, its period is positive, and the period is one unless the mode is to
anchor every so many batches; but each of this only if what it speaks of was not set by name last. -/
theorem flattened_as_picked (changes : List Options.Change) {flat : OptionTable}
    (flattened : (initial.after changes).options.flatten = .ok flat) :
    ∃ code period : Int, flat.get? "anchor_mode" = some (.int code) ∧
      flat.get? "anchor_return_period" = some (.int period) ∧
      code ≠ AnchorMode.default.code ∧
      ((∃ mode ∈ modes, code = mode.code) ∨ NamedLast ["anchor_mode"] changes) ∧
      (0 < period ∨ NamedLast ["anchor_return_period"] changes) ∧
      (period = 1 ∨ code = AnchorMode.everyN.code ∨ NamedLast anchoring changes) := by
  obtain ⟨locked, -⟩ := advances_after initial changes locked_initial
  obtain ⟨code, mode_there, -⟩ := locked.answers.anchorMode
  have period_there := locked.answers.anchorReturnPeriod
  generalize (initial.after changes).options.anchorReturnPeriod = period at period_there
  have resolved : code ≠ AnchorMode.default.code := by
    rintro rfl
    rw [Options.flatten_of_default (locked.isDefaultAnchorMode_iff.mpr mode_there)] at flattened
    cases flattened
  -- whatever else is known of the two options, these are their values
  have code_eq {value : Int}
      (known : (initial.after changes).general.get? "anchor_mode" = some (.int value)) :
      code = value := OptionValue.int.inj (Option.some.inj (mode_there.symm.trans known))
  have period_eq {value : Int}
      (known : (initial.after changes).general.get? "anchor_return_period" = some (.int value)) :
      period = value := OptionValue.int.inj (Option.some.inj (period_there.symm.trans known))
  refine ⟨code, period, general_of_flatten flattened mode_there,
    general_of_flatten flattened period_there, resolved, ?_, ?_, ?_⟩
  · rcases named_or_picked (by decide : ["anchor_mode"] ⊆ anchoring) changes with
      named | ⟨mode, _, stored, -, there⟩ | declared
    · exact .inr named
    · obtain rfl := code_eq (there _ (by decide))
      refine .inl ⟨mode, ?_, rfl⟩
      cases mode with
      | default => exact absurd rfl resolved
      | final | everyN | all | sum => decide
    · exact absurd (code_eq (declared _ (by decide))) resolved
  · rcases named_or_picked (by decide : ["anchor_return_period"] ⊆ anchoring) changes with
      named | ⟨mode, _, stored, fits, there⟩ | declared
    · exact .inr named
    · obtain rfl := period_eq (there _ (by decide))
      exact .inl (Int.natCast_pos.mpr (storedPeriod_fits fits).1)
    · obtain rfl := period_eq (declared _ (by decide))
      exact .inl Int.one_pos
  · rcases named_or_picked (List.Subset.refl anchoring) changes with
      named | ⟨mode, _, stored, fits, there⟩ | declared
    · exact .inr (.inr named)
    · obtain rfl := code_eq (there _ (by decide))
      obtain rfl := period_eq (there _ (by decide))
      by_cases every : mode = .everyN
      · exact .inr (.inl (every ▸ rfl))
      · exact .inl (congrArg Int.ofNat ((storedPeriod_fits fits).2 every))
    · exact .inl (period_eq (declared _ (by decide)))

/-- A period that is set by name, a mode that is picked, and a mode set by name in vain. -/
def repicked : List Options.Change :=
  [.set "anchor_return_period" (.int 0), .anchorMode .everyN (some 4), .deviceIterations 8,
    .set "anchor_mode" (.str "All")]

/-- Picking a mode makes up for a period that was set before, and a refused change takes nothing of
it back. -/
theorem repicked_flattened : ∃ flat, (initial.after repicked).options.flatten = .ok flat ∧
    ¬ NamedLast anchoring repicked ∧
    ∃ code period : Int, flat.get? "anchor_mode" = some (.int code) ∧
      flat.get? "anchor_return_period" = some (.int period) ∧
      code ≠ AnchorMode.default.code ∧
      ((∃ mode ∈ modes, code = mode.code) ∨ NamedLast ["anchor_mode"] repicked) ∧
      (0 < period ∨ NamedLast ["anchor_return_period"] repicked) ∧
      (period = 1 ∨ code = AnchorMode.everyN.code ∨ NamedLast anchoring repicked) := by
  have last : initial.lastWriter? anchoring repicked = some (.anchorMode .everyN (some 4)) := rfl
  obtain ⟨flat, flattened⟩ : ∃ flat, (initial.after repicked).options.flatten = .ok flat := ⟨_, rfl⟩
  refine ⟨flat, flattened, ?_, flattened_as_picked repicked flattened⟩
  rintro ⟨step, same, named⟩
  rw [last] at same
  obtain rfl := Option.some.inj same
  cases named

/-- A code that stands for no mode, and a period that is not positive. -/
def overridden : List Options.Change :=
  [.set "anchor_mode" (.int 7), .set "anchor_return_period" (.int 0)]

/-- What is set by name is flattened without a look at what it means. -/
theorem overridden_flattened : ∃ flat, (initial.after overridden).options.flatten = .ok flat ∧
    ∃ code period : Int, flat.get? "anchor_mode" = some (.int code) ∧
      flat.get? "anchor_return_period" = some (.int period) ∧
      (∀ mode ∈ modes, code ≠ mode.code) ∧ ¬ 0 < period ∧
      period ≠ 1 ∧ code ≠ AnchorMode.everyN.code := by
  refine ⟨_, rfl, 7, 0, rfl, rfl, ?_, ?_, ?_, ?_⟩
  · decide
  · decide
  · decide
  · decide

end Offload.OptionStore
