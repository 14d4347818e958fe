/-
# Kinds kept by tables of options

A table keeps another if every option that the other has is there with the kind it had. Putting a
value keeps the table exactly if the option was absent or had the kind of the value; this is what
setting and declaring look at before they write, and what putting relies on.
-/

import Offload.Proofs.Attempt
import Offload.Proofs.Dict
import Offload.Options.Table

namespace Offload.OptionTable

variable {table : OptionTable} {option : String} {value : OptionValue}

/-- The kind of the value under an option. -/
def kindAt? (table : OptionTable) (option : String) : Option OptionKind :=
  (table.get? option).map OptionValue.kind

@[simp]
theorem kindAt?_insert (table : OptionTable) (option other : String) (value : OptionValue) :
    kindAt? (table.insert option value) other =
      if other = option then some value.kind else kindAt? table other := by
  rw [kindAt?, Dict.get?_insert]
  split
  · rfl
  · rfl

/-- An integer that is there is the one that is read. -/
theorem get?_eq_intAt (integer : kindAt? table option = some .int) :
    table.get? option = some (.int (intAt table option)) := by
  obtain ⟨value, present, kind⟩ := Option.map_eq_some_iff.mp integer
  cases value with
  | int value => rw [intAt, present]; rfl
  | bool | float | str => cases kind

/-- A truth value that is there is the one that is read. -/
theorem get?_eq_boolAt (truth : kindAt? table option = some .bool) :
    table.get? option = some (.bool (boolAt table option)) := by
  obtain ⟨value, present, kind⟩ := Option.map_eq_some_iff.mp truth
  cases value with
  | bool value => rw [boolAt, present]; rfl
  | int | float | str => cases kind

/-- Every option of the one table is in the other, with its kind. -/
def Keeps (earlier later : OptionTable) : Prop :=
  ∀ option kind, kindAt? earlier option = some kind → kindAt? later option = some kind

instance : IsPreorder OptionTable Keeps where
  refl _ _ _ there := there
  trans _ _ _ first second option kind there := second option kind (first option kind there)

/-- The option is absent, or has the kind of the value. -/
def Admits (table : OptionTable) (option : String) (value : OptionValue) : Prop :=
  kindAt? table option = none ∨ kindAt? table option = some value.kind

/-- Putting a value that the table admits keeps the table. -/
theorem Admits.keeps (admits : Admits table option value) :
    Keeps table (table.insert option value) := by
  intro other kind there
  rw [kindAt?_insert]
  split
  next same =>
    subst same
    rcases admits with absent | present
    · rw [absent] at there
      cases there
    · exact present.symm.trans there
  next => exact there

/-- Setting succeeds exactly for a present option and a value of its kind; refused, it writes
nothing. -/
theorem ends_set : (set option value).Ends table
    (fun _ reached => kindAt? table option = some value.kind ∧ reached = table.insert option value)
    fun _ reached => kindAt? table option ≠ some value.kind ∧ reached = table := by
  rw [set, Attempt.ends_bind, Attempt.ends_get, Attempt.ends_bind]
  cases present : table.get? option with
  | none =>
      refine Attempt.ends_ofResult (fun value found => ?_) fun cause _ => ?_
      · rw [lookup, present] at found
        cases found
      · rw [kindAt?, present]
        exact ⟨by simp, rfl⟩
  | some current =>
      refine Attempt.ends_ofResult (fun value' found => ?_) fun cause failed => ?_
      · rw [lookup, present] at found
        obtain rfl := Except.ok.inj found
        rw [kindAt?, present, Option.map_some]
        split
        next same => exact ⟨congrArg some same, rfl⟩
        next apart => exact ⟨fun same => apart (Option.some.inj same), rfl⟩
      · rw [lookup, present] at failed
        cases failed

/-- Declaring or setting succeeds exactly for what the table admits; refused, it writes nothing. -/
theorem ends_createOrSet : (createOrSet option value).Ends table
    (fun _ reached => Admits table option value ∧ reached = table.insert option value)
    fun _ reached => ¬ Admits table option value ∧ reached = table := by
  rw [createOrSet, Attempt.ends_bind, Attempt.ends_get]
  cases present : table.contains option with
  | false =>
      have absent : kindAt? table option = none := by
        rw [kindAt?, Option.map_eq_none_iff]
        simpa [Dict.contains] using present
      exact ⟨.inl absent, rfl⟩
  | true =>
      have there : kindAt? table option ≠ none := by
        rw [kindAt?, ne_eq, Option.map_eq_none_iff]
        exact Option.isSome_iff_ne_none.mp present
      refine ends_set.mono (fun _ reached done => ⟨.inr done.1, done.2⟩) fun _ reached refused => ?_
      exact ⟨fun admits => admits.elim there refused.1, refused.2⟩

end Offload.OptionTable
