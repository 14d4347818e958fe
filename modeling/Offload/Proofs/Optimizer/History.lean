/-
# How host optimizers come about

A host optimizer is begun as gradient descent, as adaptive moment estimation or as an optimizer of
any family. After that hyper-parameters are set in all of its groups, and groups are added, in any
order. However long this goes on, the first group shows what each hyper-parameter was set to last,
and behind it stands one group for each that was added.
-/

import Offload.Proofs.Dict
import Offload.Optimizer.Host

namespace Offload.HostOptimizer

/-- A hyper-parameter and what it is set to. -/
abbrev Setting := String × HyperParameter

/-- What a host optimizer is begun as. -/
inductive Start where
  | sgd (learningRate : Double)
  | adam (learningRate : Double)
  | family (name : String)
  deriving Repr

/-- What is done next with a host optimizer. -/
inductive Step where
  | assign (name : String) (value : HyperParameter)
  | momentum (value : Double)
  | dampening (value : Double)
  | weightDecay (value : Double)
  | betas (first second : Double)
  | epsilon (value : Double)
  | amsgrad (value : Bool)
  | addGroup (overrides : ParameterGroup)

/-- How a host optimizer came about. -/
structure History where
  start : Start
  steps : List Step

namespace Start

/-- The optimizer that is begun. -/
def optimizer : Start → HostOptimizer
  | sgd learningRate => .sgd learningRate
  | adam learningRate => .adam learningRate
  | family name => ofFamily name

def familyName : Start → String
  | sgd _ => sgdFamily
  | adam _ => adamFamily
  | family name => name

/-- The usual values of a family, if it was begun with them. -/
def settings : Start → List Setting
  | sgd learningRate =>
      [("lr", .float learningRate), ("momentum", .float .zero), ("dampening", .float .zero),
        ("weight_decay", .float .zero), ("nesterov", .bool false)]
  | adam learningRate =>
      [("lr", .float learningRate), ("betas", .pair ninetyPercent almostOne),
        ("eps", .float defaultEpsilon), ("weight_decay", .float .zero), ("amsgrad", .bool false)]
  | family _ => []

end Start

namespace Step

/-- Take a step. -/
def apply (optimizer : HostOptimizer) : Step → HostOptimizer
  | assign name value => optimizer.assign name value
  | momentum value => optimizer.withMomentum value
  | dampening value => optimizer.withDampening value
  | weightDecay value => optimizer.withWeightDecay value
  | betas first second => optimizer.withBetas first second
  | epsilon value => optimizer.withEpsilon value
  | amsgrad value => optimizer.withAmsgrad value
  | addGroup overrides => optimizer.addGroup overrides

/-- What the step sets. The values of an added group are seen in that group only. -/
def setting? : Step → Option Setting
  | assign name value => some (name, value)
  | momentum value => some ("momentum", .float value)
  | dampening value => some ("dampening", .float value)
  | weightDecay value => some ("weight_decay", .float value)
  | betas first second => some ("betas", .pair first second)
  | epsilon value => some ("eps", .float value)
  | amsgrad value => some ("amsgrad", .bool value)
  | addGroup _ => none

def addsGroup : Step → Bool
  | addGroup _ => true
  | _ => false

end Step

namespace History

/-- The optimizer that came about. -/
def optimizer (history : History) : HostOptimizer :=
  history.steps.foldl Step.apply history.start.optimizer

def family (history : History) : String := history.start.familyName

/-- The number of groups that were added. -/
def additions (history : History) : Nat := history.steps.countP Step.addsGroup

/-- What was set, earliest first. -/
def settings (history : History) : List Setting :=
  history.start.settings ++ history.steps.filterMap Step.setting?

/-- What a hyper-parameter was set to last. -/
def last? (history : History) (name : String) : Option HyperParameter :=
  history.settings.reverse.lookup name

end History

/-- An optimizer shows some settings in its first group and has some more groups. -/
def Shows (settings : List Setting) (additions : Nat) (optimizer : HostOptimizer) : Prop :=
  ∃ first others, optimizer.groups = first :: others ∧ others.length = additions ∧
    ∀ name, first.get? name = settings.reverse.lookup name

section Shows

variable {settings : List Setting} {additions : Nat} {optimizer : HostOptimizer}

theorem shows_ofFamily (family : String) : Shows [] 0 (ofFamily family) :=
  ⟨Dict.empty, [], rfl, rfl, fun _ => rfl⟩

/-- Setting a hyper-parameter overrides what it was set to before. -/
theorem Shows.assign (shows : Shows settings additions optimizer) (name : String)
    (value : HyperParameter) :
    Shows (settings ++ [(name, value)]) additions (optimizer.assign name value) := by
  obtain ⟨first, others, groups, length, given⟩ := shows
  refine ⟨first.insert name value, others.map (·.insert name value), ?_, ?_, fun other => ?_⟩
  · rw [HostOptimizer.assign, groups, List.map_cons]
  · rw [List.length_map, length]
  · rw [Dict.get?_insert, given, List.reverse_append, List.reverse_singleton,
      List.singleton_append, List.lookup_cons]
    by_cases same : other = name
    · simp [same]
    · rw [if_neg same, beq_false_of_ne same]

theorem Shows.addGroup (shows : Shows settings additions optimizer) (overrides : ParameterGroup) :
    Shows settings (additions + 1) (optimizer.addGroup overrides) := by
  obtain ⟨first, others, groups, length, given⟩ := shows
  refine ⟨first, others ++ [first.insertAll overrides.entries], ?_, ?_, given⟩
  · simp [HostOptimizer.addGroup, groups]
  · rw [List.length_append, length, List.length_singleton]

/-- The optimizer that is begun shows the usual values it is begun with. -/
theorem shows_start (start : Start) : Shows start.settings 0 start.optimizer := by
  cases start with
  | sgd learningRate =>
      exact (shows_ofFamily sgdFamily).assign "lr" _ |>.assign "momentum" _
        |>.assign "dampening" _ |>.assign "weight_decay" _ |>.assign "nesterov" _
  | adam learningRate =>
      exact (shows_ofFamily adamFamily).assign "lr" _ |>.assign "betas" _ |>.assign "eps" _
        |>.assign "weight_decay" _ |>.assign "amsgrad" _
  | family name => exact shows_ofFamily name

/-- A step adds its setting or its group to what the optimizer shows. -/
theorem Shows.step (shows : Shows settings additions optimizer) (step : Step) :
    Shows (settings ++ step.setting?.toList) (additions + [step].countP Step.addsGroup)
      (step.apply optimizer) := by
  cases step with
  | addGroup overrides =>
      simpa [Step.setting?, Step.addsGroup, Step.apply] using shows.addGroup overrides
  | _ => exact shows.assign _ _

/-- Whatever its history, an optimizer shows what was set and how many groups were added. -/
theorem shows_history (history : History) :
    Shows history.settings history.additions history.optimizer := by
  have goes (steps : List Step) (settings : List Setting) (additions : Nat)
      (optimizer : HostOptimizer) (shows : Shows settings additions optimizer) :
      Shows (settings ++ steps.filterMap Step.setting?) (additions + steps.countP Step.addsGroup)
        (steps.foldl Step.apply optimizer) := by
    induction steps generalizing settings additions optimizer with
    | nil => simpa using shows
    | cons step later ih =>
        have split : (step :: later).filterMap Step.setting? =
            step.setting?.toList ++ later.filterMap Step.setting? := by
          cases set : step.setting? <;> simp [set]
        rw [split, ← List.singleton_append, List.countP_append, ← List.append_assoc,
          ← Nat.add_assoc]
        exact ih _ _ _ (shows.step step)
  have shows := goes history.steps _ _ _ (shows_start history.start)
  rwa [Nat.zero_add] at shows

end Shows

/-- No step changes the family. -/
theorem family_optimizer (history : History) : history.optimizer.family = history.family := by
  have goes (steps : List Step) (optimizer : HostOptimizer) :
      (steps.foldl Step.apply optimizer).family = optimizer.family := by
    induction steps generalizing optimizer with
    | nil => rfl
    | cons step later ih =>
        rw [List.foldl_cons, ih]
        cases step <;> rfl
  rw [History.optimizer, goes]
  cases history with
  | mk start steps => cases start <;> rfl

end Offload.HostOptimizer
