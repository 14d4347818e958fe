/-
# Which host optimizers the device takes

A host optimizer is described to the device or refused, and its history decides which. The causes
of a refusal have an order of precedence. More than one group comes first, then a family that the
device does not know, then the first hyper-parameter of the family that is missing or of another
variant, and last a variant of the family that the device does not run. What remains is described
by the values that were set last. A value is marked as usual if it equals the usual value as a
number, so either zero is the usual momentum.
-/

import Offload.Optimizer.Descriptor
import Offload.Proofs.Number.Value
import Offload.Proofs.Optimizer.History

namespace Offload

namespace Double

/-- The number that a word stands for, an infinity by its sign. What is not a number has none. -/
def value? (value : Double) : Option (Bool ⊕ Rat) := value.number.rational?

theorem equal_iff (left right : Double) :
    left.equal right = true ↔ left.value?.isSome = true ∧ left.value? = right.value? :=
  Number.equal_iff left.number right.number

/-- The value is zero, with either sign. -/
def IsZero (value : Double) : Prop := value.value? = some (.inr 0)

instance (value : Double) : Decidable value.IsZero :=
  inferInstanceAs (Decidable (value.value? = some (.inr 0)))

theorem value?_zero : zero.value? = some (.inr 0) := by
  have number : zero.number = .finite false 0 (-1074) := by decide +kernel
  simp [value?, number, Number.rational?, Number.rational]

theorem equal_zero_iff (value : Double) : value.equal zero = true ↔ value.IsZero := by
  rw [equal_iff, value?_zero, IsZero]
  refine and_iff_right_of_imp fun zero => ?_
  rw [zero]
  rfl

/-- The value is the usual distance of a divisor from zero. -/
def IsDefaultEpsilon (value : Double) : Prop :=
  value.value? = HostOptimizer.defaultEpsilon.value?

instance (value : Double) : Decidable value.IsDefaultEpsilon :=
  inferInstanceAs (Decidable (value.value? = HostOptimizer.defaultEpsilon.value?))

theorem equal_defaultEpsilon_iff (value : Double) :
    value.equal HostOptimizer.defaultEpsilon = true ↔ value.IsDefaultEpsilon := by
  rw [equal_iff, IsDefaultEpsilon]
  refine and_iff_right_of_imp fun usual => ?_
  rw [usual]
  decide +kernel

example : Json.double HostOptimizer.defaultEpsilon = "1e-8".toList := by decide +kernel

end Double

namespace HyperParameter

/-- What a hyper-parameter must be. -/
inductive Variant where
  | float
  | pair

/-- A hyper-parameter is there, and it is what it must be. -/
def Variant.has : Variant → Option HyperParameter → Bool
  | float, some (.float _) => true
  | pair, some (.pair _ _) => true
  | _, _ => false

theorem Variant.has_float_iff (found : Option HyperParameter) :
    float.has found = true ↔ ∃ value, found = some (.float value) := by
  rcases found with _ | ⟨_ | _ | _⟩ <;> simp [has]

theorem Variant.has_pair_iff (found : Option HyperParameter) :
    pair.has found = true ↔ ∃ first second, found = some (.pair first second) := by
  rcases found with _ | ⟨_ | _ | _⟩ <;> simp [has]

/-- The first of some needs that is not met, because the hyper-parameter is absent or of another
variant. -/
def firstLacking? (found : String → Option HyperParameter) :
    List (String × Variant) → Option String
  | [] => none
  | (name, variant) :: later =>
      if variant.has (found name) then firstLacking? found later else some name

/-- What is lacking first is the first need, or it is met and something later is lacking. -/
theorem firstLacking?_cons_iff {found : String → Option HyperParameter} {name lacking : String}
    {variant : Variant} {later : List (String × Variant)} :
    firstLacking? found ((name, variant) :: later) = some lacking ↔
      (variant.has (found name) = false ∧ name = lacking) ∨
        (variant.has (found name) = true ∧ firstLacking? found later = some lacking) := by
  by_cases met : variant.has (found name) = true <;> simp [firstLacking?, met]

/-- Nothing is lacking if each need is met. -/
theorem firstLacking?_eq_none_iff {found : String → Option HyperParameter}
    {needs : List (String × Variant)} :
    firstLacking? found needs = none ↔ ∀ need ∈ needs, need.2.has (found need.1) = true := by
  induction needs with
  | nil => simp [firstLacking?]
  | cons need later ih =>
      obtain ⟨name, variant⟩ := need
      by_cases met : variant.has (found name) = true <;> simp [firstLacking?, met, ih]

end HyperParameter

namespace OptimizerKind

open HyperParameter

/-- The family of a kind. -/
def family : OptimizerKind → String
  | sgd => HostOptimizer.sgdFamily
  | adam => HostOptimizer.adamFamily

/-- The hyper-parameters that only this kind needs, in the order in which they are looked for. -/
def ownNeeds : OptimizerKind → List (String × Variant)
  | sgd => [("momentum", .float), ("dampening", .float)]
  | adam => [("betas", .pair), ("eps", .float)]

/-- The hyper-parameters that a kind needs, in the order in which they are looked for. -/
def needs (kind : OptimizerKind) : List (String × Variant) :=
  ("lr", .float) :: ("weight_decay", .float) :: kind.ownNeeds

/-- The needs of gradient descent are met by four numbers. -/
theorem firstLacking?_sgd_eq_none_iff {found : String → Option HyperParameter} :
    firstLacking? found sgd.needs = none ↔
      (∃ learningRate, found "lr" = some (.float learningRate)) ∧
        (∃ weightDecay, found "weight_decay" = some (.float weightDecay)) ∧
        (∃ momentum, found "momentum" = some (.float momentum)) ∧
        ∃ dampening, found "dampening" = some (.float dampening) := by
  simp [firstLacking?_eq_none_iff, needs, ownNeeds, Variant.has_float_iff]

/-- The needs of adaptive moment estimation are met by three numbers and a pair. -/
theorem firstLacking?_adam_eq_none_iff {found : String → Option HyperParameter} :
    firstLacking? found adam.needs = none ↔
      (∃ learningRate, found "lr" = some (.float learningRate)) ∧
        (∃ weightDecay, found "weight_decay" = some (.float weightDecay)) ∧
        (∃ first second, found "betas" = some (.pair first second)) ∧
        ∃ epsilon, found "eps" = some (.float epsilon) := by
  simp [firstLacking?_eq_none_iff, needs, ownNeeds, Variant.has_float_iff, Variant.has_pair_iff]

theorem kindOf?_family (kind : OptimizerKind) : Descriptor.kindOf? kind.family = some kind := by
  cases kind <;> decide

end OptimizerKind

namespace Descriptor

open HyperParameter OptimizerKind

/-- A descriptor is known by its kind and its entries. -/
theorem eq_of_entries {left right : Descriptor} (kind : left.kind = right.kind)
    (entries : left.parameters.entries = right.parameters.entries) : left = right := by
  obtain ⟨kind', ⟨entries', sorted⟩⟩ := left
  obtain ⟨_, ⟨_, _⟩⟩ := right
  obtain rfl := kind
  obtain rfl := entries
  rfl

section Group

variable {family : String} {group : ParameterGroup} {name : String}

theorem floatOf_of_float {value : Double} (found : group.get? name = some (.float value)) :
    floatOf family group name = .ok value := by
  rw [floatOf, found]

theorem floatOf_of_lacking (lacking : Variant.float.has (group.get? name) = false) :
    floatOf family group name = .error (.missingHyperParameter family name) := by
  rw [floatOf]
  split
  · next found => rw [found] at lacking; exact Bool.noConfusion lacking
  · rfl

theorem pairOf_of_pair {first second : Double}
    (found : group.get? name = some (.pair first second)) :
    pairOf family group name = .ok (first, second) := by
  rw [pairOf, found]

theorem pairOf_of_lacking (lacking : Variant.pair.has (group.get? name) = false) :
    pairOf family group name = .error (.missingHyperParameter family name) := by
  rw [pairOf]
  split
  · next found => rw [found] at lacking; exact Bool.noConfusion lacking
  · rfl

/-- The first own need of a kind that is not met ends the description. -/
private theorem particular_of_lacking {kind : OptimizerKind}
    (lacking : firstLacking? group.get? kind.ownNeeds = some name) :
    particular kind group = .error (.missingHyperParameter kind.family name) := by
  cases kind with
  | sgd =>
      rcases firstLacking?_cons_iff.mp lacking with ⟨unmet, rfl⟩ | ⟨met, lacking⟩
      · rw [particular, sgdParameters, floatOf_of_lacking unmet]
        rfl
      · obtain ⟨momentum, found⟩ := (Variant.has_float_iff _).mp met
        rcases firstLacking?_cons_iff.mp lacking with ⟨unmet, rfl⟩ | ⟨-, none⟩
        · rw [particular, sgdParameters, floatOf_of_float found, floatOf_of_lacking unmet]
          rfl
        · exact nomatch none
  | adam =>
      rcases firstLacking?_cons_iff.mp lacking with ⟨unmet, rfl⟩ | ⟨met, lacking⟩
      · rw [particular, adamParameters, pairOf_of_lacking unmet]
        rfl
      · obtain ⟨first, second, found⟩ := (Variant.has_pair_iff _).mp met
        rcases firstLacking?_cons_iff.mp lacking with ⟨unmet, rfl⟩ | ⟨-, none⟩
        · rw [particular, adamParameters, pairOf_of_pair found, floatOf_of_lacking unmet]
          rfl
        · exact nomatch none

/-- The first need of a kind that is not met ends the description. -/
theorem ofGroup_of_lacking {kind : OptimizerKind}
    (lacking : firstLacking? group.get? kind.needs = some name) :
    ofGroup kind kind.family group = .error (.missingHyperParameter kind.family name) := by
  rcases firstLacking?_cons_iff.mp lacking with ⟨unmet, rfl⟩ | ⟨met, lacking⟩
  · rw [ofGroup, floatOf_of_lacking unmet]
    rfl
  · obtain ⟨learningRate, rate⟩ := (Variant.has_float_iff _).mp met
    rcases firstLacking?_cons_iff.mp lacking with ⟨unmet, rfl⟩ | ⟨met, lacking⟩
    · rw [ofGroup, floatOf_of_float rate, floatOf_of_lacking unmet]
      rfl
    · obtain ⟨weightDecay, decay⟩ := (Variant.has_float_iff _).mp met
      rw [ofGroup, floatOf_of_float rate, floatOf_of_float decay, particular_of_lacking lacking]
      rfl

variable {learningRate weightDecay : Double}

/-- The usual weight decay is zero, and the learning rate is never usual. -/
private theorem ofGroup_of_particular {kind : OptimizerKind}
    {others : List (String × Double × Bool)} (rate : group.get? "lr" = some (.float learningRate))
    (decay : group.get? "weight_decay" = some (.float weightDecay))
    (own : particular kind group = .ok others) :
    ofGroup kind kind.family group = .ok ⟨kind, Dict.ofList (others ++
      [("lr", (learningRate, false)), ("weight_decay", marked .zero weightDecay)])⟩ := by
  rw [ofGroup, floatOf_of_float rate, floatOf_of_float decay, own]
  rfl

theorem marked_zero (value : Double) : marked .zero value = (value, decide value.IsZero) := by
  rw [marked, Bool.eq_iff_iff.mpr ((value.equal_zero_iff).trans decide_eq_true_iff.symm)]

theorem marked_defaultEpsilon (value : Double) :
    marked HostOptimizer.defaultEpsilon value = (value, decide value.IsDefaultEpsilon) := by
  rw [marked,
    Bool.eq_iff_iff.mpr ((value.equal_defaultEpsilon_iff).trans decide_eq_true_iff.symm)]

/-- What gradient descent is described by. -/
def sgdEntries (learningRate weightDecay momentum dampening : Double) :
    List (String × Double × Bool) :=
  [("dampening", dampening, decide dampening.IsZero), ("lr", learningRate, false),
    ("momentum", momentum, decide momentum.IsZero),
    ("weight_decay", weightDecay, decide weightDecay.IsZero)]

/-- What adaptive moment estimation is described by. -/
def adamEntries (learningRate weightDecay beta1 beta2 epsilon : Double) :
    List (String × Double × Bool) :=
  [("beta1", beta1, false), ("beta2", beta2, false),
    ("eps", epsilon, decide epsilon.IsDefaultEpsilon), ("lr", learningRate, false),
    ("weight_decay", weightDecay, decide weightDecay.IsZero)]

theorem ofGroup_sgd {momentum dampening : Double}
    (rate : group.get? "lr" = some (.float learningRate))
    (decay : group.get? "weight_decay" = some (.float weightDecay))
    (given : group.get? "momentum" = some (.float momentum))
    (given' : group.get? "dampening" = some (.float dampening)) :
    ∃ descriptor, ofGroup .sgd HostOptimizer.sgdFamily group = .ok descriptor ∧
      descriptor.kind = .sgd ∧ descriptor.parameters.entries =
        sgdEntries learningRate weightDecay momentum dampening := by
  have own : particular .sgd group =
      .ok [("momentum", marked .zero momentum), ("dampening", marked .zero dampening)] := by
    rw [particular, sgdParameters, floatOf_of_float given, floatOf_of_float given']
    rfl
  refine ⟨_, ofGroup_of_particular rate decay own, rfl, ?_⟩
  simp +decide only [Dict.ofList, Dict.insertAll, Dict.insert, Dict.insertEntry, Dict.empty,
    marked_zero, sgdEntries, List.cons_append, List.nil_append, List.foldl, ↓reduceIte]

theorem ofGroup_adam {beta1 beta2 epsilon : Double}
    (rate : group.get? "lr" = some (.float learningRate))
    (decay : group.get? "weight_decay" = some (.float weightDecay))
    (given : group.get? "betas" = some (.pair beta1 beta2))
    (given' : group.get? "eps" = some (.float epsilon)) :
    if group.get? "amsgrad" = some (.bool true) then
      ofGroup .adam HostOptimizer.adamFamily group =
        .error (.unsupportedOptimizerVariant HostOptimizer.adamFamily "amsgrad")
    else
      ∃ descriptor, ofGroup .adam HostOptimizer.adamFamily group = .ok descriptor ∧
        descriptor.kind = .adam ∧ descriptor.parameters.entries =
          adamEntries learningRate weightDecay beta1 beta2 epsilon := by
  have own : particular .adam group =
      if group.get? "amsgrad" = some (.bool true) then
        .error (.unsupportedOptimizerVariant HostOptimizer.adamFamily "amsgrad")
      else .ok [("beta1", (beta1, false)), ("beta2", (beta2, false)),
        ("eps", marked HostOptimizer.defaultEpsilon epsilon)] := by
    rw [particular, adamParameters, pairOf_of_pair given, floatOf_of_float given']
    split <;> simp [*] <;> rfl
  split
  · next asked =>
      rw [if_pos asked] at own
      rw [ofGroup, floatOf_of_float rate, floatOf_of_float decay, own]
      rfl
  · next unasked =>
      rw [if_neg unasked] at own
      refine ⟨_, ofGroup_of_particular rate decay own, rfl, ?_⟩
      simp +decide only [Dict.ofList, Dict.insertAll, Dict.insert, Dict.insertEntry, Dict.empty,
        marked_zero, marked_defaultEpsilon, adamEntries, List.cons_append, List.nil_append,
        List.foldl, ↓reduceIte]

end Group

end Descriptor

namespace HostOptimizer

open HyperParameter OptimizerKind

/-- What the history of a host optimizer makes of its description. -/
inductive History.Converts (history : History) : Result Descriptor → Prop where
  /-- A group was added, whatever else is wrong. -/
  | grouped (added : 0 < history.additions) :
      Converts history (.error (.multipleParameterGroups (history.additions + 1)))
  /-- The device runs no such family. -/
  | foreign (single : history.additions = 0) (unknown : history.family ≠ "sgd")
      (unknown' : history.family ≠ "adam") :
      Converts history (.error (.unsupportedOptimizer history.family))
  /-- Of the needs of the family, this is the first that what was set last does not meet. -/
  | lacking (kind : OptimizerKind) (name : String) (single : history.additions = 0)
      (known : history.family = kind.family)
      (first : firstLacking? history.last? kind.needs = some name) :
      Converts history (.error (.missingHyperParameter history.family name))
  /-- Nothing is lacking, but the variant with a running maximum is asked for. -/
  | variant (single : history.additions = 0) (known : history.family = "adam")
      (complete : firstLacking? history.last? OptimizerKind.adam.needs = none)
      (asked : history.last? "amsgrad" = some (.bool true)) :
      Converts history (.error (.unsupportedOptimizerVariant "adam" "amsgrad"))
  | sgd {learningRate weightDecay momentum dampening : Double} {descriptor : Descriptor}
      (single : history.additions = 0) (known : history.family = "sgd")
      (rate : history.last? "lr" = some (.float learningRate))
      (decay : history.last? "weight_decay" = some (.float weightDecay))
      (momentum? : history.last? "momentum" = some (.float momentum))
      (dampening? : history.last? "dampening" = some (.float dampening))
      (kind : descriptor.kind = .sgd)
      (entries : descriptor.parameters.entries =
        Descriptor.sgdEntries learningRate weightDecay momentum dampening) :
      Converts history (.ok descriptor)
  | adam {learningRate weightDecay beta1 beta2 epsilon : Double} {descriptor : Descriptor}
      (single : history.additions = 0) (known : history.family = "adam")
      (rate : history.last? "lr" = some (.float learningRate))
      (decay : history.last? "weight_decay" = some (.float weightDecay))
      (betas? : history.last? "betas" = some (.pair beta1 beta2))
      (epsilon? : history.last? "eps" = some (.float epsilon))
      (unasked : history.last? "amsgrad" ≠ some (.bool true))
      (kind : descriptor.kind = .adam)
      (entries : descriptor.parameters.entries =
        Descriptor.adamEntries learningRate weightDecay beta1 beta2 epsilon) :
      Converts history (.ok descriptor)

namespace History

variable {history : History}

/-- With one group, what counts is what was set last. -/
theorem ofHost_of_single (kind : OptimizerKind) (single : history.additions = 0)
    (known : history.family = kind.family) :
    ∃ group, group.get? = history.last? ∧
      Descriptor.ofHost history.optimizer = Descriptor.ofGroup kind kind.family group := by
  obtain ⟨group, others, groups, length, given⟩ := shows_history history
  obtain rfl := List.eq_nil_of_length_eq_zero (length.trans single)
  refine ⟨group, funext given, ?_⟩
  rw [Descriptor.ofHost, groups]
  simp only [family_optimizer, known, kindOf?_family]

/-- An optimizer is described or refused as its history has it. -/
theorem Converts.ofHost {outcome : Result Descriptor} (converts : history.Converts outcome) :
    Descriptor.ofHost history.optimizer = outcome := by
  cases converts with
  | grouped added =>
      obtain ⟨group, others, groups, length, -⟩ := shows_history history
      cases others with
      | nil => exact absurd length.symm (Nat.ne_of_gt added)
      | cons other others =>
          rw [Descriptor.ofHost, groups, ← length]
          rfl
  | foreign single unknown unknown' =>
      obtain ⟨group, others, groups, length, -⟩ := shows_history history
      obtain rfl := List.eq_nil_of_length_eq_zero (length.trans single)
      have unknown : Descriptor.kindOf? history.family = none := by
        rw [Descriptor.kindOf?, sgdFamily, if_neg unknown, adamFamily, if_neg unknown']
      rw [Descriptor.ofHost, groups]
      simp only [family_optimizer, unknown]
  | lacking kind name single known first =>
      obtain ⟨group, given, same⟩ := ofHost_of_single kind single known
      rw [same, Descriptor.ofGroup_of_lacking (given ▸ first), known]
  | variant single known complete asked =>
      obtain ⟨group, given, same⟩ := ofHost_of_single .adam single known
      obtain ⟨⟨_, rate⟩, ⟨_, decay⟩, ⟨_, _, betas⟩, ⟨_, epsilon⟩⟩ :=
        firstLacking?_adam_eq_none_iff.mp complete
      rw [← given] at rate decay betas epsilon asked
      have described := Descriptor.ofGroup_adam rate decay betas epsilon
      rw [if_pos asked] at described
      exact same.trans described
  | sgd single known rate decay momentum? dampening? kind entries =>
      obtain ⟨group, given, same⟩ := ofHost_of_single .sgd single known
      rw [← given] at rate decay momentum? dampening?
      obtain ⟨descriptor, described, kind', entries'⟩ :=
        Descriptor.ofGroup_sgd rate decay momentum? dampening?
      rw [same, OptimizerKind.family, described,
        Descriptor.eq_of_entries (kind'.trans kind.symm) (entries'.trans entries.symm)]
  | adam single known rate decay betas? epsilon? unasked kind entries =>
      obtain ⟨group, given, same⟩ := ofHost_of_single .adam single known
      rw [← given] at rate decay betas? epsilon? unasked
      have described := Descriptor.ofGroup_adam rate decay betas? epsilon?
      rw [if_neg unasked] at described
      obtain ⟨descriptor, described, kind', entries'⟩ := described
      rw [same, OptimizerKind.family, described,
        Descriptor.eq_of_entries (kind'.trans kind.symm) (entries'.trans entries.symm)]

/-- Every history makes something of the description. -/
theorem exists_converts (history : History) : ∃ outcome, history.Converts outcome := by
  rcases Nat.eq_zero_or_pos history.additions with single | added
  · by_cases known : ∃ kind : OptimizerKind, history.family = kind.family
    · obtain ⟨kind, known⟩ := known
      obtain ⟨group, given, -⟩ := ofHost_of_single kind single known
      cases complete : firstLacking? history.last? kind.needs with
      | some name => exact ⟨_, .lacking kind name single known complete⟩
      | none =>
          cases kind with
          | sgd =>
              obtain ⟨⟨_, rate⟩, ⟨_, decay⟩, ⟨_, momentum⟩, ⟨_, dampening⟩⟩ :=
                firstLacking?_sgd_eq_none_iff.mp complete
              rw [← given] at rate decay momentum dampening
              obtain ⟨descriptor, -, kind, entries⟩ :=
                Descriptor.ofGroup_sgd rate decay momentum dampening
              rw [given] at rate decay momentum dampening
              exact ⟨_, .sgd single known rate decay momentum dampening kind entries⟩
          | adam =>
              obtain ⟨⟨_, rate⟩, ⟨_, decay⟩, ⟨_, _, betas⟩, ⟨_, epsilon⟩⟩ :=
                firstLacking?_adam_eq_none_iff.mp complete
              by_cases asked : history.last? "amsgrad" = some (.bool true)
              · exact ⟨_, .variant single known complete asked⟩
              · rw [← given] at rate decay betas epsilon asked
                have described := Descriptor.ofGroup_adam rate decay betas epsilon
                rw [if_neg asked] at described
                obtain ⟨descriptor, -, kind, entries⟩ := described
                rw [given] at rate decay betas epsilon asked
                exact ⟨_, .adam single known rate decay betas epsilon asked kind entries⟩
    · exact ⟨_, .foreign single (fun same => known ⟨.sgd, same⟩) fun same => known ⟨.adam, same⟩⟩
  · exact ⟨_, .grouped added⟩

/-- An optimizer is described or refused exactly as its history has it. -/
theorem ofHost_eq_iff {outcome : Result Descriptor} :
    Descriptor.ofHost history.optimizer = outcome ↔ history.Converts outcome := by
  refine ⟨?_, Converts.ofHost⟩
  rintro rfl
  obtain ⟨outcome, converts⟩ := history.exists_converts
  rwa [converts.ofHost]

end History

/-- A host optimizer has one group more than were added. Whether it is described, and by what, or
why it is refused is fixed by how it came about. -/
theorem conversion_follows_history (history : History) :
    history.optimizer.groups.length = history.additions + 1 ∧
      ∀ outcome, Descriptor.ofHost history.optimizer = outcome ↔ history.Converts outcome := by
  refine ⟨?_, fun _ => History.ofHost_eq_iff⟩
  obtain ⟨first, others, groups, length, -⟩ := shows_history history
  rw [groups, List.length_cons, length]

end HostOptimizer

end Offload
