/-
# What tells optimizers apart

Whether an optimizer is pushed to the device depends on the equality of descriptors, so a
descriptor must show all that the device sees of an optimizer and nothing else. The device sees
the family and a few hyper-parameters of it, as numbers. The marks for usual values are functions
of the numbers under their names, and what else was set is not looked at. The statements compare
the histories of two optimizers and hold whatever else was done in either.
-/

import Offload.Proofs.Optimizer.Conversion
import Offload.Proofs.Optimizer.Equality

namespace Offload

namespace Double

/-- Two values are the same number. What is not a number is not even the same as itself. -/
def SameNumber (left right : Double) : Prop :=
  left.value?.isSome = true ∧ left.value? = right.value?

instance (left right : Double) : Decidable (left.SameNumber right) :=
  inferInstanceAs (Decidable (_ ∧ _))

/-- A property of values is one of numbers. -/
def Numerical (mark : Double → Bool) : Prop :=
  ∀ ⦃left right : Double⦄, left.SameNumber right → mark left = mark right

theorem numerical_isZero : Numerical fun value => decide value.IsZero := by
  intro left right same
  exact decide_eq_decide.mpr (by rw [IsZero, IsZero, same.2])

theorem numerical_isDefaultEpsilon : Numerical fun value => decide value.IsDefaultEpsilon := by
  intro left right same
  exact decide_eq_decide.mpr (by rw [IsDefaultEpsilon, IsDefaultEpsilon, same.2])

end Double

namespace HyperParameter

/-- Two hyper-parameters are there and consist of the same numbers. -/
def SameNumbers : Option HyperParameter → Option HyperParameter → Prop
  | some (.float value), some (.float value') => value.SameNumber value'
  | some (.pair first second), some (.pair first' second') =>
      first.SameNumber first' ∧ second.SameNumber second'
  | _, _ => False

theorem sameNumbers_float_iff {value value' : Double} :
    SameNumbers (some (.float value)) (some (.float value')) ↔ value.SameNumber value' :=
  Iff.rfl

theorem sameNumbers_pair_iff {first second first' second' : Double} :
    SameNumbers (some (.pair first second)) (some (.pair first' second')) ↔
      first.SameNumber first' ∧ second.SameNumber second' :=
  Iff.rfl

instance : ∀ left right, Decidable (SameNumbers left right)
  | some (.float value), some (.float value') =>
      inferInstanceAs (Decidable (value.SameNumber value'))
  | some (.pair first second), some (.pair first' second') =>
      inferInstanceAs (Decidable (first.SameNumber first' ∧ second.SameNumber second'))
  | none, _ | some (.bool _), _ => .isFalse id
  | some (.float _), none | some (.float _), some (.bool _) | some (.float _), some (.pair _ _) =>
      .isFalse id
  | some (.pair _ _), none | some (.pair _ _), some (.bool _) | some (.pair _ _), some (.float _) =>
      .isFalse id

end HyperParameter

namespace Descriptor

open Double

/-- The mark of a value under a name. -/
def markOf (name : String) (value : Double) : Bool :=
  if name = "eps" then decide value.IsDefaultEpsilon
  else if name = "momentum" ∨ name = "dampening" ∨ name = "weight_decay" then decide value.IsZero
  else false

/-- Under any name, equal numbers are marked alike. -/
theorem numerical_markOf (name : String) : Numerical (markOf name) := by
  intro left right same
  unfold markOf
  split
  · exact numerical_isDefaultEpsilon same
  · split
    · exact numerical_isZero same
    · rfl

/-- A value with the mark it has under its name. -/
def entryOf (named : String × Double) : String × Double × Bool :=
  (named.1, named.2, markOf named.1 named.2)

theorem sameEntry_entryOf_iff (named named' : String × Double) :
    SameEntry (entryOf named) (entryOf named') ↔
      named.1 = named'.1 ∧ named.2.SameNumber named'.2 := by
  obtain ⟨name, value⟩ := named
  obtain ⟨name', value'⟩ := named'
  constructor
  · rintro ⟨name, same, -⟩
    exact ⟨name, (Double.equal_iff ..).mp same⟩
  · rintro ⟨rfl, same⟩
    exact ⟨rfl, (Double.equal_iff ..).mpr same, numerical_markOf name same⟩

/-- Descriptors whose marks follow from their values are compared by the values alone. -/
theorem equal_iff_of_entryOf {left right : Descriptor} {values values' : List (String × Double)}
    (entries : left.parameters.entries = values.map entryOf)
    (entries' : right.parameters.entries = values'.map entryOf) :
    left.equal right = true ↔ left.kind = right.kind ∧
      List.Forall₂ (fun named named' => named.1 = named'.1 ∧ named.2.SameNumber named'.2)
        values values' := by
  simp only [Descriptor.equal_iff, entries, entries', List.forall₂_map_left_iff,
    List.forall₂_map_right_iff, sameEntry_entryOf_iff]

theorem sgdEntries_eq (learningRate weightDecay momentum dampening : Double) :
    sgdEntries learningRate weightDecay momentum dampening =
      [("dampening", dampening), ("lr", learningRate), ("momentum", momentum),
        ("weight_decay", weightDecay)].map entryOf := rfl

theorem adamEntries_eq (learningRate weightDecay beta1 beta2 epsilon : Double) :
    adamEntries learningRate weightDecay beta1 beta2 epsilon =
      [("beta1", beta1), ("beta2", beta2), ("eps", epsilon), ("lr", learningRate),
        ("weight_decay", weightDecay)].map entryOf := rfl

end Descriptor

namespace HostOptimizer

open HyperParameter

/-- The hyper-parameters that the device sees of an optimizer of a family. -/
def seen (family : String) : List String :=
  if family = "sgd" then ["lr", "weight_decay", "momentum", "dampening"]
  else if family = "adam" then ["lr", "weight_decay", "betas", "eps"]
  else []

theorem forall_seen_sgd_iff {P : String → Prop} : (∀ name ∈ seen "sgd", P name) ↔
    P "lr" ∧ P "weight_decay" ∧ P "momentum" ∧ P "dampening" := by
  simp [seen]

theorem forall_seen_adam_iff {P : String → Prop} : (∀ name ∈ seen "adam", P name) ↔
    P "lr" ∧ P "weight_decay" ∧ P "betas" ∧ P "eps" := by
  simp [seen]

namespace History

variable {history left right : History} {descriptor descriptor' : Descriptor}

/-- The marks of a description follow from its values. -/
theorem Converts.exists_values (converts : history.Converts (.ok descriptor)) :
    ∃ values : List (String × Double),
      descriptor.parameters.entries = values.map Descriptor.entryOf := by
  cases converts with
  | sgd _ _ _ _ _ _ _ entries => exact ⟨_, entries.trans (Descriptor.sgdEntries_eq ..)⟩
  | adam _ _ _ _ _ _ _ _ entries => exact ⟨_, entries.trans (Descriptor.adamEntries_eq ..)⟩

/-- A value of a description is marked as its name has it. -/
theorem Converts.eq_markOf (converts : history.Converts (.ok descriptor)) {name : String}
    {value : Double} {mark : Bool} (found : descriptor.get? name = some (value, mark)) :
    mark = Descriptor.markOf name value := by
  obtain ⟨values, entries⟩ := converts.exists_values
  have there : (name, value, mark) ∈ descriptor.parameters.entries :=
    (Dict.mem_entries_iff ..).mpr found
  rw [entries, List.mem_map] at there
  obtain ⟨named, -, same⟩ := there
  cases same
  rfl

/-- Descriptions are equal if the device sees the same in both optimizers. -/
theorem Converts.equal_iff (converts : left.Converts (.ok descriptor))
    (converts' : right.Converts (.ok descriptor')) :
    descriptor.equal descriptor' = true ↔ left.family = right.family ∧
      ∀ name ∈ seen left.family, SameNumbers (left.last? name) (right.last? name) := by
  cases converts with
  | sgd _ known rate decay momentum dampening kind entries =>
      cases converts' with
      | sgd _ known' rate' decay' momentum' dampening' kind' entries' =>
          rw [Descriptor.equal_iff_of_entryOf (entries.trans (Descriptor.sgdEntries_eq ..))
            (entries'.trans (Descriptor.sgdEntries_eq ..)), known, known', forall_seen_sgd_iff,
            rate, rate', decay, decay', momentum, momentum', dampening, dampening']
          simp only [kind, kind', List.forall₂_cons, List.forall₂_nil_left_iff, true_and,
            and_true, sameNumbers_float_iff]
          tauto
      | adam _ known' _ _ _ _ _ kind' _ =>
          simp [Descriptor.equal_iff, kind, kind', known, known']
  | adam _ known rate decay betas epsilon _ kind entries =>
      cases converts' with
      | sgd _ known' _ _ _ _ kind' _ =>
          simp [Descriptor.equal_iff, kind, kind', known, known']
      | adam _ known' rate' decay' betas' epsilon' _ kind' entries' =>
          rw [Descriptor.equal_iff_of_entryOf (entries.trans (Descriptor.adamEntries_eq ..))
            (entries'.trans (Descriptor.adamEntries_eq ..)), known, known', forall_seen_adam_iff,
            rate, rate', decay, decay', betas, betas', epsilon, epsilon']
          simp only [kind, kind', List.forall₂_cons, List.forall₂_nil_left_iff, true_and,
            and_true, sameNumbers_float_iff, sameNumbers_pair_iff]
          tauto

/-- What the device does not see leaves no trace in a description. -/
theorem Converts.eq_of_seen (converts : left.Converts (.ok descriptor))
    (converts' : right.Converts (.ok descriptor')) (family : left.family = right.family)
    (same : ∀ name ∈ seen left.family, left.last? name = right.last? name) :
    descriptor = descriptor' := by
  cases converts with
  | sgd _ known rate decay momentum dampening kind entries =>
      rw [known, forall_seen_sgd_iff, rate, decay, momentum, dampening] at same
      obtain ⟨rate, decay, momentum, dampening⟩ := same
      cases converts' with
      | sgd _ known' rate' decay' momentum' dampening' kind' entries' =>
          cases rate.trans rate'
          cases decay.trans decay'
          cases momentum.trans momentum'
          cases dampening.trans dampening'
          exact Descriptor.eq_of_entries (kind.trans kind'.symm) (entries.trans entries'.symm)
      | adam _ known' => simp [known, known'] at family
  | adam _ known rate decay betas epsilon _ kind entries =>
      rw [known, forall_seen_adam_iff, rate, decay, betas, epsilon] at same
      obtain ⟨rate, decay, betas, epsilon⟩ := same
      cases converts' with
      | sgd _ known' => simp [known, known'] at family
      | adam _ known' rate' decay' betas' epsilon' _ kind' entries' =>
          cases rate.trans rate'
          cases decay.trans decay'
          cases betas.trans betas'
          cases epsilon.trans epsilon'
          exact Descriptor.eq_of_entries (kind.trans kind'.symm) (entries.trans entries'.symm)

end History

/-- Two optimizers that the device takes have equal descriptors exactly if they are of the same
family and the device sees the same numbers in them. Other hyper-parameters leave no trace in a
descriptor, and no mark distinguishes what the numbers do not. -/
theorem descriptors_show_what_is_seen {left right : History} {descriptor descriptor' : Descriptor}
    (described : Descriptor.ofHost left.optimizer = .ok descriptor)
    (described' : Descriptor.ofHost right.optimizer = .ok descriptor') :
    (descriptor.equal descriptor' = true ↔ left.family = right.family ∧
        ∀ name ∈ seen left.family, SameNumbers (left.last? name) (right.last? name)) ∧
      (left.family = right.family →
        (∀ name ∈ seen left.family, left.last? name = right.last? name) →
          descriptor = descriptor') ∧
      ∀ name value value' mark mark', descriptor.get? name = some (value, mark) →
        descriptor'.get? name = some (value', mark') → value.SameNumber value' →
          mark = mark' := by
  have converts := History.ofHost_eq_iff.mp described
  have converts' := History.ofHost_eq_iff.mp described'
  refine ⟨converts.equal_iff converts', converts.eq_of_seen converts', ?_⟩
  intro name value value' mark mark' found found' same
  rw [converts.eq_markOf found, converts'.eq_markOf found']
  exact Descriptor.numerical_markOf name same

/-- The zero that comes from below. -/
def minusZero : Double := ⟨0x8000000000000000⟩

/-- Gradient descent with a momentum of zero from below and a label. -/
def labelled : History :=
  ⟨.sgd .zero, [.momentum minusZero, .assign "label" (.bool true)]⟩

/-- Gradient descent put together piece by piece, with a dampening of zero from below. -/
def assembled : History :=
  ⟨.family "sgd", [.assign "lr" (.float .zero), .weightDecay .zero, .dampening minusZero,
    .momentum .zero]⟩

/-- The descriptor of gradient descent that holds still. -/
def stillDescriptor (momentum dampening : Double) : Descriptor where
  kind := .sgd
  parameters.entries := Descriptor.sgdEntries .zero .zero momentum dampening
  parameters.sorted := by
    have rising : ["dampening", "lr", "momentum", "weight_decay"].Pairwise (· < ·) := by decide
    exact List.pairwise_map.mp rising

theorem sign_of_zero_is_unseen :
    Descriptor.ofHost labelled.optimizer = .ok (stillDescriptor minusZero .zero) ∧
      Descriptor.ofHost assembled.optimizer = .ok (stillDescriptor .zero minusZero) ∧
      (stillDescriptor minusZero .zero).equal (stillDescriptor .zero minusZero) = true := by
  have described : Descriptor.ofHost labelled.optimizer =
      .ok (stillDescriptor minusZero .zero) :=
    History.ofHost_eq_iff.mpr (.sgd rfl rfl rfl rfl rfl rfl rfl rfl)
  have described' : Descriptor.ofHost assembled.optimizer =
      .ok (stillDescriptor .zero minusZero) :=
    History.ofHost_eq_iff.mpr (.sgd rfl rfl rfl rfl rfl rfl rfl rfl)
  have same := (descriptors_show_what_is_seen described described').1.mpr (by decide +kernel)
  exact ⟨described, described', same⟩

end HostOptimizer

end Offload
