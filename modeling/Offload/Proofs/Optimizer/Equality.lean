/-
# Equality of optimizer descriptors

Descriptors are compared by value, number by number. Equality of numbers is symmetric and
transitive, and reflexive except for what is not a number, so a descriptor equals itself exactly if
all its values are numbers.
-/

import Offload.Optimizer.Descriptor
import Offload.Proofs.Dict
import Offload.Proofs.Lists
import Offload.Proofs.Number.Value

namespace Offload

namespace Double

theorem equal_comm (left right : Double) : left.equal right = right.equal left :=
  Number.equal_comm left.number right.number

theorem equal_trans {first second third : Double} (same : first.equal second = true)
    (later : second.equal third = true) : first.equal third = true :=
  Number.equal_trans same later

/-- A value equals itself if it is a number. -/
theorem equal_self {value : Double} (number : value.isNaN = false) :
    value.equal value = true :=
  Number.equal_self_iff.mpr (beq_eq_false_iff_ne.mp number)

end Double

namespace Descriptor

/-- All values of the descriptor are numbers. -/
def Numeric (descriptor : Descriptor) : Prop :=
  ∀ entry ∈ descriptor.parameters.entries, entry.2.1.isNaN = false

instance (descriptor : Descriptor) : Decidable descriptor.Numeric := by
  unfold Numeric
  infer_instance

/-- A value with its mark, under a name, is the same. -/
def SameEntry (entry entry' : String × Double × Bool) : Prop :=
  entry.1 = entry'.1 ∧ entry.2.1.equal entry'.2.1 = true ∧ entry.2.2 = entry'.2.2

theorem equal_iff (left right : Descriptor) : left.equal right = true ↔
    left.kind = right.kind ∧ List.Forall₂ SameEntry left.parameters.entries
      right.parameters.entries := by
  simp only [equal, Bool.and_eq_true, beq_iff_eq, Dict.agrees_iff]
  rfl

theorem equal_symm {left right : Descriptor} (same : left.equal right = true) :
    right.equal left = true := by
  rw [equal_iff] at *
  refine ⟨same.1.symm, List.Forall₂.flip (same.2.imp fun entry entry' same => ?_)⟩
  exact ⟨same.1.symm, by rw [Double.equal_comm]; exact same.2.1, same.2.2.symm⟩

theorem equal_trans {first second third : Descriptor} (same : first.equal second = true)
    (later : second.equal third = true) : first.equal third = true := by
  rw [equal_iff] at *
  refine ⟨same.1.trans later.1, forall₂_comp (fun _ _ _ one two => ?_) same.2 later.2⟩
  exact ⟨one.1.trans two.1, Double.equal_trans one.2.1 two.2.1, one.2.2.trans two.2.2⟩

/-- A descriptor equals itself if all its values are numbers. -/
theorem equal_self {descriptor : Descriptor} (numeric : descriptor.Numeric) :
    descriptor.equal descriptor = true := by
  rw [equal_iff]
  refine ⟨rfl, List.forall₂_same.mpr fun entry there => ⟨rfl, ?_, rfl⟩⟩
  exact Double.equal_self (numeric entry there)

/-- All values of the descriptor are numbers, if there is one. -/
def AllNumeric (descriptor? : Option Descriptor) : Prop :=
  ∀ descriptor ∈ descriptor?, descriptor.Numeric

theorem optionEqual_symm :
    ∀ {left right : Option Descriptor}, optionEqual left right = true →
      optionEqual right left = true
  | none, none, _ => rfl
  | some _, some _, same => equal_symm same
  | none, some _, different => Bool.noConfusion different
  | some _, none, different => Bool.noConfusion different

theorem optionEqual_trans :
    ∀ {first second third : Option Descriptor}, optionEqual first second = true →
      optionEqual second third = true → optionEqual first third = true
  | none, none, _, _, later => later
  | some _, some _, some _, same, later => equal_trans same later
  | some _, some _, none, _, different => Bool.noConfusion different
  | none, some _, _, different, _ => Bool.noConfusion different
  | some _, none, _, different, _ => Bool.noConfusion different

theorem optionEqual_self {descriptor? : Option Descriptor} (numeric : AllNumeric descriptor?) :
    optionEqual descriptor? descriptor? = true := by
  cases descriptor? with
  | none => rfl
  | some descriptor => exact equal_self (numeric descriptor rfl)

end Descriptor

end Offload
