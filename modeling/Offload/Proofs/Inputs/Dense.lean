/-
# Bindings of blocks

Every tensor of a bound call is one block, and so is every tensor of the views that compilation
works on: the leading part of a block is a block, and so is what is promoted from one. If the
arguments lie in their buffers, bringing them into one block cannot fail, and what it reports is
whether there was anything to do.
-/

import Offload.Proofs.Precision.Views
import Offload.Proofs.Tensor.Contents

namespace Offload

open Attempt

/-- No tensor among some leaves is strided. -/
def AllDense (leaves : List Value) : Prop := ∀ value ∈ leaves, value.isStrided = false

/-- A tensor that a leaf holds lies in its buffer. -/
def Value.InBounds (value : Value) : Prop := ∀ tensor, value = .tensor tensor → tensor.InBounds

/-- Leaves are dense if each follows from the one in its place in a way that makes it dense. -/
theorem AllDense.of_forall₂ {rel : Value → Value → Prop} {leaves changed : List Value}
    (each : List.Forall₂ rel leaves changed)
    (dense : ∀ value ∈ leaves, ∀ other, rel value other → other.isStrided = false) :
    AllDense changed := by
  induction each with
  | nil => exact nofun
  | cons first _ ih =>
      obtain ⟨start, rest⟩ := List.forall_mem_cons.mp dense
      exact List.forall_mem_cons.mpr ⟨start _ first, ih rest⟩

theorem Value.isStrided_tensor_eq_false {tensor : Tensor} :
    (Value.tensor tensor).isStrided = false ↔ tensor.isContiguous = true := by
  simp [isStrided]

namespace Binding

/-- What is brought into blocks has a block in the place of every tensor. -/
theorem ends_densify (bound : Binding) :
    (withOwn bound (densify (σ := Unit))).Ends ()
      (fun ended _ => Tree.AlignedItems (fun _ changed => changed.isStrided = false)
        bound.arguments ended.2.arguments) fun _ _ => True := by
  have blocks (value : Value) (_ : value.isStrided = true) (state : Unit) :
      (ofResult (value.onTensor Tensor.contiguous)).Ends state
        (fun changed _ => changed.isStrided = false) fun _ _ => True := by
    refine @Value.ends_onTensor Unit (fun _ changed => changed.isStrided = false) _ value state
      (fun tensor block _ made => ?_) fun other => ?_
    · exact Value.isStrided_tensor_eq_false.mpr (Tensor.isContiguous_of_contiguous made)
    · cases value <;> first | rfl | exact nomatch other
  exact ends_withOwn.mpr ((ends_forEachMatched blocks (fun _ => id) bound ()).mono
    (fun _ _ ended => ended.1) fun _ _ => id)

/-- All that is bound to a call is dense. -/
theorem ofCall_dense {signature : Signature} {call : CallArguments} {densified : Bool}
    {binding : Binding} (called : ofCall signature call = .ok (densified, binding)) :
    AllDense binding.leaves := by
  unfold ofCall at called
  rcases named : bind signature call with cause | bound
  · rw [named] at called
    exact nomatch called
  rw [named] at called
  have aligned := of_outcome (ends_densify bound) called
  exact .of_forall₂ aligned.leaves fun _ _ _ dense => dense

end Binding

/-- The leading part of a block is a block. -/
theorem Batch.ends_traceView_dense (batch : Batch) (binding : Binding) :
    (withOwn binding (batch.traceView (σ := Unit))).Ends ()
      (fun ended _ => Tree.AlignedItems
        (fun value part => value.isStrided = false → part.isStrided = false)
        binding.arguments ended.2.arguments) fun _ _ => True := by
  have parts (value : Value) (state : Unit) :
      (ofResult (value.onTensor batch.narrow)).Ends state
        (fun part _ => value.isStrided = false → part.isStrided = false) fun _ _ => True := by
    refine @Value.ends_onTensor Unit (fun value part => value.isStrided = false →
      part.isStrided = false) _ value state (fun tensor part _ made => ?_) fun _ => id
    rw [Value.isStrided_tensor_eq_false, Value.isStrided_tensor_eq_false]
    exact isContiguous_of_narrow made
  exact ends_withOwn.mpr (Binding.ends_forEach parts binding ())

/-- The views of dense leaves are dense. -/
theorem Executor.Views.dense {options : Options} {binding : Binding} {views : Views}
    (made : Views.of options binding = .ok views) (dense : AllDense binding.leaves) :
    AllDense views.narrowed.leaves ∧ AllDense views.promoted.leaves := by
  have aligned := of_outcome ((Batch.ofOptions options).ends_traceView_dense binding)
    (Views.of_eq_ok made).1
  have narrowed : AllDense views.narrowed.leaves :=
    .of_forall₂ aligned.leaves fun value there other keeps => keeps (dense value there)
  refine ⟨narrowed, .of_forall₂ (Views.follow made).promoted.leaves fun value there other => ?_⟩
  rintro (⟨half, converted⟩ | full)
  · exact Value.isStrided_tensor_eq_false.mpr (Tensor.isContiguous_of_toDType converted
      (Value.isStrided_tensor_eq_false.mp (narrowed _ there)))
  · exact narrowed _ there

/-! ## Arguments inside their buffers -/

section Traversal

variable {σ : Type} {selected : Value → Bool} {change : Value → Attempt σ Value}

/-- The change of a leaf cannot fail if the leaf is selected. -/
def Changes (selected : Value → Bool) (change : Value → Attempt σ Value) (value : Value) : Prop :=
  selected value = true → ∀ state, (change value).Ends state (fun _ _ => True) fun _ _ => False

/-- A selective visit raises the flag exactly if the leaf is selected. -/
theorem Tree.ends_visitMatched_raising {value : Value} (changes : Changes selected change value)
    (state : Bool × σ) :
    (Tree.visitMatched selected change value).Ends state
      (fun _ reached => reached.1 = (state.1 || selected value)) fun _ _ => False := by
  unfold Tree.visitMatched
  split
  · next chosen =>
      rw [ends_bind, ends_modify, onRest, ends_within, chosen, Bool.or_true]
      exact (changes chosen state.2).mono (fun _ _ _ => rfl) fun _ _ => id
  · next spared =>
      rw [ends_pure, Bool.eq_false_iff.mpr spared, Bool.or_false]

/-- A selective traversal raises the flag exactly if a leaf is selected. -/
theorem ends_mapM_leaves_raising (leaves : List Value)
    (changes : ∀ value ∈ leaves, Changes selected change value) (state : Bool × σ) :
    (leaves.mapM (Tree.visitMatched selected change)).Ends state
      (fun _ reached => reached.1 = (state.1 || leaves.any selected)) fun _ _ => False := by
  induction leaves generalizing state with
  | nil => exact (Bool.or_false state.1).symm
  | cons value leaves ih =>
      obtain ⟨first, others⟩ := List.forall_mem_cons.mp changes
      rw [List.mapM_cons, ends_bind, List.any_cons, ← Bool.or_assoc]
      refine (Tree.ends_visitMatched_raising first state).mono (fun _ reached raised => ?_)
        fun _ _ => id
      rw [ends_bind, ← raised]
      exact ih others reached

theorem Tree.ends_mapItemsM_raising (items : List Tree)
    (changes : ∀ value ∈ Tree.leavesOfItems items, Changes selected change value)
    (state : Bool × σ) :
    (Tree.mapItemsM (Tree.visitMatched selected change) items).Ends state
      (fun _ reached => reached.1 = (state.1 || (Tree.leavesOfItems items).any selected))
      fun _ _ => False :=
  (ends_mapItemsM_of_leaves _ (ends_mapM_leaves_raising _ changes state)).mono
    (fun _ _ => And.right) fun _ _ => id

end Traversal

/-- Arguments that bind and lie in their buffers are brought into blocks without fail, and it is
reported whether one of them was strided. -/
theorem Binding.ofCall_eq_ok {signature : Signature} {call : CallArguments} {bound : Binding}
    (named : bind signature call = .ok bound) (inside : ∀ value ∈ bound.leaves, value.InBounds) :
    ∃ binding, ofCall signature call = .ok (bound.leaves.any Value.isStrided, binding) := by
  have blocks (value : Value) (there : value ∈ bound.leaves) :
      Changes Value.isStrided (σ := Unit)
        (fun value => ofResult (value.onTensor Tensor.contiguous)) value := by
    intro _ state
    refine ends_ofResult (fun _ _ => trivial) fun cause failed => ?_
    cases value with
    | tensor tensor =>
        obtain ⟨block, made, -⟩ := (inside _ there tensor rfl).contiguous
        rw [Value.onTensor, made] at failed
        exact nomatch failed
    | _ => exact nomatch failed
  have ends : (withOwn bound (densify (σ := Unit))).Ends ()
      (fun ended _ => ended.1 = bound.leaves.any Value.isStrided) fun _ _ => False := by
    have raised := Tree.ends_mapItemsM_raising bound.arguments blocks (false, ())
    simp only [densify, forEachMatched, setArguments, ends_bind, ends_get, ends_modify, onRest,
      ends_within, ends_withOwn, ends_pure]
    exact raised.mono (fun _ _ flag => flag.trans (Bool.false_or _)) fun _ _ => id
  have called : ofCall signature call = (withOwn bound (densify (σ := Unit))).outcome := by
    rw [ofCall, named]
    rfl
  rw [called]
  unfold Ends at ends
  rcases performed : (withOwn bound (densify (σ := Unit))).perform () with ⟨cause | ended, _⟩
  · rw [performed] at ends
    exact ends.elim
  · rw [performed] at ends
    obtain ⟨flag, binding⟩ := ended
    obtain rfl : flag = _ := ends
    exact ⟨binding, congrArg Prod.fst performed⟩

end Offload
