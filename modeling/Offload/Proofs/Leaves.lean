/-
# Leaves of a binding

Traversals keep the containers of an argument and put something in the place of every leaf. So the
arguments before and after are aligned: they have the same containers with the same keys, and their
leaves correspond one by one, in order, as each visit relates them. What is known of one leaf that
is narrowed or promoted is known of all leaves of a view. A selective traversal that raised no flag
changed nothing.
-/

import Offload.Proofs.Executor.Views
import Offload.Proofs.Traversal

namespace Offload

open Attempt

section Traversal

variable {σ : Type} {rel : Value → Value → Prop} {quiet : σ → Prop}
  {visit : Value → Attempt σ Value}

/-- Leaves and what a traversal makes of them correspond. -/
theorem ends_mapM_leaves
    (visits : ∀ value state, (visit value).Ends state (fun changed _ => rel value changed)
      fun _ _ => True) (leaves : List Value) (state : σ) :
    (leaves.mapM visit).Ends state (fun changed _ => List.Forall₂ rel leaves changed)
      fun _ _ => True := by
  induction leaves generalizing state with
  | nil => exact .nil
  | cons value leaves ih =>
      rw [List.mapM_cons, ends_bind]
      refine (visits value state).mono (fun first reached related => ?_) fun _ _ => id
      rw [ends_bind]
      exact (ih reached).mono (fun _ _ others => .cons related others) fun _ _ => id

/-- Arguments and what a traversal makes of them are aligned. -/
theorem Tree.ends_mapItemsM
    (visits : ∀ value state, (visit value).Ends state (fun changed _ => rel value changed)
      fun _ _ => True) (items : List Tree) (state : σ) :
    (Tree.mapItemsM visit items).Ends state (fun changed _ => AlignedItems rel items changed)
      fun _ _ => True :=
  (ends_mapItemsM_of_leaves visit (ends_mapM_leaves visits (leavesOfItems items) state)).mono
    (fun _ _ aligned => alignedItems_iff.mpr aligned) fun _ _ => id

/-- If a visit that ends quietly began quietly and left its leaf, a traversal that ends quietly left
all leaves. -/
theorem ends_mapM_leaves_quiet
    (visits : ∀ value state, (visit value).Ends state
      (fun changed reached => quiet reached → quiet state ∧ changed = value) fun _ _ => True)
    (leaves : List Value) (state : σ) :
    (leaves.mapM visit).Ends state
      (fun changed reached => quiet reached → quiet state ∧ changed = leaves) fun _ _ => True := by
  induction leaves generalizing state with
  | nil => exact fun still => ⟨still, rfl⟩
  | cons value leaves ih =>
      rw [List.mapM_cons, ends_bind]
      refine (visits value state).mono (fun first reached same => ?_) fun _ _ => id
      rw [ends_bind]
      refine (ih reached).mono (fun _ _ others still => ?_) fun _ _ => id
      obtain ⟨still, rfl⟩ := others still
      obtain ⟨still, rfl⟩ := same still
      exact ⟨still, rfl⟩

/-- So it left the arguments. -/
theorem Tree.ends_mapItemsM_quiet
    (visits : ∀ value state, (visit value).Ends state
      (fun changed reached => quiet reached → quiet state ∧ changed = value) fun _ _ => True)
    (items : List Tree) (state : σ) :
    (Tree.mapItemsM visit items).Ends state
      (fun changed reached => quiet reached → quiet state ∧ changed = items) fun _ _ => True := by
  have ends := ends_mapM_leaves_quiet visits (leavesOfItems items) state
  refine (ends_mapItemsM_of_leaves visit ends).mono (fun _ _ ended still => ?_) fun _ _ => id
  obtain ⟨frames, same⟩ := ended
  obtain ⟨still, leaves⟩ := same still
  have refilled : RefilledItems items (leavesOfItems items) _ := ⟨frames, leaves⟩
  exact ⟨still, refilled.eq.symm⟩

end Traversal

namespace Binding

variable {σ : Type} {rel : Value → Value → Prop} {change : Value → Attempt σ Value}

/-- Changing every leaf relates the leaves of a binding as the change does. -/
theorem ends_forEach
    (changes : ∀ value state, (change value).Ends state (fun changed _ => rel value changed)
      fun _ _ => True) (binding : Binding) (state : σ) :
    (forEach change).Ends (binding, state)
      (fun _ reached => Tree.AlignedItems rel binding.arguments reached.1.arguments)
      fun _ _ => True := by
  simp only [forEach, setArguments, ends_bind, ends_get, ends_modify, onRest, ends_within]
  exact Tree.ends_mapItemsM changes binding.arguments state

/-- Changing the selected leaves relates those as the change does; the others stay, and so do all
if none was selected. -/
theorem ends_forEachMatched {selected : Value → Bool}
    (changes : ∀ value, selected value = true → ∀ state, (change value).Ends state
      (fun changed _ => rel value changed) fun _ _ => True)
    (stays : ∀ value, selected value = false → rel value value) (binding : Binding) (state : σ) :
    (forEachMatched selected change).Ends (binding, state)
      (fun matched reached =>
        Tree.AlignedItems rel binding.arguments reached.1.arguments ∧
          (matched = false → reached.1.arguments = binding.arguments))
      fun _ _ => True := by
  have visits (value : Value) (state : Bool × σ) :
      (Tree.visitMatched selected change value).Ends state
        (fun changed reached => rel value changed ∧
          (reached.1 = false → state.1 = false ∧ changed = value))
        fun _ _ => True := by
    unfold Tree.visitMatched
    split
    · next chosen =>
        simp only [ends_bind, ends_modify, onRest, ends_within]
        exact (changes value chosen state.2).mono (fun _ _ related => ⟨related, by simp⟩)
          fun _ _ => id
    · next spared => exact ⟨stays value (by simpa using spared), fun still => ⟨still, rfl⟩⟩
  have aligned := Tree.ends_mapItemsM
    (fun value state => (visits value state).mono (fun _ _ => And.left) fun _ _ => id)
    binding.arguments (false, state)
  have unchanged := Tree.ends_mapItemsM_quiet
    (fun value state => (visits value state).mono (fun _ _ => And.right) fun _ _ => id)
    binding.arguments (false, state)
  simp only [forEachMatched, setArguments, ends_bind, ends_get, ends_modify, onRest, ends_within,
    ends_withOwn, ends_pure]
  exact (aligned.and unchanged).mono
    (fun _ _ ended => ⟨ended.1, fun still => (ended.2 still).2⟩) fun _ _ _ => trivial

end Binding

end Offload
