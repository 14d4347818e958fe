/-
# Traversals

Every traversal of an argument goes through its leaves from left to right and keeps its frame. A
visit may fail and may change a state of its own; it is called once on every leaf, in order, up to
the first on which it fails, and nothing else happens to the state. The calls are spelled out as a
relation that does not know of containers. Selective traversals are the same, with a visit that
leaves most leaves alone and a flag beside the state. On a binding the names stay; its arguments are
out while it is traversed, so a failure leaves it without.
-/

import Offload.Proofs.Alike
import Offload.Proofs.Frames

namespace Offload

open Attempt

variable {σ α : Type}

/-! ## Traversals and lists -/

/-- An argument has the frame of another and the values as its leaves. -/
structure Tree.Refilled (tree : Tree) (values : List Value) (changed : Tree) : Prop where
  frame : changed.frame = tree.frame
  leaves : changed.leaves = values

/-- So it is with several arguments in a row. -/
structure Tree.RefilledItems (items : List Tree) (values : List Value) (changed : List Tree) :
    Prop where
  frames : framesOfItems changed = framesOfItems items
  leaves : leavesOfItems changed = values

/-- What is refilled with its own leaves is the same. -/
theorem Tree.RefilledItems.eq {items changed : List Tree}
    (refilled : RefilledItems items (leavesOfItems items) changed) : items = changed := by
  have aligned : AlignedItems Eq items changed := by
    rw [alignedItems_iff, refilled.leaves]
    exact ⟨refilled.frames, List.forall₂_same.mpr fun _ _ => rfl⟩
  exact aligned.eq fun _ _ => id

/-- So it is with the entries of a mapping. -/
structure Tree.RefilledEntries (entries : List (String × Tree)) (values : List Value)
    (changed : List (String × Tree)) : Prop where
  frames : framesOfEntries changed = framesOfEntries entries
  leaves : leavesOfEntries changed = values

section Law

variable (visit : Value → Attempt σ Value)

mutual

/-- A traversal of an argument does what a traversal of the list of its leaves does, and puts what
that gives in the place of the leaves. -/
theorem Tree.alike_mapM_leaves : ∀ tree : Tree,
    (tree.leaves.mapM visit).Alike tree.Refilled Eq (tree.mapM visit)
  | .leaf value => by
      rw [leaves, List.mapM_cons, mapM]
      refine alike_bind_eq (alike_refl (visit value)) fun changed => ?_
      rw [List.mapM_nil, pure_bind]
      exact alike_pure ⟨rfl, rfl⟩
  | .sequence items => by
      rw [leaves, mapM, ← bind_pure (List.mapM visit (leavesOfItems items))]
      exact alike_bind (alike_mapItemsM_leaves items) fun _ _ refilled =>
        alike_pure ⟨congrArg sequence refilled.frames, refilled.leaves⟩
  | .mapping entries => by
      rw [leaves, mapM, ← bind_pure (List.mapM visit (leavesOfEntries entries))]
      exact alike_bind (alike_mapEntriesM_leaves entries) fun _ _ refilled =>
        alike_pure ⟨congrArg mapping refilled.frames, refilled.leaves⟩

theorem Tree.alike_mapItemsM_leaves : ∀ items : List Tree,
    ((leavesOfItems items).mapM visit).Alike (RefilledItems items) Eq (mapItemsM visit items)
  | [] => alike_pure ⟨rfl, rfl⟩
  | item :: items => by
      rw [leavesOfItems, List.mapM_append, mapItemsM]
      refine alike_bind (alike_mapM_leaves item) fun _ _ first => ?_
      refine alike_bind (alike_mapItemsM_leaves items) fun _ _ others => alike_pure ⟨?_, ?_⟩
      · rw [framesOfItems, framesOfItems, first.frame, others.frames]
      · rw [leavesOfItems, first.leaves, others.leaves]

theorem Tree.alike_mapEntriesM_leaves : ∀ entries : List (String × Tree),
    ((leavesOfEntries entries).mapM visit).Alike (RefilledEntries entries) Eq
      (mapEntriesM visit entries)
  | [] => alike_pure ⟨rfl, rfl⟩
  | (key, item) :: entries => by
      rw [leavesOfEntries, List.mapM_append, mapEntriesM]
      refine alike_bind (alike_mapM_leaves item) fun _ _ first => ?_
      refine alike_bind (alike_mapEntriesM_leaves entries) fun _ _ others => alike_pure ⟨?_, ?_⟩
      · rw [framesOfEntries, framesOfEntries, first.frame, others.frames]
      · rw [leavesOfEntries, first.leaves, others.leaves]

end

/-- So a traversal of several arguments ends as one of their leaves does. -/
theorem Tree.ends_mapItemsM_of_leaves {items : List Tree} {state : σ} {good : List Value → σ → Prop}
    {bad : Error → σ → Prop} (ends : ((leavesOfItems items).mapM visit).Ends state good bad) :
    (mapItemsM visit items).Ends state
      (fun changed reached => framesOfItems changed = framesOfItems items ∧
        good (leavesOfItems changed) reached) bad := by
  have agree := alike_mapItemsM_leaves visit items state state rfl
  unfold Ends at *
  generalize ((leavesOfItems items).mapM visit).perform state = ended at *
  generalize (mapItemsM visit items).perform state = ended' at *
  cases agree with
  | ok refilled same => exact ⟨refilled.frames, refilled.leaves.symm ▸ same ▸ ends⟩
  | error same => exact same ▸ ends

end Law

/-! ## The calls of a visit -/

/-- The visit is called on these leaves, one after the other and each time in the state that the
call before it left. What comes of it is what the calls gave in turn, or the failure of the last call. -/
inductive Visits (visit : Value → Attempt σ Value) :
    σ → List Value → Result (List Value) × σ → Prop where
  | done (state : σ) : Visits visit state [] (.ok [], state)
  | failed {state reached : σ} {value : Value} {cause : Error}
      (here : (visit value).perform state = (.error cause, reached)) :
      Visits visit state [value] (.error cause, reached)
  | next {state middle reached : σ} {value changed : Value} {values : List Value}
      {outcome : Result (List Value)}
      (here : (visit value).perform state = (.ok changed, middle))
      (rest : Visits visit middle values (outcome, reached)) :
      Visits visit state (value :: values) (outcome.map (changed :: ·), reached)

/-- The visit is called on some leaves from left to right, up to the first on which it fails. -/
structure Sweeps (visit : Value → Attempt σ Value) (leaves : List Value) (state : σ)
    (visited : List Value) (ended : Result (List Value) × σ) : Prop where
  visits : Visits visit state visited ended
  initial : visited <+: leaves
  all : ∀ values, ended.1 = .ok values → visited = leaves

/-- A traversal of a list of leaves calls the visit on them from left to right. -/
theorem exists_sweeps (visit : Value → Attempt σ Value) (leaves : List Value) (state : σ) :
    ∃ visited, Sweeps visit leaves state visited ((leaves.mapM visit).perform state) := by
  induction leaves generalizing state with
  | nil => exact ⟨[], .done state, List.prefix_rfl, fun _ _ => rfl⟩
  | cons value leaves ih =>
      rw [List.mapM_cons, perform_bind]
      rcases here : (visit value).perform state with ⟨cause | changed, middle⟩
      · exact ⟨[value], .failed here, ⟨leaves, rfl⟩, nofun⟩
      · obtain ⟨visited, visits, initial, all⟩ := ih middle
        dsimp only
        rw [perform_bind]
        rcases rest : (leaves.mapM visit).perform middle with ⟨cause | values, reached⟩ <;>
          rw [rest] at visits all
        · exact ⟨value :: visited, .next here visits, List.prefix_cons_iff.mpr
            (.inr ⟨visited, rfl, initial⟩), nofun⟩
        · obtain rfl := all values rfl
          exact ⟨value :: visited, .next here visits, List.prefix_rfl, fun _ _ => rfl⟩

/-! ## Selective visits -/

/-- A change of the selected leaves; the others stay. -/
def changeWhere (selected : Value → Bool) (change : Value → Attempt σ Value) (value : Value) :
    Attempt σ Value :=
  if selected value then change value else pure value

section Matched

variable {selected : Value → Bool} {change : Value → Attempt σ Value}

/-- A selective visit changes the leaf if it is selected, and raises the flag if it is. -/
theorem perform_visitMatched (value : Value) (state : Bool × σ) :
    (Tree.visitMatched selected change value).perform state =
      (((changeWhere selected change value).perform state.2).1, state.1 || selected value,
        ((changeWhere selected change value).perform state.2).2) := by
  unfold Tree.visitMatched changeWhere
  cases selected value with
  | true => rw [if_pos rfl, if_pos rfl, perform_bind, Bool.or_true]; rfl
  | false => rw [if_neg nofun, if_neg nofun, Bool.or_false]; rfl

/-- Beside the flag, a selective visit is a visit with the change of the selected leaves. -/
theorem alike_visitMatched (value : Value) :
    (Tree.visitMatched selected change value).Alike Eq (fun state reached => state.2 = reached)
      (changeWhere selected change value) := by
  rintro state _ rfl
  rw [perform_visitMatched]
  rcases (changeWhere selected change value).perform state.2 with ⟨_ | _, reached⟩
  · exact .error rfl
  · exact .ok rfl rfl

/-- Selective visits are calls of the change of the selected leaves, and raise the flag exactly if
one of the leaves they are called on is selected. -/
theorem Visits.of_visitMatched {start : Bool × σ} {visited : List Value}
    {ended : Result (List Value) × Bool × σ}
    (visits : Visits (Tree.visitMatched selected change) start visited ended) :
    Visits (changeWhere selected change) start.2 visited (ended.1, ended.2.2) ∧
      ended.2.1 = (start.1 || visited.any selected) := by
  induction visits with
  | done state => exact ⟨.done state.2, (Bool.or_false state.1).symm⟩
  | failed here =>
      rw [perform_visitMatched] at here
      obtain ⟨failed, rfl⟩ := Prod.mk.inj here
      exact ⟨.failed (Prod.ext failed rfl), by simp⟩
  | next here rest ih =>
      rw [perform_visitMatched] at here
      obtain ⟨changed, rfl⟩ := Prod.mk.inj here
      refine ⟨.next (Prod.ext changed rfl) ih.1, ?_⟩
      rw [ih.2, List.any_cons, Bool.or_assoc]

end Matched

/-! ## Bindings -/

namespace Binding

variable {change : Value → Attempt σ Value} {selected : Value → Bool}

/-- Changing every leaf is a traversal of the arguments, which are out meanwhile. -/
theorem perform_forEach (binding : Binding) (state : σ) :
    (forEach change).perform (binding, state) =
      match (Tree.mapItemsM change binding.arguments).perform state with
      | (.ok changed, reached) => (.ok (), ⟨binding.names, changed⟩, reached)
      | (.error cause, reached) => (.error cause, ⟨binding.names, []⟩, reached) := by
  simp only [forEach, setArguments, perform_bind, perform_get, perform_modify, perform_onRest]
  rcases (Tree.mapItemsM change binding.arguments).perform state with ⟨cause | changed, reached⟩ <;>
    rfl

/-- So is changing the selected leaves, with a flag that is not raised at first. -/
theorem perform_forEachMatched (binding : Binding) (state : σ) :
    (forEachMatched selected change).perform (binding, state) =
      match (Tree.mapItemsM (Tree.visitMatched selected change) binding.arguments).perform
        (false, state) with
      | (.ok changed, matched, reached) => (.ok matched, ⟨binding.names, changed⟩, reached)
      | (.error cause, _, reached) => (.error cause, ⟨binding.names, []⟩, reached) := by
  simp only [forEachMatched, setArguments, perform_bind, perform_get, perform_modify,
    perform_onRest, perform_withOwn]
  rcases (Tree.mapItemsM (Tree.visitMatched selected change) binding.arguments).perform
    (false, state) with ⟨cause | changed, matched, reached⟩ <;> rfl

/-- The names, the frames of the arguments, and the values as their leaves. -/
structure Refilled (binding : Binding) (values : List Value) (changed : Binding) : Prop where
  names : changed.names = binding.names
  arguments : Tree.RefilledItems binding.arguments values changed.arguments

/-- A binding was traversed: it was refilled with what the calls gave, or has lost its arguments and
the failure of the last call is passed on. -/
inductive Traversed (binding : Binding) (given : α) :
    Result (List Value) × σ → Result α × Binding × σ → Prop where
  | ok {values : List Value} {reached : σ} {changed : Binding}
      (refilled : binding.Refilled values changed) :
      Traversed binding given (.ok values, reached) (.ok given, changed, reached)
  | error {cause : Error} {reached : σ} :
      Traversed binding given (.error cause, reached) (.error cause, ⟨binding.names, []⟩, reached)

/-- Changing every leaf traverses a binding with the change. -/
theorem traversed_forEach (change : Value → Attempt σ Value) (binding : Binding) (state : σ) :
    binding.Traversed () ((binding.leaves.mapM change).perform state)
      ((forEach change).perform (binding, state)) := by
  have agree := Tree.alike_mapItemsM_leaves change binding.arguments state state rfl
  rw [perform_forEach, leaves]
  generalize (List.mapM change (Tree.leavesOfItems binding.arguments)).perform state = values at *
  generalize (Tree.mapItemsM change binding.arguments).perform state = performed at *
  cases agree with
  | ok refilled same => exact same ▸ .ok ⟨rfl, refilled⟩
  | error same => exact same ▸ .error

/-- Changing the selected leaves traverses it with the selective visit, and gives the flag. -/
theorem traversed_forEachMatched (selected : Value → Bool) (change : Value → Attempt σ Value)
    (binding : Binding) (state : σ) :
    let ended := (binding.leaves.mapM (Tree.visitMatched selected change)).perform (false, state)
    binding.Traversed ended.2.1 (ended.1, ended.2.2)
      ((forEachMatched selected change).perform (binding, state)) := by
  have agree := Tree.alike_mapItemsM_leaves (Tree.visitMatched selected change) binding.arguments
    (false, state) (false, state) rfl
  rw [perform_forEachMatched, leaves]
  generalize (List.mapM (Tree.visitMatched selected change)
    (Tree.leavesOfItems binding.arguments)).perform (false, state) = values at *
  generalize (Tree.mapItemsM (Tree.visitMatched selected change) binding.arguments).perform
    (false, state) = performed at *
  cases agree with
  | ok refilled same => exact same ▸ .ok ⟨rfl, refilled⟩
  | error same => exact same ▸ .error

end Binding

/-! ## From left to right -/

/-- The visit keeps a log of the leaves it is called on. -/
def logging (visit : Value → Attempt σ Value) (value : Value) : Attempt (List Value × σ) Value := do
  modify fun state => (state.1 ++ [value], state.2)
  onRest (visit value)

theorem Visits.of_logging {visit : Value → Attempt σ Value} {start : List Value × σ}
    {visited : List Value} {ended : Result (List Value) × List Value × σ}
    (visits : Visits (logging visit) start visited ended) :
    Visits visit start.2 visited (ended.1, ended.2.2) ∧ ended.2.1 = start.1 ++ visited := by
  have performed (value : Value) (state : List Value × σ) :
      (logging visit value).perform state =
        (((visit value).perform state.2).1, state.1 ++ [value],
          ((visit value).perform state.2).2) := rfl
  induction visits with
  | done state => exact ⟨.done state.2, (List.append_nil state.1).symm⟩
  | failed here =>
      rw [performed] at here
      obtain ⟨failed, rfl⟩ := Prod.mk.inj here
      exact ⟨.failed (Prod.ext failed rfl), rfl⟩
  | next here rest ih =>
      rw [performed] at here
      obtain ⟨changed, rfl⟩ := Prod.mk.inj here
      refine ⟨.next (Prod.ext changed rfl) ih.1, ?_⟩
      rw [ih.2, List.append_assoc, List.singleton_append]

/-- All traversals go through the leaves from left to right and keep the frame. -/
structure LeftToRight (selected : Value → Bool) (change : Value → Attempt σ Value) : Prop where
  mapM : ∀ (tree : Tree) (state : σ), ∃ visited ended,
    Sweeps change tree.leaves state visited ended ∧
      Agree tree.Refilled Eq ended ((tree.mapM change).perform state)
  /-- A log shows on which leaves the change was called. -/
  logged : ∀ (tree : Tree) (log : List Value) (state : σ), ∃ visited ended,
    Sweeps change tree.leaves state visited ended ∧
      Agree tree.Refilled (fun reached reached' => reached' = (log ++ visited, reached)) ended
        ((tree.mapM (logging change)).perform (log, state))
  /-- The flag is raised by a selected leaf on the way, and by nothing else is it changed. -/
  mapMatched : ∀ (tree : Tree) (flag : Bool) (state : σ), ∃ visited ended,
    Sweeps (changeWhere selected change) tree.leaves state visited ended ∧
      Agree tree.Refilled
        (fun reached reached' => reached' = (flag || visited.any selected, reached)) ended
        ((tree.mapMatched selected change).perform (flag, state))
  forEach : ∀ (binding : Binding) (state : σ), ∃ visited ended,
    Sweeps change binding.leaves state visited ended ∧
      binding.Traversed () ended ((Binding.forEach change).perform (binding, state))
  forEachMatched : ∀ (binding : Binding) (state : σ), ∃ visited ended,
    Sweeps (changeWhere selected change) binding.leaves state visited ended ∧
      binding.Traversed (visited.any selected) ended
        ((Binding.forEachMatched selected change).perform (binding, state))

/-- A state beside the one of the visit is left out of a sweep. -/
private theorem Sweeps.beside {τ : Type} {noted : τ} {visit : Value → Attempt σ Value}
    {visit' : Value → Attempt (τ × σ) Value} {leaves visited : List Value} {start : τ × σ}
    {values : Result (List Value) × τ × σ} {refilled : List Value → α → Prop}
    {performed : Result α × τ × σ} (sweeps : Sweeps visit' leaves start visited values)
    (visits : Visits visit start.2 visited (values.1, values.2.2) ∧ values.2.1 = noted)
    (agree : Agree refilled Eq values performed) :
    ∃ ended, Sweeps visit leaves start.2 visited ended ∧
      Agree refilled (fun reached reached' => reached' = (noted, reached)) ended performed := by
  refine ⟨_, ⟨visits.1, sweeps.initial, sweeps.all⟩, ?_⟩
  obtain ⟨-, rfl⟩ := visits
  cases agree with
  | ok same related => exact .ok same related.symm
  | error related => exact .error related.symm

/-- Whatever the visit does. -/
theorem traversals_go_left_to_right (selected : Value → Bool) (change : Value → Attempt σ Value) :
    LeftToRight selected change where
  mapM tree state := by
    obtain ⟨visited, sweeps⟩ := exists_sweeps change tree.leaves state
    exact ⟨visited, _, sweeps, Tree.alike_mapM_leaves change tree state state rfl⟩
  logged tree log state := by
    obtain ⟨visited, sweeps⟩ := exists_sweeps (logging change) tree.leaves (log, state)
    exact ⟨visited, sweeps.beside (Visits.of_logging sweeps.visits)
      (Tree.alike_mapM_leaves (logging change) tree _ _ rfl)⟩
  mapMatched tree flag state := by
    obtain ⟨visited, sweeps⟩ :=
      exists_sweeps (Tree.visitMatched selected change) tree.leaves (flag, state)
    exact ⟨visited, sweeps.beside (Visits.of_visitMatched sweeps.visits)
      (Tree.alike_mapM_leaves (Tree.visitMatched selected change) tree _ _ rfl)⟩
  forEach binding state := by
    obtain ⟨visited, sweeps⟩ := exists_sweeps change binding.leaves state
    exact ⟨visited, _, sweeps, binding.traversed_forEach change state⟩
  forEachMatched binding state := by
    obtain ⟨visited, sweeps⟩ :=
      exists_sweeps (Tree.visitMatched selected change) binding.leaves (false, state)
    obtain ⟨visits, raised⟩ := Visits.of_visitMatched sweeps.visits
    have traversed := binding.traversed_forEachMatched selected change state
    dsimp only at traversed
    rw [raised, Bool.false_or] at traversed
    exact ⟨visited, _, ⟨visits, sweeps.initial, sweeps.all⟩, traversed⟩

end Offload
