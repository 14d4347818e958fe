/-
# The input types of a scripted graph

An executor whose graph is captured from its definition hands the promoted view over, so the graph
is compiled for leaves in full precision, one for each leaf that the same call executes on. The
types agree exactly if nothing that is executed on has reduced precision. Captured by running the
model, a graph comes with the view before promotion instead, which has the types of the inputs.
-/

import Offload.Proofs.Executor.Record
import Offload.Proofs.Precision.Views
import Offload.Rehearsal.Platform

namespace Offload

open Attempt

namespace Value

/-- The element type of a leaf that is a tensor. -/
def dtype? (value : Value) : Option DType := value.tensor?.map Tensor.dtype

/-- A leaf was changed to one of the type that a function gives: a tensor has that type, and
anything else stays what it is. -/
structure Typed (type : DType → DType) (value changed : Value) : Prop where
  dtype : changed.dtype? = value.dtype?.map type
  other : value.tensor? = Option.none → changed = value

/-- A tensor in the place of another. -/
theorem typed_tensor {type : DType → DType} {tensor changed : Tensor}
    (same : changed.dtype = type tensor.dtype) : Typed type (.tensor tensor) (.tensor changed) :=
  ⟨congrArg some same, nofun⟩

/-- Leaves that are not tensors have any type that is asked for. -/
theorem typed_of_other {type : DType → DType} {value : Value}
    (other : value.tensor? = Option.none) : Typed type value value :=
  ⟨by simp [dtype?, other], fun _ => rfl⟩

theorem Typed.trans {first second : DType → DType} {value changed last : Value}
    (typed : Typed first value changed) (later : Typed second changed last) :
    Typed (second ∘ first) value last where
  dtype := by rw [later.dtype, typed.dtype, Option.map_map]
  other none := by rw [later.other (by rw [typed.other none]; exact none), typed.other none]

/-- Narrowing keeps the type of a leaf. -/
theorem Leads.typed {count : Nat} {value narrowed : Value} (leads : Leads count value narrowed) :
    Typed id value narrowed := by
  cases leads with
  | tensor leads => exact typed_tensor leads.dtype
  | other other => exact typed_of_other other

/-- Promotion gives a leaf full precision. -/
theorem Promotes.typed {value promoted : Value} (promotes : Promotes value promoted) :
    Typed DType.fullPrecision value promoted := by
  cases promotes with
  | half half converted =>
      refine typed_tensor ((Tensor.dtype_of_toDType converted).trans ?_)
      rw [DType.fullPrecision, if_pos half]
  | full full =>
      cases value with
      | tensor tensor => exact typed_tensor (DType.fullPrecision_of_not_half full).symm
      | _ => exact typed_of_other rfl

end Value

namespace Executor

variable {P : Platform}

/-- The promoted view has the leaves of the binding in full precision. -/
theorem Views.typed_promoted {options : Options} {binding : Binding} {views : Views}
    (made : Views.of options binding = .ok views) :
    List.Forall₂ (Value.Typed DType.fullPrecision) binding.leaves views.promoted.leaves := by
  have follow := Views.follow made
  refine forall₂_comp (fun value narrowed promoted leads promotes => ?_) follow.narrowed.leaves
    follow.promoted.leaves
  exact leads.typed.trans promotes.typed

/-- The types of the leaves in full precision are the types of the leaves exactly if no leaf has
reduced precision. -/
theorem types_eq_iff {executed handed : List Value}
    (typed : List.Forall₂ (Value.Typed DType.fullPrecision) executed handed) :
    handed.map Value.dtype? = executed.map Value.dtype? ↔
      ∀ value ∈ executed, value.isHalf = false := by
  induction typed with
  | nil => simp
  | @cons value promoted executed handed first others ih =>
      have one : promoted.dtype? = value.dtype? ↔ value.isHalf = false := by
        rw [first.dtype]
        cases value with
        | tensor tensor =>
            simp only [Value.dtype?, Value.tensor?, Option.map_some, Option.some.injEq,
              Value.isHalf]
            constructor
            · intro same
              rw [← same]
              exact tensor.dtype.isHalf_fullPrecision
            · exact DType.fullPrecision_of_not_half
        | _ => simp [Value.dtype?, Value.tensor?, Value.isHalf]
      simp only [List.map_cons, List.cons.injEq, List.forall_mem_cons, one, ih]

/-- What graphs were handed over with from one state to a later one. -/
def handedInputs (before reached : Running P.journaled) : List (List Value) :=
  (added before reached).filterMap Entry.handed?

/-- What was executed on from one state to a later one. -/
def executedInputs (before reached : Running P.journaled) : List (List Value) :=
  (added before reached).filterMap Entry.executed?

/-- Whatever was executed on in between has the types, in full precision, of what a graph was
handed over with. -/
def HandedInFull (before reached : Running P.journaled) : Prop :=
  ∀ inputs ∈ handedInputs before reached, ∀ values ∈ executedInputs before reached,
    List.Forall₂ (Value.Typed DType.fullPrecision) values inputs

section Scripting

variable {before reached : Running P.journaled} {outcome : Result Output}

/-- Every graph that a chain of deeds hands over without tracing comes with leaves in full
precision. -/
theorem Deeds.handed_typed {binding : Binding} (deeds : Deeds binding before reached)
    (journaled : before.executor.subject.IsJournaled)
    (scripting : before.executor.options.traceModel = false) :
    Journaled.Grows (fun entry => entry.executed? = none ∧ ∀ inputs, entry.handed? = some inputs →
      List.Forall₂ (Value.Typed DType.fullPrecision) binding.leaves inputs)
      before.session.world reached.session.world := by
  refine deeds.grows journaled fun {state entry} role warranted => ?_
  refine ⟨warranted.unexecuted, ?_⟩
  cases warranted with
  | errand _ errand => simp [Entry.unused_of_errand errand]
  | captures _ errand _ => simp [Entry.unused_of_errand errand]
  | owed _ owes =>
      obtain ⟨_, tagged, _, _, same⟩ := owes
      simp [Entry.handed?, same]
  | handed table views inputs tag succeeded demanded fresh drafted picks =>
      obtain rfl := picks (role.options ▸ scripting)
      intro inputs same
      obtain rfl := Option.some.inj same
      exact Views.typed_promoted (role.options ▸ views_of_draft drafted)
  | sent => exact nofun
  | fetched => exact nofun
  | read => exact nofun

/-- A call without tracing executes on leaves that have the types, in full precision, of those that
it hands a graph over with. -/
theorem Called.typed {arguments : CallArguments}
    (called : Called arguments before outcome reached)
    (journaled : before.executor.subject.IsJournaled)
    (scripting : before.executor.options.traceModel = false) :
    HandedInFull before reached := by
  have prepared {binding : Binding} {ready : Running P.journaled}
      (deeds : Deeds binding before ready) (rest : List Entry)
      (grown : reached.session.world.entries = ready.session.world.entries ++ rest)
      (executes : ∀ entry ∈ rest, entry.handed? = none ∧ entry.executed? = some binding.leaves) :
      HandedInFull before reached := by
    obtain ⟨-, more, grown', each⟩ := deeds.handed_typed journaled scripting
    rw [grown', List.append_assoc] at grown
    simp only [HandedInFull, handedInputs, executedInputs, added_of_grown grown,
      List.mem_filterMap, List.mem_append]
    rintro inputs ⟨entry, there | there, hands⟩ values ⟨entry', there' | there', same⟩
    · exact nomatch (each entry' there').2.1.symm.trans same
    · obtain rfl := Option.some.inj ((executes entry' there').2.symm.trans same)
      exact (each entry there).2.2 inputs hands
    all_goals exact nomatch (executes entry there).1.symm.trans hands
  have silent {binding : Binding} (deeds : Deeds binding before reached) :
      HandedInFull before reached :=
    prepared deeds [] (List.append_nil _).symm (by simp)
  have executing {binding : Binding} {ready : Running P.journaled} {succeeded : Bool}
      (deeds : Deeds binding before ready)
      (executes : Executes binding.leaves ready succeeded reached) :
      HandedInFull before reached := by
    obtain ⟨tagged, -, grown⟩ := executes.entries
    exact prepared deeds _ grown (by simp [Entry.handed?, Entry.executed?])
  cases called with
  | failed _ _ _ deeds => exact silent deeds
  | stopped _ _ deeds => exact silent deeds
  | refused _ _ _ _ deeds _ executes => exact executing deeds executes
  | executed _ _ _ _ deeds _ executes => exact executing deeds executes

end Scripting

/-- Without tracing, the inputs that a graph is handed over with correspond one by one, in order,
to those that the same call executes on: each tensor has the type of the tensor in its place in
full precision, and everything else is the same. So the types agree exactly if the call executes on
no tensor of reduced precision. -/
theorem scripted_types_agree_iff_full (executor : Executor P) (session : Session P.journaled)
    (arguments : CallArguments) (scripting : executor.options.traceModel = false)
    (inputs values : List Value) :
    let before : Running P.journaled := ⟨executor.journaled, session⟩
    let reached := ((call (P := P.journaled) arguments).perform before).2
    inputs ∈ handedInputs before reached → values ∈ executedInputs before reached →
      List.Forall₂ (Value.Typed DType.fullPrecision) values inputs ∧
        (inputs.map Value.dtype? = values.map Value.dtype? ↔
          ∀ value ∈ values, value.isHalf = false) := by
  intro before reached hands executes
  have journaled : before.executor.subject.IsJournaled := ⟨executor.subject, rfl⟩
  have typed := (called_call arguments journaled).typed journaled scripting inputs hands values
    executes
  exact ⟨typed, types_eq_iff typed⟩

section Rehearsed

/-- A rehearsed wrapper of a model with one input, captured from its definition. -/
def scripted : Executor (Rehearsal.platform true) :=
  ⟨.own ⟨⟨[⟨"x", none⟩]⟩, [], false⟩,
    { Options.initial.put "anchor_mode" (.int AnchorMode.all.code) with traceModel := false },
    false, ⟨0⟩, none, none, 0, false⟩

/-- One number of a type. -/
def singleOf (dtype : DType) : Value := .tensor (.dense (.made 0) dtype [0] ⟨[1]⟩)

/-- The wrapper before its first call. -/
def unscripted : Running (Rehearsal.platform true).journaled :=
  ⟨scripted.journaled, .start (.start Rehearsal.World.initial)⟩

/-- What the first call of the wrapper on a number of a type comes to. -/
def calledOn (dtype : DType) : Result Output × Running (Rehearsal.platform true).journaled :=
  (call ⟨[.leaf (singleOf dtype)], []⟩).perform unscripted

/-- A graph is compiled for a number of the type that is executed on, which is no type of reduced
precision. -/
theorem scripted_for_full_type : ∃ inputs ∈ handedInputs unscripted (calledOn .f32).2,
    ∃ values ∈ executedInputs unscripted (calledOn .f32).2,
      inputs.map Value.dtype? = values.map Value.dtype? ∧
        List.Forall₂ (Value.Typed DType.fullPrecision) values inputs ∧
        ∀ value ∈ values, value.isHalf = false := by
  have hands : (handedInputs unscripted (calledOn .f32).2).map (List.map Value.dtype?) =
      [[some .f32]] := by decide +kernel
  have executes : (executedInputs unscripted (calledOn .f32).2).map (List.map Value.dtype?) =
      [[some .f32]] := by decide +kernel
  obtain ⟨inputs, handed, input⟩ := List.mem_map.mp (hands ▸ List.mem_singleton_self _)
  obtain ⟨values, executed, value⟩ := List.mem_map.mp (executes ▸ List.mem_singleton_self _)
  have same : inputs.map Value.dtype? = values.map Value.dtype? := input.trans value.symm
  unfold calledOn unscripted at handed executed ⊢
  have typed := scripted_types_agree_iff_full scripted _ _ rfl inputs values handed executed
  exact ⟨inputs, handed, values, executed, same, typed.1, typed.2.mp same⟩

/-- A graph is compiled for a number of full precision although a number of reduced precision is
executed on. -/
theorem scripted_against_half_type :
    scripted.options.traceModel = false ∧ (calledOn .f16).1.isOk = true ∧
      (handedInputs unscripted (calledOn .f16).2).map (List.map Value.dtype?) = [[some .f32]] ∧
      (executedInputs unscripted (calledOn .f16).2).map (List.map Value.dtype?) =
        [[some .f16]] := by
  decide +kernel

end Rehearsed

end Executor

end Offload
