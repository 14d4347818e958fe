/-
# What tracing works on

An executor that captures its subject by running it has three uses for the binding of its first
call. The subject is run on the promoted view, the graph is handed over with the narrowed view, and
the executable is executed on the binding itself, each of them once. The views have the containers
of the binding, and every leaf follows from the leaf in its place, whether or not anything had
reduced precision.
-/

import Offload.Proofs.Precision.Contract

namespace Offload

open Attempt

namespace Entry

/-- The arguments that a model was run on to capture it. -/
def traced? (entry : Entry) : Option (List Tree) :=
  match entry.operation with
  | .trace inputs => some inputs
  | _ => none

/-- The entry shows nothing that was captured with, handed over or executed on. -/
structure Silent (entry : Entry) : Prop where
  traced : entry.traced? = none
  handed : entry.handed? = none
  executed : entry.executed? = none

theorem silent_of_errand {entry : Entry} (errand : entry.operation.isErrand false = true) :
    entry.Silent := by
  obtain ⟨operation, succeeded, demanded⟩ := entry
  cases operation <;> first | exact ⟨rfl, rfl, rfl⟩ | exact nomatch errand

theorem silent_of_copyToHost {entry : Entry} {tag : Tag}
    (same : entry.operation = .copyToHost tag) :
    entry.Silent := by
  obtain ⟨operation, succeeded, demanded⟩ := entry
  obtain rfl := same
  exact ⟨rfl, rfl, rfl⟩

end Entry

namespace Executor

variable {P : Platform} {before middle reached : Running P.journaled}

/-- What models were run on to capture them from one state to a later one. -/
def tracedInputs (before reached : Running P.journaled) : List (List Tree) :=
  (added before reached).filterMap Entry.traced?

/-- What the entries that were added from one state to a later one record. -/
def Records (traced : List (List Tree)) (handed executed : List (List Value))
    (before reached : Running P.journaled) : Prop :=
  ∃ more, reached.session.world.entries = before.session.world.entries ++ more ∧
    more.filterMap Entry.traced? = traced ∧ more.filterMap Entry.handed? = handed ∧
    more.filterMap Entry.executed? = executed

section Records

variable {traced traced' : List (List Tree)} {handed handed' executed executed' : List (List Value)}

theorem Records.trans (recorded : Records traced handed executed before middle)
    (later : Records traced' handed' executed' middle reached) :
    Records (traced ++ traced') (handed ++ handed') (executed ++ executed') before reached := by
  obtain ⟨more, grown, rfl, rfl, rfl⟩ := recorded
  obtain ⟨more', grown', rfl, rfl, rfl⟩ := later
  refine ⟨more ++ more', by rw [grown', grown, List.append_assoc], ?_⟩
  simp only [List.filterMap_append, and_self]

/-- What was recorded is what was run on, handed over and executed on. -/
theorem Records.inputs (recorded : Records traced handed executed before reached) :
    tracedInputs before reached = traced ∧ handedInputs before reached = handed ∧
      executedInputs before reached = executed := by
  obtain ⟨more, grown, rfl, rfl, rfl⟩ := recorded
  simp only [tracedInputs, handedInputs, executedInputs, added_of_grown grown, and_self]

/-- Silent entries record nothing. -/
theorem records_of_silent {more : List Entry}
    (grown : reached.session.world.entries = before.session.world.entries ++ more)
    (silent : ∀ entry ∈ more, entry.Silent) : Records [] [] [] before reached :=
  ⟨more, grown, List.filterMap_eq_nil_iff.mpr fun entry there => (silent entry there).traced,
    List.filterMap_eq_nil_iff.mpr fun entry there => (silent entry there).handed,
    List.filterMap_eq_nil_iff.mpr fun entry there => (silent entry there).executed⟩

end Records

/-- What prepares without a capture records nothing. -/
theorem Prepares.records (prepares : Prepares false before reached)
    (journaled : before.executor.subject.IsJournaled) : Records [] [] [] before reached := by
  obtain ⟨more, grown, each⟩ := (prepares.errands journaled).ran.entries
  refine records_of_silent grown fun entry there => ?_
  rcases (each entry there).2 with errand | ⟨_, tagged, -, -, same⟩
  · exact Entry.silent_of_errand errand
  · exact Entry.silent_of_copyToHost same

/-- Once there is an executable, a chain of deeds records nothing. -/
theorem Deeds.records {binding : Binding} {tagged : Tagged P.Executable}
    (deeds : Deeds binding before reached) (journaled : before.executor.subject.IsJournaled)
    (there : Executor.executable? before = some tagged) : Records [] [] [] before reached := by
  have silent {state : Running P.journaled} {entry : Entry}
      (there : Executor.executable? state = some tagged)
      (warranted : Warranted binding state entry) :
      entry.Silent := by
    have used (fresh : Executor.executable? state = none) : False := nomatch fresh.symm.trans there
    cases warranted with
    | errand _ errand => exact Entry.silent_of_errand errand
    | captures _ _ fresh => exact (used fresh).elim
    | owed _ owes =>
        obtain ⟨_, _, -, -, same⟩ := owes
        exact Entry.silent_of_copyToHost same
    | handed _ _ _ _ _ _ fresh => exact (used fresh).elim
    | sent => exact ⟨rfl, rfl, rfl⟩
    | fetched => exact ⟨rfl, rfl, rfl⟩
    | read => exact ⟨rfl, rfl, rfl⟩
  obtain ⟨-, more, grown, each⟩ := deeds.grows_compiled journaled there silent
  exact records_of_silent grown fun entry added => (each entry added).2

/-- An execution records its inputs. -/
theorem Executes.records {inputs : List Value} {succeeded : Bool}
    (executes : Executes inputs before succeeded reached) :
    Records [] [] [inputs] before reached := by
  obtain ⟨tagged, -, grown⟩ := executes.entries
  exact ⟨_, grown, rfl, rfl, rfl⟩

/-- A compilation that captures the subject by running it records the promoted view and the
narrowed one, each once. -/
theorem ends_compileBinding_records {running : Running P.journaled} (binding : Binding)
    (journaled : running.executor.subject.IsJournaled)
    (tracing : running.executor.options.traceModel = true) :
    (compileBinding (P := P.journaled) binding).Ends running
      (fun _ reached => ∃ views, Views.of running.executor.options binding = .ok views ∧
        Records [views.promoted.arguments] [views.narrowed.leaves] [] running reached)
      fun _ _ => True := by
  refine (ends_compileBinding_handed patient_preparing preparing_le binding running
    (fun prepares => by rw [show _ = _ from prepares.executor])
    fun views _ => abides_frontend _ views).mono ?_ fun _ _ _ => trivial
  rintro _ _ ⟨table, views, before, tagged, handed, drafted, -,
    ⟨start, graph, captured, began, performed, kept⟩, hands, rfl⟩
  rw [tracing] at performed hands
  have made := views_of_draft drafted
  have began : Prepares false running start := began
  have kept : Prepares false captured before := kept
  -- the capture asks its questions and then writes its entry
  obtain ⟨middle, succeeded, asks, ended⟩ :=
    capture_prepares (.trace views.promoted.arguments) (P.trace views.promoted.arguments) start
  have written : captured = _ := (congrArg Prod.snd performed).symm.trans ended
  have journaled_start := began.subject.journaled journaled
  have journaled_captured : captured.executor.subject.IsJournaled := by
    rw [written]
    exact asks.subject.journaled journaled_start
  have traces : Records [views.promoted.arguments] [] [] middle captured := by
    rw [written]
    exact ⟨_, rfl, rfl, rfl, rfl⟩
  cases hands with
  | scripted _ scripting => exact nomatch scripting
  | traced graph' inputs _ picked ended =>
      have submits := submits_compiling rfl (fun holds => holds.compileTraced _ _) ended
      have same : inputs.leaves = views.narrowed.leaves := by
        rw [picked]
        split
        · rfl
        · next full =>
            exact congrArg Tree.leavesOfItems
              ((Views.follow made).same (Bool.eq_false_iff.mpr full))
      have compiles : Records [] [views.narrowed.leaves] [] before (install tagged handed) := by
        obtain ⟨world, -, rfl⟩ := submits
        exact ⟨_, rfl, rfl, by rw [← same]; rfl, rfl⟩
      exact ⟨views, made, (began.records journaled).trans ((asks.records journaled_start).trans
        (traces.trans ((kept.records journaled_captured).trans compiles)))⟩

/-- Without an executable, coming to an execution takes the views of the binding first. -/
theorem Readies.records {arguments : CallArguments} {binding : Binding}
    {ready : Running P.journaled}
    (readies : Readies arguments binding before ready)
    (journaled : before.executor.subject.IsJournaled)
    (tracing : before.executor.options.traceModel = true) (fresh : executable? before = none) :
    ∃ views, Views.of before.executor.options binding = .ok views ∧
      Records [views.promoted.arguments] [views.narrowed.leaves] [] before ready := by
  obtain ⟨densified, compiled, bound, ensured, deeds⟩ := readies
  obtain ⟨notices, warned, told⟩ := tells_heeding densified before
  have heeded : Records [] [] [] before (heeding densified before) :=
    records_of_silent (by rw [told]; exact (List.append_nil _).symm) (by simp)
  have options : (heeding densified before).executor.options = before.executor.options := by
    rw [told]
  have journaled : (heeding densified before).executor.subject.IsJournaled := by
    rw [told]
    exact journaled
  have fresh : executable? (heeding densified before) = none := by
    rw [told]
    exact fresh
  have ends : (ensureCompiled (P := P.journaled) binding).Ends (heeding densified before)
      (fun _ reached => ∃ views,
        Views.of (heeding densified before).executor.options binding = .ok views ∧
          Records [views.promoted.arguments] [views.narrowed.leaves] [] (heeding densified before)
            reached) fun _ _ => True := by
    rw [ensureCompiled, ends_bind, ends_get, isCompiled_eq, fresh]
    exact ends_compileBinding_records binding journaled (options ▸ tracing)
  obtain ⟨views, made, compiles⟩ := ends.ok ensured
  obtain ⟨way, has⟩ := (ends_ensureCompiled_deeds binding journaled).ok ensured
  obtain ⟨tagged, there⟩ := Option.isSome_iff_exists.mp has
  have follows := deeds.records (way.role.journaled journaled) there
  exact ⟨views, options ▸ made, heeded.trans (compiles.trans follows)⟩

/-- A call that comes to an execution took the views of its binding first. -/
theorem Called.records {arguments : CallArguments} {outcome : Result Output}
    (called : Called arguments before outcome reached)
    (journaled : before.executor.subject.IsJournaled)
    (tracing : before.executor.options.traceModel = true) (fresh : executable? before = none)
    (executes : executedInputs before reached ≠ []) :
    ∃ densified binding views,
      Binding.ofCall (before.executor.subject.signature before.session) arguments =
        .ok (densified, binding) ∧
      Views.of before.executor.options binding = .ok views ∧
      Records [views.promoted.arguments] [views.narrowed.leaves] [binding.leaves] before
        reached := by
  have silent {binding : Binding} (deeds : Deeds binding before reached) : False := by
    obtain ⟨-, more, grown, each⟩ := deeds.unexecuted journaled
    rw [executedInputs, added_of_grown grown] at executes
    exact executes (List.filterMap_eq_nil_iff.mpr fun entry there => (each entry there).2)
  have executing {binding : Binding} {ready : Running P.journaled} {succeeded : Bool}
      (readies : Readies arguments binding before ready)
      (executes : Executes binding.leaves ready succeeded reached) :
      ∃ densified binding views,
        Binding.ofCall (before.executor.subject.signature before.session) arguments =
          .ok (densified, binding) ∧
        Views.of before.executor.options binding = .ok views ∧
        Records [views.promoted.arguments] [views.narrowed.leaves] [binding.leaves] before
          reached := by
    obtain ⟨views, made, prepared⟩ := readies.records journaled tracing fresh
    obtain ⟨densified, _, bound, -, -⟩ := readies
    exact ⟨densified, binding, views, bound, made, prepared.trans executes.records⟩
  cases called with
  | failed _ _ _ deeds => exact (silent deeds).elim
  | stopped _ _ deeds => exact (silent deeds).elim
  | refused _ _ _ _ _ _ executes _ _ readies => exact executing readies executes
  | executed _ _ _ _ _ _ executes _ readies => exact executing readies executes

/-- A first call that captures the subject by running it and comes to an execution has three uses
for one binding, each once. It executes on the leaves of the binding. It hands the graph over with
as many leaves: the others are the same, and each tensor has the leading part of the tensor in its
place, of the same type. And it runs the subject on containers like those of the binding, with the
compiled leaves in full precision. -/
theorem traces_compiles_executes_one_binding (executor : Executor P) (session : Session P.journaled)
    (arguments : CallArguments) (tracing : executor.options.traceModel = true) :
    let before : Running P.journaled := ⟨executor.journaled, session⟩
    let reached := ((call (P := P.journaled) arguments).perform before).2
    let count := (Batch.ofOptions executor.options).product
    executable? before = none → executedInputs before reached ≠ [] →
      ∃ (densified : Bool) (binding : Binding) (compiled traced : List Tree),
        Binding.ofCall (executor.subject.journaled.signature session) arguments =
          .ok (densified, binding) ∧
        executedInputs before reached = [binding.leaves] ∧
        handedInputs before reached = [Tree.leavesOfItems compiled] ∧
        tracedInputs before reached = [traced] ∧
        Tree.AlignedItems (Value.Leads count) binding.arguments compiled ∧
        List.Forall₂ (Value.Leads count) binding.leaves (Tree.leavesOfItems compiled) ∧
        Tree.AlignedItems Value.Promotes compiled traced ∧
        ∀ value ∈ Tree.leavesOfItems traced, value.isHalf = false := by
  intro before reached count fresh executes
  have journaled : before.executor.subject.IsJournaled := ⟨executor.subject, rfl⟩
  obtain ⟨densified, binding, views, bound, made, recorded⟩ :=
    (called_call arguments journaled).records journaled tracing fresh executes
  obtain ⟨traced, handed, executed⟩ := recorded.inputs
  have follow := Views.follow made
  have full : List.Forall₂ (fun promoted value => promoted.isHalf = false ∧
      Value.Promotes value promoted) views.promoted.leaves views.narrowed.leaves :=
    .flip (follow.promoted.leaves.imp fun _ _ promotes => ⟨promotes.isHalf, promotes⟩)
  exact ⟨densified, binding, views.narrowed.arguments, views.promoted.arguments, bound, executed,
    handed, traced, follow.narrowed, follow.narrowed.leaves, follow.promoted,
    ((List.forall₂_and_left _ _).mp full).1⟩

section Rehearsed

/-- A rehearsed wrapper of a model with two inputs, which is captured by running it, and of which
two iterations are done at once. -/
def tracer : Executor (Rehearsal.platform true) :=
  ⟨.own ⟨⟨[⟨"x", none⟩, ⟨"y", none⟩]⟩, [], false⟩,
    (Options.initial.put "anchor_mode" (.int AnchorMode.all.code)).put "device_iterations" (.int 2),
    false, ⟨0⟩, none, none, 0, false⟩

/-- The wrapper before its first call. -/
def untraced : Running (Rehearsal.platform true).journaled :=
  ⟨tracer.journaled, .start (.start Rehearsal.World.initial)⟩

/-- Two rows of one number of a type. -/
def rowsOf (dtype : DType) : Value := .tensor (.dense (.made 0) dtype [0, 0] ⟨[2, 1]⟩)

/-- Nested arguments with a tensor of reduced precision, one of full precision and a number. -/
def nested : CallArguments :=
  ⟨[.sequence [.leaf (rowsOf .f16), .leaf (.int 1)]],
    [("y", .mapping [("mask", .leaf (rowsOf .f32))])]⟩

/-- The first call of the wrapper on them. -/
def tracedCall : Result Output × Running (Rehearsal.platform true).journaled :=
  (call nested).perform untraced

/-- The shape and the type of a leaf that is a tensor. -/
def outline (value : Value) : Option (List Nat × DType) :=
  value.tensor?.map fun tensor => (tensor.shape.dims, tensor.dtype)

/-- The call executes on two rows, compiles for the first one and runs the model on it in full
precision. -/
theorem nested_call_has_three_views :
    executable? untraced = none ∧ executedInputs untraced tracedCall.2 ≠ [] ∧
      ∃ (binding : Binding) (compiled traced : List Tree),
        executedInputs untraced tracedCall.2 = [binding.leaves] ∧
        binding.leaves.map outline = [some ([2, 1], .f16), none, some ([2, 1], .f32)] ∧
        handedInputs untraced tracedCall.2 = [Tree.leavesOfItems compiled] ∧
        (Tree.leavesOfItems compiled).map outline =
          [some ([1, 1], .f16), none, some ([1, 1], .f32)] ∧
        tracedInputs untraced tracedCall.2 = [traced] ∧
        (Tree.leavesOfItems traced).map outline =
          [some ([1, 1], .f32), none, some ([1, 1], .f32)] ∧
        List.Forall₂ (Value.Leads 2) binding.leaves (Tree.leavesOfItems compiled) ∧
        Tree.AlignedItems Value.Promotes compiled traced := by
  have executes : (executedInputs untraced tracedCall.2).map (List.map outline) =
      [[some ([2, 1], .f16), none, some ([2, 1], .f32)]] := by decide +kernel
  have hands : (handedInputs untraced tracedCall.2).map (List.map outline) =
      [[some ([1, 1], .f16), none, some ([1, 1], .f32)]] := by decide +kernel
  have traces : (tracedInputs untraced tracedCall.2).map (List.map outline ∘ Tree.leavesOfItems) =
      [[some ([1, 1], .f32), none, some ([1, 1], .f32)]] := by decide +kernel
  have some_execution : executedInputs untraced tracedCall.2 ≠ [] := fun none => by
    rw [none] at executes
    exact nomatch executes
  refine ⟨rfl, some_execution, ?_⟩
  obtain ⟨_, binding, compiled, traced, -, executed, handed, ran, -, leads, promotes, -⟩ :=
    traces_compiles_executes_one_binding tracer (.start (.start Rehearsal.World.initial)) nested rfl
      rfl some_execution
  have executed : executedInputs untraced tracedCall.2 = [binding.leaves] := executed
  have handed : handedInputs untraced tracedCall.2 = [Tree.leavesOfItems compiled] := handed
  have ran : tracedInputs untraced tracedCall.2 = [traced] := ran
  rw [executed] at executes
  rw [handed] at hands
  rw [ran] at traces
  exact ⟨binding, compiled, traced, executed, List.singleton_inj.mp executes, handed,
    List.singleton_inj.mp hands, ran, List.singleton_inj.mp traces, leads, promotes⟩

end Rehearsed

end Executor

end Offload
