/-
# Updates of the optimizer

No update of the optimizer of a wrapper is lost or repeated. The invariant relates three descriptors:
the one that the wrapper takes for the one on its device, the one it has still to push, and the ones
that its account tells of. A chain of deeds changes neither of the first two, and its only entry
that matters is the compilation; an execution that succeeds settles what was requested. So the
invariant is kept by every task, and in a workshop by every move.
-/

import Offload.Proofs.Workshop.Account
import Offload.Proofs.Workshop.Sound
import Offload.Rehearsal.Platform

namespace Offload

open Attempt Session Executor

namespace Entry

theorem brings_of_silent {entry : Entry} (fails : entry.compiles = false)
    (executes : entry.executes = false) : entry.brings? = none := by
  obtain ⟨operation, succeeded, demanded⟩ := entry
  unfold brings?
  split
  · next succeeds =>
      cases operation with
      | compile tag request => exact nomatch fails.symm.trans succeeds
      | execute tag inputs optimizer => exact nomatch executes
      | _ => rfl
  · rfl

end Entry

theorem Account.allows_of_silent {account : Account} {entry : Entry}
    (executes : entry.executes = false) : account.Allows (.asked entry) := by
  obtain ⟨operation, succeeded, demanded⟩ := entry
  cases operation with
  | execute tag inputs optimizer => exact nomatch executes
  | _ => trivial

/-- No value of an optimizer that the task sets is not a number. -/
def Task.Numeric : Task → Prop
  | .setOptimizer optimizer => ∀ descriptor, Descriptor.ofHost optimizer = .ok descriptor →
      descriptor.Numeric
  | _ => True

namespace Executor

open Descriptor

variable {P : Platform} {binding : Binding} {before reached : Running P.journaled}
  {account : Account}

/-- What was requested of the executor is still to be settled, or is settled. -/
inductive Asks (executor : Executor P.journaled) (requested : Option Descriptor) : Prop where
  | pending (descriptor : Descriptor) (pending : executor.requested = some descriptor)
      (same : requested = some descriptor)
  | settled (nothing : executor.requested = none)
      (same : optionEqual executor.optimizer requested = true)

/-- The optimizers of the executor are those of its account, by value. -/
structure Tallies (running : Running P.journaled) (account : Account) : Prop where
  compiled : (executable? running).isSome = true → account.device.isSome = true
  device : ∀ onDevice ∈ account.device,
    optionEqual running.executor.optimizer onDevice = true
  requested : Asks running.executor account.requested
  optimizer_numeric : AllNumeric running.executor.optimizer
  requested_numeric : AllNumeric running.executor.requested

theorem Asks.keep {executor kept : Executor P.journaled} {request : Option Descriptor}
    (asks : Asks executor request) (optimizer : kept.optimizer = executor.optimizer)
    (requested : kept.requested = executor.requested) : Asks kept request := by
  cases asks with
  | pending descriptor pending same =>
      exact .pending descriptor (requested.trans pending) same
  | settled nothing same => exact .settled (requested.trans nothing) (optimizer ▸ same)

/-- Who has the same optimizers, and no executable that was not there, tallies too. -/
theorem Tallies.keep (tallies : Tallies before account)
    (optimizer : reached.executor.optimizer = before.executor.optimizer)
    (requested : reached.executor.requested = before.executor.requested)
    (compiled : (executable? reached).isSome = true → (executable? before).isSome = true) :
    Tallies reached account where
  compiled there := tallies.compiled (compiled there)
  device := optimizer ▸ tallies.device
  requested := tallies.requested.keep optimizer requested
  optimizer_numeric := optimizer ▸ tallies.optimizer_numeric
  requested_numeric := requested ▸ tallies.requested_numeric

/-- An executor that went on left marks that its account allows, and tallies with it again. -/
structure Proceeds (account : Account) (marks : List Mark) (reached : Running P.journaled) :
    Prop where
  allows : account.AllowsAll marks
  tallies : Tallies reached (account.run marks)

theorem Proceeds.then {marks later : List Mark} {ready : Running P.journaled}
    (proceeds : Proceeds account marks ready)
    (next : Proceeds (account.run marks) later reached) :
    Proceeds account (marks ++ later) reached where
  allows := (Account.allowsAll_append account marks later).mpr ⟨proceeds.allows, next.allows⟩
  tallies := Account.run_append account marks later ▸ next.tallies

/-- No deed touches the optimizers of the executor. -/
theorem Does.optimizers (does : Does binding before reached) :
    reached.executor.optimizer = before.executor.optimizer ∧
      reached.executor.requested = before.executor.requested := by
  cases does with
  | tells _ tells =>
      obtain ⟨notices, warned, rfl⟩ := tells
      exact ⟨rfl, rfl⟩
  | prepares _ fresh prepares =>
      have same : reached.executor = _ := prepares.executor
      exact ⟨by rw [same], by rw [same]⟩
  | _ => exact ⟨rfl, rfl⟩

/-- A deed leaves marks that the account allows: a compilation brings the optimizer of the executor
to the device, anything else brings nothing. -/
theorem Does.proceeds (does : Does binding before reached)
    (journaled : before.executor.subject.IsJournaled) (tallies : Tallies before account) :
    ∃ more, reached.session.world.entries = before.session.world.entries ++ more ∧
      Proceeds account (more.map .asked) reached := by
  obtain ⟨optimizer, requested⟩ := does.optimizers
  rcases does.effect journaled with ⟨stays, -, more, grown, each⟩ |
    ⟨table, views, inputs, tagged, world, fresh, drafted, picks, tag, same⟩
  · refine ⟨more, grown, ?_⟩
    have silent : ∀ entry ∈ more, entry.brings? = none ∧ account.Allows (.asked entry) := by
      intro entry there
      obtain ⟨-, warranted, fails⟩ := each entry there
      exact ⟨Entry.brings_of_silent fails warranted.executes,
        Account.allows_of_silent warranted.executes⟩
    obtain ⟨allows, kept⟩ := Account.silent silent
    refine ⟨allows, kept.symm ▸ tallies.keep optimizer requested fun there => ?_⟩
    rwa [Executor.executable?, stays.executable, does.role.device] at there
  · have brought : Tallies reached ⟨some before.executor.optimizer, account.requested⟩ :=
      { compiled := fun _ => rfl
        device := fun onDevice there => by
          obtain rfl := Option.some.inj there
          rw [optimizer]
          exact optionEqual_self tallies.optimizer_numeric
        requested := tallies.requested.keep optimizer requested
        optimizer_numeric := optimizer ▸ tallies.optimizer_numeric
        requested_numeric := requested ▸ tallies.requested_numeric }
    have grown : reached.session.world.entries = before.session.world.entries ++
        [⟨.compile tagged.tag (requestOf before.executor table inputs), true,
          before.session.world.demanding⟩] := by
      rw [same]
      rfl
    exact ⟨_, grown, ⟨trivial, trivial⟩, brought⟩

/-- What a chain of deeds leaves, the account allows. -/
theorem Deeds.proceeds (deeds : Deeds binding before reached)
    (journaled : before.executor.subject.IsJournaled) (tallies : Tallies before account) :
    ∃ more, reached.session.world.entries = before.session.world.entries ++ more ∧
      Proceeds account (more.map .asked) reached := by
  induction deeds with
  | refl => exact ⟨[], (List.append_nil _).symm, trivial, tallies⟩
  | tail earlier does ih =>
      obtain ⟨more, grown, proceeds⟩ := ih
      obtain ⟨more', grown', next⟩ :=
        does.proceeds ((Deeds.role earlier).journaled journaled) proceeds.tallies
      refine ⟨more ++ more', by rw [grown', grown, List.append_assoc], ?_⟩
      rw [List.map_append]
      exact proceeds.then next

/-- What is to be pushed is what was requested, if it differs from what is on the device. -/
theorem Tallies.pushes (tallies : Tallies before account)
    (compiled : (executable? before).isSome = true) : account.Pushes (toPush before.executor) := by
  obtain ⟨onDevice, there⟩ := Option.isSome_iff_exists.mp (tallies.compiled compiled)
  have same : optionEqual before.executor.optimizer onDevice = true :=
    tallies.device onDevice there
  refine ⟨onDevice, there, fun descriptor => ?_⟩
  have differs : optionEqual before.executor.optimizer (some descriptor) =
      optionEqual onDevice (some descriptor) := by
    rw [Bool.eq_iff_iff]
    exact ⟨optionEqual_trans (optionEqual_symm same), optionEqual_trans same⟩
  cases tallies.requested with
  | pending request pending asked =>
      rw [toPush, pending, asked, Option.filter_eq_some_iff, Bool.not_eq_true', ← differs]
  | settled nothing settled =>
      rw [toPush, nothing]
      refine iff_of_false nofun fun ⟨asked, unlike⟩ => ?_
      rw [asked, differs, unlike] at settled
      exact nomatch settled

/-- Once what is to be pushed is pushed, what was requested is on the device. -/
theorem Tallies.settles (tallies : Tallies before account)
    (compiled : (executable? before).isSome = true) {settled : Option Descriptor}
    (same : settled = before.executor.requested.orElse fun _ => before.executor.optimizer) :
    AllNumeric settled ∧ optionEqual settled account.requested = true ∧
      ∃ onDevice, ((toPush before.executor).map some).or account.device = some onDevice ∧
        optionEqual settled onDevice = true := by
  obtain ⟨onDevice, there⟩ := Option.isSome_iff_exists.mp (tallies.compiled compiled)
  have known : optionEqual before.executor.optimizer onDevice = true :=
    tallies.device onDevice there
  cases tallies.requested with
  | settled nothing settles =>
      obtain rfl : settled = before.executor.optimizer := by rw [same, nothing]; rfl
      refine ⟨tallies.optimizer_numeric, settles, onDevice, ?_, known⟩
      rw [toPush, nothing, there]
      rfl
  | pending request pending asked =>
      obtain rfl : settled = some request := by rw [same, pending]; rfl
      have numeric : AllNumeric (some request) := pending ▸ tallies.requested_numeric
      have self := optionEqual_self numeric
      refine ⟨numeric, asked ▸ self, ?_⟩
      rw [toPush, pending, there]
      by_cases already : optionEqual before.executor.optimizer (some request) = true
      · refine ⟨onDevice, ?_, optionEqual_trans (optionEqual_symm already) known⟩
        rw [Option.filter_some, if_neg (by simp [already])]
        rfl
      · refine ⟨some request, ?_, self⟩
        rw [Option.filter_some, if_pos (by simp [already])]
        rfl

/-- A failed execution leaves everything to be pushed again, and a successful one settles it. -/
theorem Executes.proceeds {inputs : List Value} {succeeded : Bool}
    (executes : Executes inputs before succeeded reached) (tallies : Tallies before account) :
    ∃ more, reached.session.world.entries = before.session.world.entries ++ more ∧
      Proceeds account (more.map .asked) reached ∧
      (succeeded = true → (account.run (more.map .asked)).Settled) := by
  obtain ⟨tagged, there, grown⟩ := executes.entries
  have compiled : (executable? before).isSome = true := by rw [there]; rfl
  have pushes := tallies.pushes compiled
  refine ⟨_, grown, ?_⟩
  cases executes with
  | fails _ world _ =>
      exact ⟨⟨⟨pushes, trivial⟩, tallies.keep rfl rfl id⟩, nofun⟩
  | succeeds _ world _ =>
      obtain ⟨numeric, requested, onDevice, brought, same⟩ := tallies.settles compiled rfl
      refine ⟨⟨⟨pushes, trivial⟩, ?_⟩, fun _ => ?_⟩
      · exact
          { compiled := fun _ => Option.isSome_iff_exists.mpr ⟨onDevice, brought⟩
            device := fun other there => by
              obtain rfl := Option.some.inj (brought.symm.trans there)
              exact same
            requested := .settled rfl requested
            optimizer_numeric := numeric
            requested_numeric := nofun }
      · exact ⟨onDevice, brought, optionEqual_trans (optionEqual_symm same) requested⟩

theorem Proceeds.without {marks : List Mark} (proceeds : Proceeds account marks reached) :
    Proceeds account (marks ++ []) reached := by
  rwa [List.append_nil]

/-- What a call leaves, the account allows; when it comes back executed, everything is settled. -/
theorem Called.proceeds {outcome : Result Output} {arguments : CallArguments}
    (called : Called arguments before outcome reached)
    (journaled : before.executor.subject.IsJournaled)
    (tallies : Tallies before account) :
    ∃ more, reached.session.world.entries = before.session.world.entries ++ more ∧
      Proceeds account (more.map .asked ++ (Task.call arguments).marks (outcome.map some))
        reached := by
  have executing {binding : Binding} {ready : Running P.journaled} {succeeded : Bool}
      (deeds : Deeds binding before ready)
      (executes : Executes binding.leaves ready succeeded reached) :
      ∃ more, reached.session.world.entries = before.session.world.entries ++ more ∧
        Proceeds account (more.map .asked) reached ∧
        (succeeded = true → (account.run (more.map .asked)).Settled) := by
    obtain ⟨more, grown, proceeds⟩ := deeds.proceeds journaled tallies
    obtain ⟨more', grown', next, settles⟩ := executes.proceeds proceeds.tallies
    refine ⟨more ++ more', by rw [grown', grown, List.append_assoc], ?_, fun succeeds => ?_⟩
    · rw [List.map_append]
      exact proceeds.then next
    · rw [List.map_append, Account.run_append]
      exact settles succeeds
  cases called with
  | failed _ _ _ deeds =>
      obtain ⟨more, grown, proceeds⟩ := deeds.proceeds journaled tallies
      exact ⟨more, grown, proceeds.without⟩
  | refused _ _ _ _ deeds _ executes =>
      obtain ⟨more, grown, proceeds, -⟩ := executing deeds executes
      exact ⟨more, grown, proceeds.without⟩
  | stopped _ _ deeds =>
      obtain ⟨more, grown, proceeds⟩ := deeds.proceeds journaled tallies
      exact ⟨more, grown, proceeds.without⟩
  | executed _ _ results _ deeds _ executes =>
      obtain ⟨more, grown, proceeds, settles⟩ := executing deeds executes
      have marked : (Task.call arguments).marks ((Except.ok (Output.ofResults results)).map some) =
          [.executed] := if_pos (isExecuted_ofResults results)
      refine ⟨more, grown, ?_⟩
      rw [marked]
      exact proceeds.then ⟨⟨settles rfl, trivial⟩, proceeds.tallies⟩

/-- What a task leaves, the account allows. -/
theorem Worked.proceeds {task : Task} {outcome : Result (Option Output)}
    (worked : Worked before task outcome reached) (numeric : task.Numeric)
    (journaled : before.executor.subject.IsJournaled) (tallies : Tallies before account) :
    ∃ more, reached.session.world.entries = before.session.world.entries ++ more ∧
      Proceeds account (more.map .asked ++ task.marks outcome) reached := by
  cases worked with
  | called arguments outcome _ called => exact called.proceeds journaled tallies
  | accepted optimizer descriptor described =>
      have marked : (Task.setOptimizer optimizer).marks (.ok none) = [.requested descriptor] := by
        rw [Task.marks, described]
      refine ⟨[], (List.append_nil _).symm, ?_⟩
      rw [marked]
      refine ⟨⟨trivial, trivial⟩, ?_⟩
      exact
        { compiled := tallies.compiled
          device := tallies.device
          requested := .pending descriptor rfl rfl
          optimizer_numeric := tallies.optimizer_numeric
          requested_numeric := fun other same => by
            obtain rfl := Option.some.inj same
            exact numeric descriptor described }
  | rejected optimizer cause => exact ⟨[], (List.append_nil _).symm, trivial, tallies⟩
  | marked =>
      refine ⟨[], (List.append_nil _).symm, trivial, tallies.keep rfl rfl fun compiled => ?_⟩
      simpa [executable?] using compiled
  | plain _ _ binding _ kind deeds =>
      obtain ⟨more, grown, proceeds⟩ := deeds.proceeds journaled tallies
      have unmarked : task.marks outcome = [] := by
        cases task <;> first | rfl | cases kind
      exact ⟨more, grown, unmarked ▸ proceeds.without⟩
  | copied _ _ binding ready kind deeds =>
      have tallies : Tallies (before.demand true) account := tallies.keep rfl rfl id
      obtain ⟨more, grown, proceeds⟩ := deeds.proceeds journaled tallies
      have unmarked : task.marks outcome = [] := by
        cases task <;> first | rfl | cases kind
      refine ⟨more, grown, ?_⟩
      rw [unmarked, List.append_nil]
      exact ⟨proceeds.allows, proceeds.tallies.keep rfl rfl id⟩

end Executor

namespace Event

/-- The account that a wrapper was made with, by its number. -/
def opened (history : List Event) (number : Nat) : Account :=
  .opened (optimizers history)[number]?.join

end Event

namespace Workshop

variable {P : Platform} {workshop reached : Workshop P} {number : Nat}
  {wrapper : Executor P.journaled}

/-- No value of an optimizer that the move brings in is not a number. -/
def Move.Numeric : Move P → Prop
  | .wrap _ _ _ optimizer => Descriptor.AllNumeric optimizer
  | .work _ task => task.Numeric
  | _ => True

/-- Every wrapper of the workshop did what its account allows, and tallies with it. -/
structure Accounted (workshop : Workshop P) : Prop where
  sound : Sound workshop
  made : (Event.optimizers workshop.history).length = workshop.wrappers.length
  proceeds : ∀ (number : Nat) wrapper, workshop.wrappers[number]? = some wrapper →
    Proceeds (Event.opened workshop.history number) (Event.allMarks number workshop.history)
      ⟨wrapper, workshop.session⟩

/-- A wrapper has an executable exactly if one was compiled for it. -/
theorem Sound.compiled_iff (sound : Sound workshop)
    (there : workshop.wrappers[number]? = some wrapper) :
    (executable? ⟨wrapper, workshop.session⟩).isSome = true ↔
      ∃ tag, ∃ creation ∈ Event.log workshop.history, creation.Creates number tag := by
  have seated : (workshop.wrappers.map (seat workshop.session))[number]? =
      some ⟨decide (Connects wrapper),
        (executable? ⟨wrapper, workshop.session⟩).map Tagged.tag⟩ := Orderly.seated there
  have registers := sound.orderly.trace.registers
  constructor
  · intro has
    obtain ⟨tagged, compiled⟩ := Option.isSome_iff_exists.mp has
    rw [compiled] at seated
    exact ⟨tagged.tag, registers.creates_of_seat seated⟩
  · rintro ⟨tag, creation, created, creates⟩
    obtain ⟨connects, same⟩ := registers.seat_of_creates created creates
    obtain ⟨-, same⟩ : _ ∧ (executable? ⟨wrapper, workshop.session⟩).map Tagged.tag = some tag := by
      simpa using seated.symm.trans same
    rw [← Option.isSome_map, same]
    rfl

/-- The account of a wrapper was opened when it was made. -/
theorem Accounted.opened (accounted : Accounted workshop)
    (there : workshop.wrappers[number]? = some wrapper) (event : Event) :
    Event.opened (workshop.history ++ [event]) number = Event.opened workshop.history number := by
  have inside : number < (Event.optimizers workshop.history).length :=
    accounted.made ▸ (List.getElem?_eq_some_iff.mp there).1
  rw [Event.opened, Event.opened, Event.optimizers_append, List.getElem?_append_left inside]

/-- What happened elsewhere leaves a wrapper as its account says. -/
theorem Accounted.elsewhere (accounted : Accounted workshop) (sound : Sound reached)
    (there : workshop.wrappers[number]? = some wrapper)
    (there' : reached.wrappers[number]? = some wrapper) {event : Event}
    (history : reached.history = workshop.history ++ [event])
    (apart : ∀ logged ∈ event.logged, logged.number ≠ some number)
    (unmarked : event.marks number = []) :
    Proceeds (Event.opened reached.history number) (Event.allMarks number reached.history)
      ⟨wrapper, reached.session⟩ := by
  have proceeds := accounted.proceeds number wrapper there
  rw [history, accounted.opened there, Event.allMarks_append, unmarked, List.append_nil]
  refine ⟨proceeds.allows, proceeds.tallies.keep rfl rfl fun has => ?_⟩
  obtain ⟨tag, creation, created, creates⟩ := (sound.compiled_iff there').mp has
  rw [history, Event.log_append, List.mem_append] at created
  refine (accounted.sound.compiled_iff there).mpr ⟨tag, creation, created.resolve_right ?_, creates⟩
  intro late
  obtain ⟨request, demanded, rfl⟩ := creates
  exact apart _ late rfl

/-- Nothing is known of a wrapper that was not made yet. -/
theorem Sound.unmarked (sound : Sound workshop) :
    Event.allMarks workshop.wrappers.length workshop.history = [] := by
  refine List.flatMap_eq_nil_iff.mpr fun event there => ?_
  have proper := sound.proper event there
  cases event with
  | worked owner task outcome entries =>
      obtain ⟨wrapper, owns, -⟩ := proper
      rw [Event.marks, if_neg (Nat.ne_of_lt (List.getElem?_eq_some_iff.mp owns).1)]
  | _ => rfl

theorem accounted_start (world : P.World) : Accounted (start world) where
  sound := sound_start world
  made := rfl
  proceeds _ _ there := nomatch there

theorem Accounted.wrap (accounted : Accounted workshop) (subject : Subject P) (options : Options)
    (training : Bool) (optimizer : Option Descriptor) (numeric : Descriptor.AllNumeric optimizer) :
    Accounted (workshop.wrap subject options training optimizer) := by
  have sound := accounted.sound.wrap subject options training optimizer
  have elsewhere {number : Nat} {wrapper : Executor P.journaled}
      (there : workshop.wrappers[number]? = some wrapper) := accounted.elsewhere sound there
  rw [Workshop.wrap, perform_make] at sound elsewhere ⊢
  refine ⟨sound, ?_, fun number wrapper there => ?_⟩
  · simp [Event.optimizers_append, Event.optimizer?, accounted.made]
  · rcases getElem?_concat_eq_some_iff.mp there with old | ⟨rfl, rfl⟩
    · exact elsewhere old there rfl (by rintro _ ⟨⟩) rfl
    · have opened : Event.opened (workshop.history ++ [.made optimizer])
          workshop.wrappers.length = .opened optimizer := by
        rw [Event.opened, Event.optimizers_append, ← accounted.made, Event.optimizer?,
          Option.toList_some, List.getElem?_concat_length]
        rfl
      rw [opened, Event.allMarks_append, accounted.sound.unmarked]
      refine ⟨trivial, ?_⟩
      exact
        { compiled := fun has => by
            rw [executable?, recruit_fresh] at has
            cases has
          device := by rintro _ ⟨⟩
          requested := by
            cases optimizer with
            | none => exact .settled rfl rfl
            | some descriptor => exact .pending descriptor rfl rfl
          optimizer_numeric := numeric
          requested_numeric := numeric }

/-- What a task makes of a workshop. -/
theorem work_eq {task : Task} {more : List Entry} (there : workshop.wrappers[number]? = some wrapper)
    (grown : ((runTask task).perform ⟨wrapper, workshop.session⟩).2.session.world.entries =
      workshop.session.world.entries ++ more) :
    workshop.work number task =
      { session := ((runTask task).perform ⟨wrapper, workshop.session⟩).2.session
        wrappers := workshop.wrappers.set number
          ((runTask task).perform ⟨wrapper, workshop.session⟩).2.executor
        history := workshop.history ++ [.worked number task
          ((runTask task).perform ⟨wrapper, workshop.session⟩).1 more] } := by
  have entries : entriesSince workshop.session
      ((runTask task).perform ⟨wrapper, workshop.session⟩).2.session = more := by
    rw [entriesSince, grown, List.drop_left]
  rw [Workshop.work, there, ← entries]

theorem Accounted.work (accounted : Accounted workshop) (number : Nat) (task : Task)
    (numeric : task.Numeric) : Accounted (workshop.work number task) := by
  have sound := accounted.sound.work number task
  have elsewhere {other : Nat} {wrapper : Executor P.journaled}
      (there : workshop.wrappers[other]? = some wrapper) := accounted.elsewhere sound there
  cases there : workshop.wrappers[number]? with
  | none =>
      rw [Workshop.work, there]
      exact accounted
  | some wrapper =>
      have journaled := accounted.sound.orderly.journaled wrapper (List.mem_of_getElem? there)
      have before := accounted.proceeds number wrapper there
      obtain ⟨more, grown, proceeds⟩ :=
        (worked_runTask task journaled).proceeds numeric journaled before.tallies
      rw [work_eq there grown] at sound elsewhere ⊢
      refine ⟨sound, ?_, fun other wrapper' there' => ?_⟩
      · simp [Event.optimizers_append, Event.optimizer?, accounted.made]
      · rw [List.getElem?_set] at there'
        split at there'
        · next same =>
            subst same
            split at there'
            · obtain rfl := Option.some.inj there'
              rw [accounted.opened there, Event.allMarks_append, Event.marks, if_pos rfl]
              exact before.then proceeds
            · exact nomatch there'
        · next apart =>
            refine elsewhere there' (by rw [List.getElem?_set_ne apart, there']) rfl ?_ ?_
            · intro logged late
              obtain ⟨entry, -, rfl⟩ := List.mem_map.mp late
              exact fun same => apart (Option.some.inj same)
            · rw [Event.marks, if_neg apart]

theorem Accounted.read {α : Type} {step : Attempt (Session P.journaled) α}
    (accounted : Accounted workshop)
    (abides : step.Abides (errandsVerdict false (P.Spares .notCompiled))) :
    Accounted (workshop.read step) where
  sound := accounted.sound.read abides
  made := by simp [Workshop.read, Event.optimizers_append, Event.optimizer?, accounted.made]
  proceeds number wrapper there := by
    refine accounted.elsewhere (accounted.sound.read abides) there there rfl ?_ rfl
    intro logged late
    obtain ⟨entry, -, rfl⟩ := List.mem_map.mp late
    simp

/-- Every move keeps a workshop accounted for. -/
theorem Accounted.step (accounted : Accounted workshop) (move : Move P) (numeric : move.Numeric) :
    Accounted (workshop.step move) := by
  cases move with
  | wrap subject options training optimizer =>
      exact accounted.wrap subject options training optimizer numeric
  | work number task => exact accounted.work number task numeric
  | parameters handle => exact accounted.read (abides_parameters id handle)
  | forward handle inputs => exact accounted.read (abides_forward id handle inputs)
  | sync handle => exact accounted.read (abides_resolve id handle)
  | elapse world models =>
      exact ⟨accounted.sound.elapse world models, accounted.made, fun number wrapper there =>
        have proceeds := accounted.proceeds number wrapper there
        ⟨proceeds.allows, proceeds.tallies.keep rfl rfl id⟩⟩

/-- Every run keeps a workshop accounted for. -/
theorem Accounted.run (accounted : Accounted workshop) (moves : List (Move P))
    (numeric : ∀ move ∈ moves, move.Numeric) : Accounted (workshop.run moves) := by
  induction moves generalizing workshop with
  | nil => exact accounted
  | cons move later ih =>
      exact ih (accounted.step move (numeric move (.head _))) fun other there =>
        numeric other (.tail _ there)

/-- How a wrapper keeps the optimizer of its device, by its number, as the history of its workshop
tells it. -/
structure Upkeep (history : List Event) (number : Nat) (compiled : Bool)
    (optimizer : Option Descriptor) : Prop where
  /-- What a compiled wrapper takes for the optimizer on the device is on the device. -/
  device : compiled = true → ∃ onDevice,
    ((Event.opened history number).run (Event.allMarks number history)).device = some onDevice ∧
      Descriptor.optionEqual optimizer onDevice = true
  /-- Every execution carries what was requested exactly if it is not on the device. -/
  pushes : ∀ earlier tag inputs carried succeeded demanded,
    earlier ++ [.asked ⟨.execute tag inputs carried, succeeded, demanded⟩] <+:
        Event.allMarks number history →
      ((Event.opened history number).run earlier).Pushes carried
  /-- When a call came back executed, what was requested is on the device. -/
  settled : ∀ earlier, earlier ++ [.executed] <+: Event.allMarks number history →
    ((Event.opened history number).run earlier).Settled

/-- In every run of a workshop, no update of the optimizer of a wrapper is lost or repeated. -/
theorem optimizer_upkeep (world : P.World) (moves : List (Move P))
    (numeric : ∀ move ∈ moves, move.Numeric) (number : Nat) (wrapper : Executor P.journaled)
    (there : ((start world).run moves).wrappers[number]? = some wrapper) :
    Upkeep ((start world).run moves).history number
      (isCompiled ⟨wrapper, ((start world).run moves).session⟩) wrapper.optimizer := by
  obtain ⟨allows, tallies⟩ :=
    ((accounted_start world).run moves numeric).proceeds number wrapper there
  exact
    { device := fun compiled => by
        obtain ⟨onDevice, known⟩ := Option.isSome_iff_exists.mp (tallies.compiled compiled)
        exact ⟨onDevice, known, tallies.device onDevice known⟩
      pushes := fun earlier tag inputs carried succeeded demanded prior => allows.of_prefix prior
      settled := fun earlier prior => allows.of_prefix prior }

/-- A wrapper is compiled without an optimizer and executes; then one is requested, the next
execution fails, and two more succeed. -/
def retuned : List (Move (Rehearsal.platform true)) :=
  [.wrap (.own ⟨.empty, [], true⟩)
      (Options.initial.put "anchor_mode" (.int AnchorMode.all.code)) true none,
    .work 0 (.call ⟨[], []⟩), .work 0 (.setOptimizer (.sgd HostOptimizer.defaultLearningRate)),
    .elapse (Rehearsal.World.initial.setFailing "execute" true) .empty,
    .work 0 (.call ⟨[], []⟩), .elapse Rehearsal.World.initial .empty,
    .work 0 (.call ⟨[], []⟩), .work 0 (.call ⟨[], []⟩)]

/-- Of the four executions only the third one brings the requested optimizer to the device. -/
theorem retuned_upkeep :
    ((∀ move ∈ retuned, move.Numeric) ∧
      ∃ wrapper, ((start Rehearsal.World.initial).run retuned).wrappers[0]? = some wrapper ∧
        Upkeep ((start Rehearsal.World.initial).run retuned).history 0
          (Executor.isCompiled ⟨wrapper, ((start Rehearsal.World.initial).run retuned).session⟩)
          wrapper.optimizer) ∧
      ((Event.log ((start Rehearsal.World.initial).run retuned).history).filter
        fun logged => logged.entry.executes).map
          (fun logged => (logged.entry.succeeded, logged.entry.brings?.isSome)) =
        [(true, false), (false, false), (true, true), (true, false)] := by
  have described : (Descriptor.ofHost (.sgd HostOptimizer.defaultLearningRate)).toOption.all
      (fun descriptor => decide descriptor.Numeric) = true := by
    decide +kernel
  have numeric : ∀ move ∈ retuned, move.Numeric := by
    simp only [retuned, List.forall_mem_cons, Move.Numeric, Task.Numeric]
    refine ⟨nofun, trivial, fun descriptor same => ?_, trivial, trivial, trivial, trivial, trivial,
      nofun⟩
    rw [same] at described
    exact of_decide_eq_true described
  have made : ((start Rehearsal.World.initial).run retuned).wrappers[0]?.isSome = true := by
    decide +kernel
  obtain ⟨wrapper, there⟩ := Option.isSome_iff_exists.mp made
  have upkeep := optimizer_upkeep Rehearsal.World.initial retuned numeric 0 wrapper
  exact ⟨⟨numeric, wrapper, there, upkeep there⟩, by decide +kernel⟩

end Workshop

end Offload
