/-
# Sound workshops

A workshop is sound if it is orderly and every call in its history was conducted as it should: it
executed at most once, gave an executed output back exactly if that execution succeeded, and did not
fail for a missing executable, provided that the platform and the loss leave it to the library to say
so. Every move of an application keeps a workshop sound.
-/

import Offload.Proofs.Workshop.Orderly

namespace Offload

open Attempt Session Executor

variable {P : Platform}

/-- What a call may have done, by its outcome and its entries. Where nothing outside the library
claims that an executable is missing, it was civil. -/
structure Conducted (civil connects : Prop) (outcome : Result (Option Output))
    (entries : List Entry) : Prop where
  compiled : civil → outcome ≠ .error .notCompiled
  once : entries.countP Entry.executes ≤ 1
  executed : (∃ output, outcome = .ok (some output) ∧ output.isExecuted = true) ↔
    ∃ entry ∈ entries, entry.executes = true ∧ entry.succeeded = true
  connects : ¬ connects → ∀ output, outcome = .ok output → output = some .notExecuted

/-- An entry without inputs of an execution is none. -/
theorem Entry.executes_eq_false {entry : Entry} (none : entry.executed? = none) :
    entry.executes = false := by
  obtain ⟨operation, succeeded, demanded⟩ := entry
  cases operation <;> first | rfl | exact nomatch none

namespace Executor

variable {binding : Binding} {before reached : Running P.journaled}

theorem Warranted.executes {entry : Entry} (warranted : Warranted binding before entry) :
    entry.executes = false :=
  Entry.executes_eq_false warranted.unexecuted

/-- A chain of deeds adds no execution. -/
theorem Deeds.executes (deeds : Deeds binding before reached)
    (journaled : before.executor.subject.IsJournaled) {more : List Entry}
    (grown : reached.session.world.entries = before.session.world.entries ++ more) :
    ∀ entry ∈ more, entry.executes = false := by
  obtain ⟨-, more', grown', each⟩ := deeds.grows journaled fun _ => Warranted.executes
  obtain rfl := List.append_cancel_left (grown.symm.trans grown')
  exact fun entry there => (each entry there).2

/-- So none of its executions succeeds. -/
theorem Deeds.not_executed (deeds : Deeds binding before reached)
    (journaled : before.executor.subject.IsJournaled) {more : List Entry}
    (grown : reached.session.world.entries = before.session.world.entries ++ more) :
    more.countP Entry.executes = 0 ∧
      ¬ ∃ entry ∈ more, entry.executes = true ∧ entry.succeeded = true := by
  have none := deeds.executes journaled grown
  constructor
  · exact List.countP_eq_zero.mpr fun entry there => by simp [none entry there]
  · rintro ⟨entry, there, executes, -⟩
    exact nomatch (none entry there).symm.trans executes

/-- An execution after a chain of deeds is the only one. -/
theorem Executes.after_deeds {ready : Running P.journaled} {inputs : List Value} {succeeded : Bool}
    (executes : Executes inputs ready succeeded reached) (deeds : Deeds binding before ready)
    (journaled : before.executor.subject.IsJournaled) {more : List Entry}
    (grown : reached.session.world.entries = before.session.world.entries ++ more) :
    more.countP Entry.executes = 1 ∧
      ((∃ entry ∈ more, entry.executes = true ∧ entry.succeeded = true) ↔ succeeded = true) := by
  have grows : Journaled.Grows (fun _ => True) before.session.world ready.session.world :=
    deeds.grows journaled fun _ _ => trivial
  obtain ⟨-, earlier, grown', -⟩ := grows
  obtain ⟨tagged, -, last⟩ := executes.entries
  obtain ⟨none, -⟩ := deeds.not_executed journaled grown'
  rw [grown', List.append_assoc] at last
  obtain rfl := List.append_cancel_left (grown.symm.trans last)
  refine ⟨by rw [List.countP_append, none]; rfl, ?_⟩
  constructor
  · rintro ⟨entry, there, executed, succeeds⟩
    rcases List.mem_append.mp there with there | there
    · exact nomatch (deeds.executes journaled grown' entry there).symm.trans executed
    · obtain rfl := List.mem_singleton.mp there
      exact succeeds
  · intro succeeds
    exact ⟨_, List.mem_append_right _ (List.mem_singleton_self _), rfl, succeeds⟩

/-- What the device gave back counts as executed. -/
theorem isExecuted_ofResults (results : List Tree) : (Output.ofResults results).isExecuted = true := by
  unfold Output.ofResults
  split <;> rfl

/-- Nothing outside the library claims to the executor that an executable is missing. -/
def LeftAlone (executor : Executor P.journaled) : Prop :=
  P.Spares .notCompiled ∧ executor.subject.Spares .notCompiled

theorem SameRole.leftAlone {before reached : Executor P.journaled} (role : SameRole before reached) :
    LeftAlone reached ↔ LeftAlone before := by
  unfold LeftAlone Subject.Spares
  rw [role.loss]

/-- Every call is conducted as it should. -/
theorem Called.conducted {arguments : CallArguments} {outcome : Result Output}
    (called : Called arguments before outcome reached)
    (journaled : before.executor.subject.IsJournaled) (supplied : before.session.Supplied)
    {more : List Entry}
    (grown : reached.session.world.entries = before.session.world.entries ++ more) :
    Conducted (LeftAlone before.executor) (Connects before.executor) (outcome.map some) more := by
  have apart {cause : Error} (spares : Civil before → cause ≠ .notCompiled)
      (alone : LeftAlone before.executor) :
      (Except.error cause : Result Output).map some ≠ .error .notCompiled := fun same =>
    spares ⟨alone.1, alone.2, journaled, supplied⟩ (Except.error.inj same)
  cases called with
  | failed binding cause _ deeds spares =>
      obtain ⟨once, none⟩ := deeds.not_executed journaled grown
      exact ⟨apart spares, Nat.le_of_lt (Nat.lt_one_iff.mpr once), iff_of_false nofun none,
        fun _ _ => nofun⟩
  | refused binding ready cause _ deeds connects executes spares =>
      obtain ⟨once, executed⟩ := executes.after_deeds deeds journaled grown
      exact ⟨apart spares, Nat.le_of_eq once, iff_of_false nofun (by rw [executed]; exact nofun),
        fun _ _ => nofun⟩
  | stopped binding _ deeds never =>
      obtain ⟨once, none⟩ := deeds.not_executed journaled grown
      refine ⟨fun _ => nofun, Nat.le_of_lt (Nat.lt_one_iff.mpr once), iff_of_false ?_ none,
        fun _ output same => ?_⟩
      · rintro ⟨output, same, executed⟩
        obtain rfl := Option.some.inj (Except.ok.inj same)
        exact nomatch executed
      · exact (Except.ok.inj same).symm
  | executed binding ready results _ deeds connects executes =>
      obtain ⟨once, executed⟩ := executes.after_deeds deeds journaled grown
      refine ⟨fun _ => nofun, Nat.le_of_eq once, iff_of_true ?_ (executed.mpr rfl), fun never =>
        absurd connects never⟩
      exact ⟨_, rfl, isExecuted_ofResults results⟩

end Executor

/-- An event of one of the wrappers: demanded entries come of copies by hand, and a call was
conducted as it should. -/
def Event.Proper (wrappers : List (Executor P.journaled)) : Event → Prop
  | .worked number task outcome entries => ∃ wrapper, wrappers[number]? = some wrapper ∧
      (∀ entry ∈ entries, entry.demanded = task.isCopy) ∧
      ∀ arguments, task = .call arguments →
        Conducted (LeftAlone wrapper) (Connects wrapper) outcome entries
  | _ => True

/-- The order is kept whether or not entries are written as demanded. -/
theorem Orderly.demand {session : Session P.journaled} {wrappers : List (Executor P.journaled)}
    {log : List Logged} (orderly : Orderly session wrappers log) (demanding : Bool) :
    Orderly (session.demand demanding) wrappers log :=
  ⟨orderly.journal, orderly.trace, orderly.stale, orderly.housed, orderly.apart,
    orderly.journaled⟩

section Task

variable {wrappers : List (Executor P.journaled)} {number : Nat} {log : List Logged}
  {before reached : Running P.journaled} {task : Task} {outcome : Result (Option Output)}

/-- What a task leaves: entries of its kind, in order, and a call that was conducted as it
should. -/
structure Finished (wrappers : List (Executor P.journaled)) (number : Nat) (log : List Logged)
    (before : Running P.journaled) (task : Task) (outcome : Result (Option Output))
    (reached : Running P.journaled) (more : List Entry) : Prop where
  undemanding : reached.session.world.demanding = false
  grown : reached.session.world.entries = before.session.world.entries ++ more
  demanded : ∀ entry ∈ more, entry.demanded = task.isCopy
  role : SameRole before.executor reached.executor
  orderly : Orderly reached.session (wrappers.set number reached.executor)
    (log ++ more.map (Logged.mk (some number)))
  conducted : ∀ arguments, task = .call arguments →
    Conducted (LeftAlone before.executor) (Connects before.executor) outcome more

/-- Every call advances the log in order, whatever it comes to. -/
theorem Executor.Called.advances {arguments : CallArguments} {result : Result Output}
    (called : Called arguments before result reached)
    (there : wrappers[number]? = some before.executor)
    (orderly : Orderly before.session wrappers log) :
    ∃ more, Advances wrappers number log before reached more := by
  have executing {binding : Binding} {ready : Running P.journaled} {succeeded : Bool}
      (deeds : Deeds binding before ready) (connects : Connects before.executor)
      (executes : Executes binding.leaves ready succeeded reached) :
      ∃ more, Advances wrappers number log before reached more := by
    obtain ⟨more, advances⟩ := advances_deeds there orderly deeds
    have again : (wrappers.set number ready.executor)[number]? = some ready.executor :=
      List.getElem?_set_self (List.getElem?_eq_some_iff.mp there).1
    obtain ⟨tagged, later⟩ := advances_executes again advances.orderly
      (deeds.role.connects.mpr connects) executes
    exact ⟨_, advances.then later⟩
  cases called with
  | failed _ _ _ deeds => exact advances_deeds there orderly deeds
  | refused _ _ _ _ deeds connects executes => exact executing deeds connects executes
  | stopped _ _ deeds => exact advances_deeds there orderly deeds
  | executed _ _ _ _ deeds connects executes => exact executing deeds connects executes

/-- Every task is finished in order. -/
theorem Executor.Worked.finished (worked : Worked before task outcome reached)
    (undemanding : before.session.world.demanding = false)
    (there : wrappers[number]? = some before.executor)
    (orderly : Orderly before.session wrappers log) :
    ∃ more, Finished wrappers number log before task outcome reached more := by
  have journaled := orderly.journaled before.executor (List.mem_of_getElem? there)
  have finish {more : List Entry} (advances : Advances wrappers number log before reached more)
      (kind : task.isCopy = false)
      (conducted : ∀ arguments, task = .call arguments →
        Conducted (LeftAlone before.executor) (Connects before.executor) outcome more) :
      Finished wrappers number log before task outcome reached more :=
    { undemanding := advances.demanding.trans undemanding
      grown := advances.grown
      demanded := fun entry mem => by rw [advances.demanded entry mem, undemanding, kind]
      role := advances.role
      orderly := advances.orderly
      conducted := conducted }
  cases worked with
  | called arguments outcome _ called =>
      obtain ⟨more, advances⟩ := called.advances there orderly
      exact ⟨more, finish advances rfl fun _ _ => called.conducted journaled orderly.supplied
        advances.grown⟩
  | accepted optimizer descriptor described =>
      refine ⟨[], finish ?_ rfl fun _ => nofun⟩
      have stay := Advances.stay there orderly
      have kept : Orderly before.session (wrappers.set number
          { before.executor with requested := some descriptor }) log :=
        orderly.replace there ⟨rfl, rfl, rfl, rfl, id⟩
      exact ⟨rfl, stay.grown, stay.demanded, ⟨rfl, rfl, rfl, rfl, id⟩, by simpa using kept⟩
  | rejected optimizer cause => exact ⟨[], finish (.stay there orderly) rfl fun _ => nofun⟩
  | marked =>
      refine ⟨[], finish ⟨rfl, (List.append_nil _).symm, by simp, ⟨rfl, rfl, rfl, rfl, id⟩, ?_⟩ rfl
        fun _ => nofun⟩
      refine Orderly.replace ?_ there ⟨rfl, rfl, rfl, rfl, id⟩
      exact orderly.grows rfl (fun id => by rw [device_update]; split <;> simp [*])
        (fun id ahead => .inl (by rw [device_update] at ahead; split at ahead <;> simp_all))
        (List.append_nil _).symm (by simp)
  | plain _ _ binding _ kind deeds =>
      obtain ⟨more, advances⟩ := advances_deeds there orderly deeds
      refine ⟨more, finish advances ?_ fun _ same => ?_⟩
      · cases task <;> first | rfl | exact nomatch kind
      · rw [same] at kind
        exact nomatch kind
  | copied _ _ binding ready kind deeds =>
      have there : wrappers[number]? = some (before.demand true).executor := there
      obtain ⟨more, advances⟩ := advances_deeds there (orderly.demand true) deeds
      exact
        ⟨more,
          { undemanding := rfl
            grown := advances.grown
            demanded := fun entry mem => (advances.demanded entry mem).trans kind.symm
            role := advances.role
            orderly := advances.orderly.demand false
            conducted := fun _ same => by
              rw [same] at kind
              exact nomatch kind }⟩

end Task

section Proper

variable {wrappers : List (Executor P.journaled)} {event : Event}

theorem Event.Proper.replace {number : Nat} {wrapper wrapper' : Executor P.journaled}
    (proper : event.Proper wrappers) (there : wrappers[number]? = some wrapper)
    (role : SameRole wrapper wrapper') : event.Proper (wrappers.set number wrapper') := by
  cases event with
  | worked owner task outcome entries =>
      obtain ⟨owning, owns, demanded, conducted⟩ := proper
      by_cases same : number = owner
      · subst same
        obtain rfl := Option.some.inj (there.symm.trans owns)
        refine ⟨wrapper', List.getElem?_set_self (List.getElem?_eq_some_iff.mp there).1, demanded,
          fun arguments same => ?_⟩
        have conducted := conducted arguments same
        rwa [← propext role.connects, ← propext role.leftAlone] at conducted
      · exact ⟨owning, (List.getElem?_set_ne same).trans owns, demanded, conducted⟩
  | made optimizer => trivial
  | read entries => trivial

theorem Event.Proper.append (proper : event.Proper wrappers) (wrapper : Executor P.journaled) :
    event.Proper (wrappers ++ [wrapper]) := by
  cases event with
  | worked owner task outcome entries =>
      obtain ⟨owning, owns, rest⟩ := proper
      refine ⟨owning, ?_, rest⟩
      rw [List.getElem?_append_left (List.getElem?_eq_some_iff.mp owns).1, owns]
  | made optimizer => trivial
  | read entries => trivial

end Proper

theorem Event.log_append (history : List Event) (event : Event) :
    log (history ++ [event]) = log history ++ event.logged := by
  simp [log]

/-- A new wrapper joins an orderly session. -/
theorem Orderly.housing {session : Session P.journaled} {wrappers : List (Executor P.journaled)}
    {log : List Logged} (orderly : Orderly session wrappers log) (subject : Subject P)
    (options : Options) (training : Bool) (optimizer : Option Descriptor) :
    Orderly (Session.housing session)
      (wrappers ++ [recruit subject.journaled options training optimizer session]) log where
  journal := orderly.journal
  trace := by
    have old : wrappers.map (seat (Session.housing session)) = wrappers.map (seat session) :=
      List.map_congr_left fun wrapper there => by
        rw [seat, seat, housing_device_of_lt (orderly.housed wrapper there)]
    rw [List.map_append, old, List.map_singleton, seat, recruit_fresh]
    exact orderly.trace.made _
  stale id ahead := by
    rw [housing_device] at ahead ⊢
    split at ahead
    · cases ahead
    · next old =>
        obtain ⟨compiled, number, wrapper, there, rest⟩ := orderly.stale id ahead
        rw [if_neg old]
        refine ⟨compiled, number, wrapper, ?_, rest⟩
        rw [List.getElem?_append_left (List.getElem?_eq_some_iff.mp there).1, there]
  housed wrapper there := by
    rcases List.mem_append.mp there with old | new
    · exact Nat.lt_succ_of_lt (orderly.housed wrapper old)
    · obtain rfl := List.mem_singleton.mp new
      exact Nat.lt_succ_self _
  apart number other first second first_there second_there same := by
    have found {index : Nat} {wrapper : Executor P.journaled}
        (there : (wrappers ++ [recruit subject.journaled options training optimizer session])[index]? =
          some wrapper) :
        (wrappers[index]? = some wrapper ∧ wrapper.device.number < session.devices.next) ∨
          index = wrappers.length ∧ wrapper.device.number = session.devices.next := by
      rcases getElem?_concat_eq_some_iff.mp there with old | ⟨last, rfl⟩
      · exact .inl ⟨old, orderly.housed wrapper (List.mem_of_getElem? old)⟩
      · exact .inr ⟨last, rfl⟩
    have same := congrArg DeviceId.number same
    rcases found first_there with ⟨old, below⟩ | ⟨last, new⟩ <;>
      rcases found second_there with ⟨old', below'⟩ | ⟨last', new'⟩
    · exact orderly.apart number other first second old old'
        (by rw [DeviceId.mk.injEq]; exact same)
    · omega
    · omega
    · omega
  journaled wrapper there := by
    rcases List.mem_append.mp there with old | new
    · exact orderly.journaled wrapper old
    · obtain rfl := List.mem_singleton.mp new
      exact ⟨subject, rfl⟩

/-- Errands for nobody in particular keep the order. -/
theorem Orderly.errands {session reached : Session P.journaled}
    {wrappers : List (Executor P.journaled)} {log : List Logged}
    (orderly : Orderly session wrappers log) (errands : Errands false session reached) :
    Orderly reached wrappers
      (log ++ (Workshop.entriesSince session reached).map (Logged.mk none)) := by
  have ran := errands.ran
  obtain ⟨more, grown, each⟩ := ran.entries
  rw [Workshop.entriesSince, grown, List.drop_left]
  refine orderly.grows ran.next ran.executable (fun id ahead => .inl (ran.hostStale id ahead)) grown
    fun entry there log trace => ?_
  rcases (each entry there).2 with errand | owes
  · exact trace.errand none entry errand
  · exact orderly.next_of_owed none owes log trace

namespace Workshop

/-- The workshop is orderly, and its calls were conducted as they should. -/
structure Sound (workshop : Workshop P) : Prop where
  undemanding : workshop.session.world.demanding = false
  orderly : Orderly workshop.session workshop.wrappers (Event.log workshop.history)
  proper : ∀ event ∈ workshop.history, event.Proper workshop.wrappers

theorem sound_start (world : P.World) : Sound (start world) where
  undemanding := rfl
  orderly :=
    { journal := rfl
      trace := .start
      stale := fun _ ahead => nomatch ahead
      housed := fun _ there => nomatch there
      apart := fun _ _ _ _ there => nomatch there
      journaled := fun _ there => nomatch there }
  proper _ there := nomatch there

variable {workshop : Workshop P}

theorem Sound.wrap (sound : Sound workshop) (subject : Subject P) (options : Options)
    (training : Bool) (optimizer : Option Descriptor) :
    Sound (workshop.wrap subject options training optimizer) := by
  rw [Workshop.wrap, perform_make]
  exact
    { undemanding := sound.undemanding
      orderly := by
        rw [Event.log_append]
        simpa [Event.logged] using sound.orderly.housing subject options training optimizer
      proper := fun event there => by
        rcases List.mem_append.mp there with old | new
        · exact (sound.proper event old).append _
        · obtain rfl := List.mem_singleton.mp new
          trivial }

theorem Sound.work (sound : Sound workshop) (number : Nat) (task : Task) :
    Sound (workshop.work number task) := by
  unfold Workshop.work
  split
  · exact sound
  · next wrapper there =>
      have journaled := sound.orderly.journaled wrapper (List.mem_of_getElem? there)
      have worked : Worked ⟨wrapper, workshop.session⟩ task _ _ := worked_runTask task journaled
      generalize (runTask task).perform ⟨wrapper, workshop.session⟩ = ended at worked
      obtain ⟨outcome, reached⟩ := ended
      obtain ⟨more, finished⟩ := worked.finished sound.undemanding there sound.orderly
      have entries : entriesSince workshop.session reached.session = more := by
        rw [entriesSince, finished.grown, List.drop_left]
      dsimp only
      rw [entries]
      have inside := (List.getElem?_eq_some_iff.mp there).1
      exact
        { undemanding := finished.undemanding
          orderly := by
            rw [Event.log_append]
            exact finished.orderly
          proper := fun event event_there => by
            rcases List.mem_append.mp event_there with old | new
            · exact (sound.proper event old).replace there finished.role
            · obtain rfl := List.mem_singleton.mp new
              refine ⟨_, List.getElem?_set_self inside, finished.demanded, fun arguments same => ?_⟩
              have conducted := finished.conducted arguments same
              rwa [← propext finished.role.connects, ← propext finished.role.leftAlone]
                at conducted }

theorem Sound.read {α : Type} {step : Attempt (Session P.journaled) α} (sound : Sound workshop)
    (abides : step.Abides (errandsVerdict false (P.Spares .notCompiled))) :
    Sound (workshop.read step) := by
  have errands : Errands false workshop.session (step.perform workshop.session).2 :=
    abides.reached workshop.session
  exact
    { undemanding := errands.ran.demanding.trans sound.undemanding
      orderly := by
        rw [Workshop.read, Event.log_append]
        exact sound.orderly.errands errands
      proper := fun event there => by
        rcases List.mem_append.mp there with old | new
        · exact sound.proper event old
        · obtain rfl := List.mem_singleton.mp new
          trivial }

theorem Sound.elapse (sound : Sound workshop) (world : P.World)
    (models : Store (ModelCell P.journaled)) : Sound (workshop.elapse world models) where
  undemanding := sound.undemanding
  orderly :=
    ⟨sound.orderly.journal, sound.orderly.trace, sound.orderly.stale, sound.orderly.housed,
      sound.orderly.apart, sound.orderly.journaled⟩
  proper := sound.proper

/-- Every move keeps a workshop sound. -/
theorem Sound.step (sound : Sound workshop) (move : Move P) : Sound (workshop.step move) := by
  cases move with
  | wrap subject options training optimizer => exact sound.wrap subject options training optimizer
  | work number task => exact sound.work number task
  | parameters handle => exact sound.read (abides_parameters id handle)
  | forward handle inputs => exact sound.read (abides_forward id handle inputs)
  | sync handle => exact sound.read (abides_resolve id handle)
  | elapse world models => exact sound.elapse world models

/-- Every run of a sound workshop ends in a sound workshop. -/
theorem Sound.run (sound : Sound workshop) (moves : List (Move P)) : Sound (workshop.run moves) := by
  induction moves generalizing workshop with
  | nil => exact sound
  | cons move later ih => exact ih (sound.step move)

end Workshop

end Offload
