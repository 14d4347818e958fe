/-
# Orderly workshops

A workshop is orderly if its log is a trace in which every wrapper sits with the executable of its
device, the wrappers have devices of their own, and only wrappers that execute are ahead of the
host. Everything that wrappers do keeps it so: first what one deed adds to the trace, then a chain
of deeds, an execution, and a whole task.
-/

import Offload.Proofs.Lists
import Offload.Proofs.Workshop.Trace

namespace Offload

open Attempt Session

namespace Executor

variable {P : Platform}

instance (executor : Executor P) : Decidable (Connects executor) := by
  unfold Connects
  infer_instance

/-- A wrapper as it stands in a session. -/
def seat (session : Session P.journaled) (wrapper : Executor P.journaled) : Seat :=
  ⟨decide (Connects wrapper), (session.device wrapper.device).executable.map Tagged.tag⟩

/-- The seat depends on the role of the wrapper and the executable of its device only. -/
theorem seat_eq {before reached : Session P.journaled} {wrapper wrapper' : Executor P.journaled}
    (role : SameRole wrapper wrapper')
    (executable : (reached.device wrapper.device).executable =
      (before.device wrapper.device).executable) :
    seat reached wrapper' = seat before wrapper := by
  rw [seat, seat, role.device, executable, decide_eq_decide.mpr role.connects]

end Executor

open Executor

variable {P : Platform}

/-- The log of wrappers in a session is in order. -/
structure Orderly (session : Session P.journaled) (wrappers : List (Executor P.journaled))
    (log : List Logged) : Prop where
  journal : session.world.entries = log.map Logged.entry
  trace : Trace log (wrappers.map (seat session))
  /-- Only compiled wrappers that connect are ahead of the host. -/
  stale : ∀ id, (session.device id).hostStale = true →
    (session.device id).executable.isSome = true ∧ ∃ (number : Nat) (wrapper : _),
      wrappers[number]? = some wrapper ∧ wrapper.device = id ∧ Connects wrapper
  housed : ∀ wrapper ∈ wrappers, wrapper.device.number < session.devices.next
  apart : ∀ (number other : Nat) first second, wrappers[number]? = some first →
    wrappers[other]? = some second → first.device = second.device → number = other
  journaled : ∀ wrapper ∈ wrappers, wrapper.subject.IsJournaled

namespace Orderly

variable {session : Session P.journaled} {wrappers : List (Executor P.journaled)}
  {log : List Logged} {number : Nat} {wrapper : Executor P.journaled}

/-- The seat of a wrapper by its number. -/
theorem seated (there : wrappers[number]? = some wrapper) :
    (wrappers.map (seat session))[number]? = some (seat session wrapper) := by
  rw [List.getElem?_map, there, Option.map_some]

theorem supplied (orderly : Orderly session wrappers log) : session.Supplied :=
  fun id stale => (orderly.stale id stale).1

/-- The number that the next executable gets. -/
theorem compiled (orderly : Orderly session wrappers log) :
    session.compiled = Logged.created log := by
  rw [Session.compiled, orderly.journal, List.countP_map]
  rfl

/-- A trace goes on with entries that each may come next. -/
theorem trace_append {seats : List Seat} {who : Option Nat} (trace : Trace log seats)
    {more : List Entry} (each : ∀ entry ∈ more, ∀ log, Trace log seats →
      Trace (log ++ [⟨who, entry⟩]) seats) : Trace (log ++ more.map (Logged.mk who)) seats := by
  induction more generalizing log with
  | nil => simpa using trace
  | cons entry more ih =>
      have next := each entry (.head _) log trace
      have rest := ih next fun later there => each later (.tail _ there)
      simpa using rest

/-- Entries that may come next, while no device gets an executable and what falls ahead of the host
may do so, keep the order. -/
theorem grows {reached : Session P.journaled} {more : List Entry} {who : Option Nat}
    (orderly : Orderly session wrappers log) (next : reached.devices.next = session.devices.next)
    (executable : ∀ id, (reached.device id).executable = (session.device id).executable)
    (stale : ∀ id, (reached.device id).hostStale = true → (session.device id).hostStale = true ∨
      (session.device id).executable.isSome = true ∧ ∃ (number : Nat) (wrapper : _),
        wrappers[number]? = some wrapper ∧ wrapper.device = id ∧ Connects wrapper)
    (grown : reached.world.entries = session.world.entries ++ more)
    (each : ∀ entry ∈ more, ∀ log, Trace log (wrappers.map (seat session)) →
      Trace (log ++ [⟨who, entry⟩]) (wrappers.map (seat session))) :
    Orderly reached wrappers (log ++ more.map (Logged.mk who)) where
  journal := by
    rw [grown, orderly.journal, List.map_append, List.map_map]
    exact congrArg _ (List.map_id more).symm
  trace := by
    have same : seat reached = seat session := by
      funext wrapper
      rw [seat, seat, executable]
    rw [same]
    exact trace_append orderly.trace each
  stale id ahead := by
    rw [executable]
    exact (stale id ahead).elim (orderly.stale id) fun owned => owned
  housed wrapper there := next ▸ orderly.housed wrapper there
  apart := orderly.apart
  journaled := orderly.journaled

/-- A wrapper may change in everything but its role. -/
theorem replace {wrapper' : Executor P.journaled} (orderly : Orderly session wrappers log)
    (there : wrappers[number]? = some wrapper) (role : SameRole wrapper wrapper') :
    Orderly session (wrappers.set number wrapper') log where
  journal := orderly.journal
  trace := by
    rw [map_set_of_eq there (seat_eq role rfl)]
    exact orderly.trace
  stale id stale := by
    obtain ⟨compiled, owner, owning, owns, device, connects⟩ := orderly.stale id stale
    refine ⟨compiled, owner, ?_⟩
    by_cases same : number = owner
    · subst same
      obtain rfl := Option.some.inj (there.symm.trans owns)
      exact ⟨wrapper', List.getElem?_set_self (List.getElem?_eq_some_iff.mp there).1,
        role.device.trans device, role.connects.mpr connects⟩
    · exact ⟨owning, (List.getElem?_set_ne same).trans owns, device, connects⟩
  housed other there' := by
    rcases List.mem_or_eq_of_mem_set there' with old | rfl
    · exact orderly.housed other old
    · rw [role.device]
      exact orderly.housed wrapper (List.mem_of_getElem? there)
  apart index other first second first_there second_there same := by
    have old {index : Nat} {now : Executor P.journaled}
        (now_there : (wrappers.set number wrapper')[index]? = some now) :
        ∃ old, wrappers[index]? = some old ∧ old.device = now.device := by
      have device : ((wrappers.set number wrapper').map Executor.device)[index]? =
          some now.device := by
        rw [List.getElem?_map, now_there, Option.map_some]
      rw [map_set_of_eq there role.device, List.getElem?_map] at device
      exact Option.map_eq_some_iff.mp device
    obtain ⟨first', first_there', first_device⟩ := old first_there
    obtain ⟨second', second_there', second_device⟩ := old second_there
    exact orderly.apart index other first' second' first_there' second_there'
      (first_device.trans (same.trans second_device.symm))
  journaled other there' := by
    rcases List.mem_or_eq_of_mem_set there' with old | rfl
    · exact orderly.journaled other old
    · exact role.journaled (orderly.journaled wrapper (List.mem_of_getElem? there))

/-- Weights of a wrapper that connects may be fetched next. -/
theorem next_of_owed (orderly : Orderly session wrappers log) (who : Option Nat) {entry : Entry}
    (owes : session.Owes entry.operation) (log : List Logged)
    (trace : Trace log (wrappers.map (seat session))) :
    Trace (log ++ [⟨who, entry⟩]) (wrappers.map (seat session)) := by
  obtain ⟨operation, succeeded, demanded⟩ := entry
  obtain ⟨id, tagged, stale, executable, rfl⟩ := owes
  obtain ⟨-, owner, owning, owns, rfl, connects⟩ := orderly.stale id stale
  refine trace.fetches who owner tagged.tag succeeded demanded ?_
  rw [seated owns, seat, executable, decide_eq_true connects, Option.map_some]

/-- What a wrapper has reason to leave may come next. -/
theorem next_of_warranted {binding : Binding} {entry : Entry}
    (orderly : Orderly session wrappers log) (there : wrappers[number]? = some wrapper)
    (warranted : Warranted binding ⟨wrapper, session⟩ entry) (fails : entry.compiles = false)
    (log : List Logged) (trace : Trace log (wrappers.map (seat session))) :
    Trace (log ++ [⟨some number, entry⟩]) (wrappers.map (seat session)) := by
  have vacant (fresh : executable? ⟨wrapper, session⟩ = none) :
      (wrappers.map (seat session))[number]? = some ⟨decide (Connects wrapper), none⟩ := by
    rw [seated there, seat, show (session.device wrapper.device).executable = none from fresh,
      Option.map_none]
  have taken {tagged : Tagged P.Executable}
      (compiled : executable? ⟨wrapper, session⟩ = some tagged) :
      (wrappers.map (seat session))[number]? =
        some ⟨decide (Connects wrapper), some tagged.tag⟩ := by
    rw [seated there, seat,
      show (session.device wrapper.device).executable = some tagged from compiled, Option.map_some]
  cases warranted with
  | errand _ errand => exact trace.errand _ entry errand
  | captures _ errand fresh =>
      exact trace.readies number entry _ (vacant fresh) (Operation.use?_of_isErrand errand) fails
  | owed _ owes => exact orderly.next_of_owed _ owes log trace
  | handed table views inputs tag succeeded demanded fresh drafted picks numbered =>
      exact trace.readies number _ _ (vacant fresh) rfl fails
  | sent tagged succeeded compiled allowed =>
      refine trace.uses number _ tagged.tag _ (taken compiled) rfl ?_
      exact allowed.symm.imp_left decide_eq_true
  | fetched tagged succeeded compiled demanded =>
      exact trace.uses number _ tagged.tag _ (taken compiled) rfl (.inr demanded)
  | read tagged succeeded demanded compiled =>
      exact trace.uses number _ tagged.tag _ (taken compiled) rfl (.inr rfl)

/-- A compilation that succeeds gives the wrapper its executable. -/
theorem installs {tagged : Tagged P.Executable} {request : CompileRequest} {world : P.World}
    (orderly : Orderly session wrappers log) (there : wrappers[number]? = some wrapper)
    (fresh : executable? ⟨wrapper, session⟩ = none)
    (tag : tagged.tag.number = session.compiled) :
    Orderly
      (session.did (.compile tagged.tag request) world wrapper.device fun device =>
        { device with executable := some tagged })
      wrappers
      (log ++ [⟨some number, ⟨.compile tagged.tag request, true, session.world.demanding⟩⟩]) where
  journal := by
    rw [List.map_append, ← orderly.journal]
    rfl
  trace := by
    have vacant : (wrappers.map (seat session))[number]? =
        some ⟨decide (Connects wrapper), none⟩ := by
      rw [seated there, seat, show (session.device wrapper.device).executable = none from fresh,
        Option.map_none]
    have next := orderly.trace.compiled number tagged.tag request session.world.demanding _ vacant
      (tag.trans orderly.compiled)
    refine cast (congrArg _ (List.ext_getElem? fun index => ?_)) next
    obtain ⟨inside, -⟩ := List.getElem?_eq_some_iff.mp there
    rw [List.getElem?_set, List.length_map, if_pos inside]
    split
    · next same =>
        subst same
        rw [List.getElem?_map, there, Option.map_some, seat, did_device, if_pos rfl,
          Option.map_some]
    · next elsewhere =>
        rw [List.getElem?_map, List.getElem?_map]
        cases other_there : wrappers[index]? with
        | none => rfl
        | some other =>
            have apart : other.device ≠ wrapper.device := fun same =>
              elsewhere (orderly.apart _ _ _ _ there other_there same.symm)
            rw [Option.map_some, Option.map_some, seat, seat, did_device, if_neg apart]
  stale id stale := by
    rw [did_device] at stale ⊢
    split at stale
    · next same =>
        rw [if_pos same]
        exact ⟨rfl, same ▸ (orderly.stale _ stale).2⟩
    · next apart =>
        rw [if_neg apart]
        exact orderly.stale id stale
  housed := orderly.housed
  apart := orderly.apart
  journaled := orderly.journaled

/-- Executing keeps the order, of a wrapper that connects. -/
theorem executes {inputs : List Value} {succeeded : Bool} {before reached : Running P.journaled}
    (orderly : Orderly before.session wrappers log)
    (there : wrappers[number]? = some before.executor) (connects : Connects before.executor)
    (executes : Executes inputs before succeeded reached) {more : List Entry}
    (grown : reached.session.world.entries = before.session.world.entries ++ more) :
    Orderly reached.session (wrappers.set number reached.executor)
      (log ++ more.map (Logged.mk (some number))) := by
  obtain ⟨tagged, compiled, grown'⟩ := executes.entries
  obtain rfl := List.append_cancel_left (grown.symm.trans grown')
  have each : ∀ entry ∈ [(⟨.execute tagged.tag inputs (toPush before.executor), succeeded,
      before.session.world.demanding⟩ : Entry)], ∀ log,
      Trace log (wrappers.map (seat before.session)) →
        Trace (log ++ [⟨some number, entry⟩]) (wrappers.map (seat before.session)) := by
    intro entry last log trace
    obtain rfl := List.mem_singleton.mp last
    refine trace.uses number _ tagged.tag _ ?_ rfl (.inl (decide_eq_true connects))
    rw [seated there, seat, show (before.session.device before.executor.device).executable =
      some tagged from compiled, Option.map_some]
  have owner : (before.session.device before.executor.device).executable.isSome = true ∧
      ∃ (number : Nat) (wrapper : _), wrappers[number]? = some wrapper ∧
        wrapper.device = before.executor.device ∧ Connects wrapper :=
    ⟨Option.isSome_iff_exists.mpr ⟨tagged, compiled⟩, number, _, there, rfl, connects⟩
  cases executes with
  | succeeds _ world _ =>
      refine Orderly.replace ?_ there ⟨rfl, rfl, rfl, rfl, id⟩
      unfold executedSession at grown ⊢
      dsimp only at grown ⊢
      split
      · next trains =>
          refine orderly.grows rfl (fun id => ?_) (fun id ahead => ?_) ?_ each
          · rw [did_device]
            split <;> simp [*]
          · rw [did_device] at ahead
            split at ahead
            · next same => exact .inr (same ▸ owner)
            · exact .inl ahead
          · rw [if_pos trains] at grown
            exact grown
      · next watches =>
          rw [if_neg watches] at grown
          exact orderly.grows rfl (fun _ => rfl) (fun _ => .inl) grown each
  | fails _ world _ =>
      refine Orderly.replace ?_ there ⟨rfl, rfl, rfl, rfl, id⟩
      exact orderly.grows rfl (fun _ => rfl) (fun _ => .inl) grown each

end Orderly

/-- A wrapper went on from one state to a later one: it left entries, all demanded or all not, and
the order is kept. -/
structure Advances (wrappers : List (Executor P.journaled)) (number : Nat) (log : List Logged)
    (before reached : Running P.journaled) (more : List Entry) : Prop where
  demanding : reached.session.world.demanding = before.session.world.demanding
  grown : reached.session.world.entries = before.session.world.entries ++ more
  demanded : ∀ entry ∈ more, entry.demanded = before.session.world.demanding
  role : SameRole before.executor reached.executor
  orderly : Orderly reached.session (wrappers.set number reached.executor)
    (log ++ more.map (Logged.mk (some number)))

section Advance

variable {wrappers : List (Executor P.journaled)} {number : Nat} {log : List Logged}
  {before reached : Running P.journaled} {binding : Binding}

theorem Advances.stay (there : wrappers[number]? = some before.executor)
    (orderly : Orderly before.session wrappers log) :
    Advances wrappers number log before before [] where
  demanding := rfl
  grown := (List.append_nil _).symm
  demanded := by simp
  role := ⟨rfl, rfl, rfl, rfl, id⟩
  orderly := by simpa using orderly.replace there ⟨rfl, rfl, rfl, rfl, id⟩

theorem Advances.then {ready : Running P.journaled} {more more' : List Entry}
    (advances : Advances wrappers number log before ready more)
    (later : Advances (wrappers.set number ready.executor) number
      (log ++ more.map (Logged.mk (some number))) ready reached more') :
    Advances wrappers number log before reached (more ++ more') where
  demanding := later.demanding.trans advances.demanding
  grown := by rw [later.grown, advances.grown, List.append_assoc]
  demanded entry mem := (List.mem_append.mp mem).elim (advances.demanded entry) fun mem =>
    (later.demanded entry mem).trans advances.demanding
  role := advances.role.trans later.role
  orderly := by simpa using later.orderly

theorem advances_does (there : wrappers[number]? = some before.executor)
    (orderly : Orderly before.session wrappers log) (does : Does binding before reached) :
    ∃ more, Advances wrappers number log before reached more := by
  have journaled := orderly.journaled before.executor (List.mem_of_getElem? there)
  rcases does.effect journaled with ⟨stays, demanding, more, grown, each⟩ |
    ⟨table, views, inputs, tagged, world, fresh, drafted, picks, tag, rfl⟩
  · refine ⟨more, demanding, grown, fun entry mem => (each entry mem).1, does.role, ?_⟩
    refine Orderly.replace ?_ there does.role
    exact orderly.grows stays.next stays.executable (fun id ahead => .inl (stays.hostStale id ahead))
      grown fun entry mem =>
        orderly.next_of_warranted there (each entry mem).2.1 (each entry mem).2.2
  · refine ⟨[_], rfl, rfl, fun entry mem => ?_, does.role, ?_⟩
    · obtain rfl := List.mem_singleton.mp mem
      rfl
    · refine Orderly.replace ?_ there does.role
      exact orderly.installs there fresh (congrArg Tag.number tag)

theorem advances_deeds (there : wrappers[number]? = some before.executor)
    (orderly : Orderly before.session wrappers log) (deeds : Deeds binding before reached) :
    ∃ more, Advances wrappers number log before reached more := by
  have inside := (List.getElem?_eq_some_iff.mp there).1
  induction deeds with
  | refl => exact ⟨[], .stay there orderly⟩
  | tail _ does ih =>
      obtain ⟨more, advances⟩ := ih
      obtain ⟨more', later⟩ :=
        advances_does (List.getElem?_set_self inside) advances.orderly does
      exact ⟨more ++ more', advances.then later⟩

theorem advances_executes {inputs : List Value} {succeeded : Bool}
    (there : wrappers[number]? = some before.executor)
    (orderly : Orderly before.session wrappers log) (connects : Connects before.executor)
    (executes : Executes inputs before succeeded reached) :
    ∃ tagged : Tagged P.Executable, Advances wrappers number log before reached
      [⟨.execute tagged.tag inputs (toPush before.executor), succeeded,
        before.session.world.demanding⟩] := by
  obtain ⟨tagged, compiled, grown⟩ := executes.entries
  refine ⟨tagged, ?_, grown, by simp, ?_, orderly.executes there connects executes grown⟩
  · cases executes with
    | succeeds tagged world =>
        unfold executedSession
        dsimp only
        split <;> rfl
    | fails tagged world => rfl
  · cases executes <;> exact ⟨rfl, rfl, rfl, rfl, id⟩

end Advance

end Offload
