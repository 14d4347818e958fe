/-
# The life of a wrapper

The main statement about every run of a workshop: a wrapper is compiled at most once, captures and
compiles nothing afterwards, and its executable is used only from then on. Every call is conducted
as it should: it executes at most once, gives an executed output back exactly if it did so with
success, and never fails for a missing executable, unless something outside the library claims that
one is missing. A wrapper that never connects executes nothing, and but for
copies by hand no weights are moved to or from its device, by whomever.
-/

import Offload.Proofs.Rehearsal
import Offload.Proofs.Workshop.Sound

namespace Offload

open Attempt Session Executor

/-- The life of a wrapper, by its number, as the history of its workshop tells it. -/
structure Lifecycle (history : List Event) (number : Nat) (civil connects : Prop) : Prop where
  /-- At most one compilation of the wrapper succeeds. -/
  once : (Event.log history).countP
    (fun logged => logged.number == some number && logged.entry.compiles) ≤ 1
  /-- After that the wrapper captures and compiles nothing. -/
  quiet : (Event.log history).Pairwise fun earlier later =>
    earlier.number = some number → earlier.entry.compiles = true →
      later.number = some number → later.entry.readies = false
  /-- The executable of the wrapper is used only after the compilation that it came of. -/
  after : ∀ (tag : Tag) (earlier : List Logged) (use : Logged),
    earlier ++ [use] <+: Event.log history → use.use? = some tag →
      (∃ creation ∈ Event.log history, creation.Creates number tag) →
        ∃ creation ∈ earlier, creation.Creates number tag
  /-- The wrapper uses no executable but its own, except to fetch weights. -/
  own : ∀ (tag : Tag) (use : Logged), use ∈ Event.log history → use.number = some number →
    use.use? = some tag → use.entry.operation = .copyToHost tag ∨
      ∃ creation ∈ Event.log history, creation.Creates number tag
  /-- Entries are demanded exactly in copies by hand. -/
  demanded : ∀ task outcome entries, .worked number task outcome entries ∈ history →
    ∀ entry ∈ entries, entry.demanded = task.isCopy
  calls : ∀ arguments outcome entries, .worked number (.call arguments) outcome entries ∈ history →
    Conducted civil connects outcome entries
  /-- A wrapper that does not connect executes nothing, and its executable is used by hand only. -/
  idle : ¬ connects → ∀ use ∈ Event.log history,
    (use.number = some number → use.entry.executes = false) ∧
      ∀ tag, (∃ creation ∈ Event.log history, creation.Creates number tag) →
        use.use? = some tag → use.entry.byHand = true

namespace Entry

theorem readies_of_compiles {entry : Entry} (compiles : entry.compiles = true) :
    entry.readies = true := by
  obtain ⟨operation, succeeded, demanded⟩ := entry
  cases operation <;> first | rfl | exact nomatch compiles

/-- What compiles successfully for a wrapper creates its executable. -/
theorem creates_of_compiles {logged : Logged} {number : Nat} (owner : logged.number = some number)
    (compiles : logged.entry.compiles = true) : ∃ tag, logged.Creates number tag := by
  obtain ⟨who, operation, succeeded, demanded⟩ := logged
  obtain rfl := owner
  cases operation with
  | compile tag request =>
      obtain rfl : succeeded = true := compiles
      exact ⟨tag, request, demanded, rfl⟩
  | _ => exact nomatch compiles

theorem use_of_executes {entry : Entry} (executes : entry.executes = true) :
    ∃ tag, entry.operation.use? = some tag ∧ entry.byHand = false ∧
      entry.operation ≠ .copyToHost tag := by
  obtain ⟨operation, succeeded, demanded⟩ := entry
  cases operation with
  | execute tag inputs optimizer => exact ⟨tag, rfl, rfl, nofun⟩
  | _ => exact nomatch executes

end Entry

/-- What a trace tells of the life of a wrapper. -/
theorem Trace.lifecycle {history : List Event} {seats : List Seat} {number : Nat} {seat : Seat}
    {civil : Prop}
    (trace : Trace (Event.log history) seats) (seated : seats[number]? = some seat)
    (demanded : ∀ task outcome entries, .worked number task outcome entries ∈ history →
      ∀ entry ∈ entries, entry.demanded = task.isCopy)
    (calls : ∀ arguments outcome entries,
      .worked number (.call arguments) outcome entries ∈ history →
        Conducted civil (seat.connects = true) outcome entries) :
    Lifecycle history number civil (seat.connects = true) := by
  have quiet : (Event.log history).Pairwise fun earlier later =>
      earlier.number = some number → earlier.entry.compiles = true →
        later.number = some number → later.entry.readies = false :=
    trace.quiet.imp fun quiet owner compiles => by
      obtain ⟨tag, creates⟩ := Entry.creates_of_compiles owner compiles
      exact quiet number tag creates
  have owned {tag : Tag} {earlier : List Logged} {use : Logged}
      (prior : earlier ++ [use] <+: Event.log history) (uses : use.use? = some tag) :
      ∃ owner, (∃ creation ∈ earlier, creation.Creates owner tag) ∧
        (use.number = some owner ∨ use.entry.operation = .copyToHost tag) :=
    trace.founded prior tag uses
  have kept {earlier : List Logged} {use creation : Logged}
      (prior : earlier ++ [use] <+: Event.log history) (there : creation ∈ earlier) :
      creation ∈ Event.log history :=
    prior.subset (List.mem_append_left _ there)
  exact
    { once := countP_le_one quiet fun first second chosen chosen' quiet => by
        simp only [Bool.and_eq_true, beq_iff_eq] at chosen chosen'
        have silent := quiet chosen.1 chosen.2 chosen'.1
        exact nomatch silent.symm.trans (Entry.readies_of_compiles chosen'.2)
      quiet := quiet
      after := fun tag earlier use prior uses ⟨creation, there, creates⟩ => by
        obtain ⟨owner, ⟨creation', there', creates'⟩, -⟩ := owned prior uses
        obtain rfl := trace.registers.creator_unique (kept prior there') there creates' creates
        exact ⟨creation', there', creates'⟩
      own := fun tag use there mine uses => by
        obtain ⟨earlier, later, split⟩ := List.append_of_mem there
        have prior : earlier ++ [use] <+: Event.log history := ⟨later, by rw [split]; simp⟩
        obtain ⟨owner, ⟨creation, there', creates⟩, own | fetch⟩ := owned prior uses
        · obtain rfl := Option.some.inj (mine.symm.trans own)
          exact .inr ⟨creation, kept prior there', creates⟩
        · exact .inl fetch
      demanded := demanded
      calls := calls
      idle := fun never use there => by
        have apart {tag : Tag} {owner : Nat} (connected : seats[owner]? = some ⟨true, some tag⟩) :
            owner ≠ number := by
          rintro rfl
          obtain rfl := Option.some.inj (seated.symm.trans connected)
          exact never rfl
        refine ⟨fun mine => ?_, fun tag ⟨creation, created, creates⟩ uses => ?_⟩
        · by_contra executes
          obtain ⟨tag, uses, fetched, apart'⟩ :=
            Entry.use_of_executes (Bool.not_eq_false _ ▸ executes)
          obtain ⟨owner, connected, own | fetch⟩ := trace.connects there uses fetched
          · exact apart connected (Option.some.inj (own.symm.trans mine))
          · exact apart' fetch
        · by_contra fetched
          obtain ⟨owner, connected, -⟩ :=
            trace.connects there uses (Bool.not_eq_true _ ▸ fetched)
          obtain ⟨creation', created', creates'⟩ := trace.registers.creates_of_seat connected
          exact apart connected
            (trace.registers.creator_unique created' created creates' creates) }

namespace Workshop

variable {P : Platform}

/-- In every run of a workshop every wrapper leads the life that it should, whatever else happens
there and whatever fails. -/
theorem wrapper_lifecycle (world : P.World) (moves : List (Move P)) (number : Nat)
    (wrapper : Executor P.journaled)
    (there : ((start world).run moves).wrappers[number]? = some wrapper) :
    Lifecycle ((start world).run moves).history number (LeftAlone wrapper) (Connects wrapper) := by
  have sound := (sound_start world).run moves
  have seated : (((start world).run moves).wrappers.map
      (seat ((start world).run moves).session))[number]? = some _ := Orderly.seated there
  have same : Connects wrapper =
      ((seat ((start world).run moves).session wrapper).connects = true) := by
    rw [seat, decide_eq_true_eq]
  rw [same]
  refine sound.orderly.trace.lifecycle seated (fun task outcome entries event => ?_)
    fun arguments outcome entries event => ?_
  · obtain ⟨_, -, demanded, -⟩ := sound.proper _ event
    exact demanded
  · obtain ⟨owning, owns, -, conducted⟩ := sound.proper _ event
    obtain rfl := Option.some.inj (there.symm.trans owns)
    rw [← same]
    exact conducted arguments rfl

/-- A wrapper of a rehearsed model that gives back its inputs. -/
def rehearsedWrap : Move (Rehearsal.platform true) :=
  .wrap (.own ⟨.empty, [], true⟩)
    (Options.initial.put "anchor_mode" (.int AnchorMode.all.code)) false none

/-- A wrapper is called while no compilation succeeds and then again, and its weights are fetched by
hand. -/
def calledAgain : List (Move (Rehearsal.platform true)) :=
  [rehearsedWrap, .elapse (Rehearsal.World.initial.setFailing "compile" true) .empty,
    .work 0 (.call ⟨[], []⟩), .elapse Rehearsal.World.initial .empty, .work 0 (.call ⟨[], []⟩),
    .work 0 .copyToHost]

/-- The second call compiles the wrapper, and its weights are fetched after that. Nothing outside the
library claims that an executable is missing. -/
theorem called_again_lifecycle :
    (∃ wrapper, ((start Rehearsal.World.initial).run calledAgain).wrappers[0]? = some wrapper ∧
      LeftAlone wrapper ∧
      Lifecycle ((start Rehearsal.World.initial).run calledAgain).history 0 (LeftAlone wrapper)
        (Connects wrapper)) ∧
      (Event.log ((start Rehearsal.World.initial).run calledAgain).history).countP
          (fun logged => logged.entry.readies) = 4 ∧
        (Event.log ((start Rehearsal.World.initial).run calledAgain).history).countP
          (fun logged => logged.entry.compiles || logged.use?.isSome) = 3 := by
  have lossless : (((start Rehearsal.World.initial).run calledAgain).wrappers[0]?.map
      fun wrapper => wrapper.subject.loss?.isNone) = some true := by
    decide +kernel
  obtain ⟨wrapper, there, none⟩ := Option.map_eq_some_iff.mp lossless
  have alone : LeftAlone wrapper := by
    refine ⟨Rehearsal.spares true, fun loss has => ?_⟩
    rw [has] at none
    exact nomatch none
  have lifecycle := wrapper_lifecycle Rehearsal.World.initial calledAgain 0 wrapper there
  exact ⟨⟨wrapper, there, alone, lifecycle⟩, by decide +kernel⟩

end Workshop

end Offload
