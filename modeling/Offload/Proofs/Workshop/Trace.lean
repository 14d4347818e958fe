/-
# Traces

Which logs wrappers can leave, as a grammar. A log comes with one seat for each wrapper that was
made: whether its calls go on to execute, and the tag of its executable once there is one. The
grammar lists what may come next: without an executable a wrapper captures and compiles, with one
it uses it; anyone may have weights fetched from a wrapper that executes. What a log can never show
is proved from the grammar alone, by induction on the trace.
-/

import Offload.Proofs.Lists
import Offload.Proofs.Workshop.Basic

namespace Offload

/-- An execution. -/
def Entry.executes (entry : Entry) : Bool :=
  match entry.operation with
  | .execute _ _ _ => true
  | _ => false

/-- A capture, or an attempt to compile. -/
def Entry.readies (entry : Entry) : Bool :=
  match entry.operation with
  | .trace _ => true
  | .script => true
  | .compile _ _ => true
  | _ => false

/-- A copy that was demanded itself, or a look at the program. -/
def Entry.byHand (entry : Entry) : Bool :=
  match entry.operation with
  | .copyToHost _ => entry.demanded
  | .copyToDevice _ => entry.demanded
  | .programText _ => true
  | _ => false

namespace Logged

/-- The executable that the entry uses. -/
def use? (logged : Logged) : Option Tag := logged.entry.operation.use?

/-- A wrapper was compiled, and its executable got a tag. -/
def Creates (number : Nat) (tag : Tag) (logged : Logged) : Prop :=
  ∃ request demanded, logged = ⟨some number, ⟨.compile tag request, true, demanded⟩⟩

/-- The number of executables that were compiled. -/
def created (log : List Logged) : Nat := log.countP fun logged => logged.entry.compiles

end Logged

/-- A wrapper as its log knows it. -/
structure Seat where
  /-- Its calls go on to execute. -/
  connects : Bool
  /-- The tag of its executable. -/
  tag? : Option Tag

/-- The logs that wrappers can leave. -/
inductive Trace : List Logged → List Seat → Prop where
  | start : Trace [] []
  /-- A wrapper is made. -/
  | made {log : List Logged} {seats : List Seat} (trace : Trace log seats) (connects : Bool) :
      Trace log (seats ++ [⟨connects, none⟩])
  /-- Something was asked that has to do with no executable. -/
  | errand {log : List Logged} {seats : List Seat} (trace : Trace log seats) (number : Option Nat)
      (entry : Entry) (errand : entry.operation.isErrand false = true) :
      Trace (log ++ [⟨number, entry⟩]) seats
  /-- A wrapper without an executable captures its subject, or fails to compile. -/
  | readies {log : List Logged} {seats : List Seat} (trace : Trace log seats) (number : Nat)
      (entry : Entry) (connects : Bool) (there : seats[number]? = some ⟨connects, none⟩)
      (unused : entry.operation.use? = none) (fails : entry.compiles = false) :
      Trace (log ++ [⟨some number, entry⟩]) seats
  /-- A wrapper without an executable gets one. -/
  | compiled {log : List Logged} {seats : List Seat} (trace : Trace log seats) (number : Nat)
      (tag : Tag) (request : CompileRequest) (demanded connects : Bool)
      (there : seats[number]? = some ⟨connects, none⟩) (fresh : tag.number = Logged.created log) :
      Trace (log ++ [⟨some number, ⟨.compile tag request, true, demanded⟩⟩])
        (seats.set number ⟨connects, some tag⟩)
  /-- A wrapper uses its executable; one that does not connect does so only by hand. -/
  | uses {log : List Logged} {seats : List Seat} (trace : Trace log seats) (number : Nat)
      (entry : Entry) (tag : Tag) (connects : Bool)
      (there : seats[number]? = some ⟨connects, some tag⟩) (uses : entry.operation.use? = some tag)
      (allowed : connects = true ∨ entry.byHand = true) :
      Trace (log ++ [⟨some number, entry⟩]) seats
  /-- The weights of a wrapper that connects are fetched. -/
  | fetches {log : List Logged} {seats : List Seat} (trace : Trace log seats) (number : Option Nat)
      (other : Nat) (tag : Tag) (succeeded demanded : Bool)
      (there : seats[other]? = some ⟨true, some tag⟩) :
      Trace (log ++ [⟨number, ⟨.copyToHost tag, succeeded, demanded⟩⟩]) seats

namespace Entry

theorem readies_of_errand {entry : Entry} (errand : entry.operation.isErrand false = true) :
    entry.readies = false := by
  obtain ⟨operation, succeeded, demanded⟩ := entry
  cases operation <;> first | rfl | exact nomatch errand

theorem readies_of_use {entry : Entry} {tag : Tag} (uses : entry.operation.use? = some tag) :
    entry.readies = false := by
  obtain ⟨operation, succeeded, demanded⟩ := entry
  cases operation <;> first | rfl | exact nomatch uses

end Entry

namespace Logged

variable {number owner : Nat} {tag fresh : Tag}

theorem Creates.compiles {logged : Logged} (creates : logged.Creates number tag) :
    logged.entry.compiles = true := by
  obtain ⟨request, demanded, rfl⟩ := creates
  rfl

/-- A successful compilation creates its executable for its wrapper. -/
theorem creates_iff {request : CompileRequest} {demanded : Bool} :
    (⟨some owner, ⟨.compile fresh request, true, demanded⟩⟩ : Logged).Creates number tag ↔
      owner = number ∧ fresh = tag := by
  constructor
  · rintro ⟨_, _, same⟩
    simp only [Logged.mk.injEq, Option.some.injEq, Entry.mk.injEq, Operation.compile.injEq] at same
    exact ⟨same.1, same.2.1.1⟩
  · rintro ⟨rfl, rfl⟩
    exact ⟨request, demanded, rfl⟩

/-- A creation lies before an entry that does not compile. -/
theorem Creates.mem_of_last {log : List Logged} {creation last : Logged}
    (creates : creation.Creates number tag) (there : creation ∈ log ++ [last])
    (fails : last.entry.compiles = false) : creation ∈ log := by
  rcases List.mem_append.mp there with earlier | last
  · exact earlier
  · obtain rfl := List.mem_singleton.mp last
    exact nomatch fails.symm.trans creates.compiles

end Logged

/-- What the log tells of executables alone: entries that compile nothing change no seat. -/
inductive Registers : List Logged → List Seat → Prop where
  | start : Registers [] []
  | made {log : List Logged} {seats : List Seat} (registers : Registers log seats)
      (connects : Bool) : Registers log (seats ++ [⟨connects, none⟩])
  | silent {log : List Logged} {seats : List Seat} (registers : Registers log seats)
      (last : Logged) (fails : last.entry.compiles = false) : Registers (log ++ [last]) seats
  | compiled {log : List Logged} {seats : List Seat} (registers : Registers log seats)
      (number : Nat) (tag : Tag) (request : CompileRequest) (demanded connects : Bool)
      (vacant : seats[number]? = some ⟨connects, none⟩) (fresh : tag.number = Logged.created log) :
      Registers (log ++ [⟨some number, ⟨.compile tag request, true, demanded⟩⟩])
        (seats.set number ⟨connects, some tag⟩)

theorem Trace.registers {log : List Logged} {seats : List Seat} (trace : Trace log seats) :
    Registers log seats := by
  induction trace with
  | start => exact .start
  | made _ connects ih => exact ih.made connects
  | errand _ number entry errand ih => exact ih.silent _ (Entry.compiles_of_errand errand)
  | readies _ number entry _ _ _ fails ih => exact ih.silent _ fails
  | compiled _ number tag request demanded connects vacant fresh ih =>
      exact ih.compiled number tag request demanded connects vacant fresh
  | uses _ number entry _ _ _ uses _ ih => exact ih.silent _ (Entry.compiles_of_use uses)
  | fetches _ number _ tag _ _ _ ih => exact ih.silent _ rfl

namespace Registers

open Logged

variable {log : List Logged} {seats : List Seat} {number : Nat} {tag : Tag}

/-- A wrapper whose compilation succeeded has the executable that came of it. -/
theorem seat_of_creates (registers : Registers log seats) {creation : Logged}
    (there : creation ∈ log) (creates : creation.Creates number tag) :
    ∃ connects, seats[number]? = some ⟨connects, some tag⟩ := by
  induction registers with
  | start => exact nomatch there
  | made _ _ ih =>
      obtain ⟨connects, seated⟩ := ih there
      refine ⟨connects, ?_⟩
      rw [List.getElem?_append_left (List.getElem?_eq_some_iff.mp seated).1, seated]
  | silent _ last fails ih => exact ih (creates.mem_of_last there fails)
  | compiled _ owner fresh request demanded connects vacant _ ih =>
      rcases List.mem_append.mp there with earlier | last
      · obtain ⟨connects', seated⟩ := ih earlier
        refine ⟨connects', ?_⟩
        rw [List.getElem?_set_ne, seated]
        rintro rfl
        exact nomatch vacant.symm.trans seated
      · obtain rfl := List.mem_singleton.mp last
        obtain ⟨rfl, rfl⟩ := creates_iff.mp creates
        exact ⟨connects, List.getElem?_set_self (List.getElem?_eq_some_iff.mp vacant).1⟩

/-- The executable of a wrapper came of a successful compilation. -/
theorem creates_of_seat (registers : Registers log seats) {connects : Bool}
    (seated : seats[number]? = some ⟨connects, some tag⟩) :
    ∃ creation ∈ log, creation.Creates number tag := by
  have later {log : List Logged} {last : Logged}
      (earlier : ∃ creation ∈ log, creation.Creates number tag) :
      ∃ creation ∈ log ++ [last], creation.Creates number tag := by
    obtain ⟨creation, there, creates⟩ := earlier
    exact ⟨creation, List.mem_append_left _ there, creates⟩
  induction registers with
  | start => exact nomatch seated
  | made _ _ ih =>
      rcases getElem?_concat_eq_some_iff.mp seated with old | ⟨-, new⟩
      · exact ih old
      · exact nomatch new
  | silent _ _ _ ih => exact later (ih seated)
  | compiled _ owner fresh request demanded connects vacant _ ih =>
      rw [List.getElem?_set] at seated
      split at seated
      · next same =>
          split at seated
          · obtain ⟨-, rfl⟩ : connects = _ ∧ fresh = tag := by simpa using seated
            exact ⟨_, List.mem_append_right _ (List.mem_singleton_self _),
              creates_iff.mpr ⟨same, rfl⟩⟩
          · exact nomatch seated
      · exact later (ih seated)

/-- Tags count the executables that were compiled before. -/
theorem number_lt (registers : Registers log seats) {creation : Logged} (there : creation ∈ log)
    (creates : creation.Creates number tag) : tag.number < created log := by
  have grows (log : List Logged) (last : Logged) : created log ≤ created (log ++ [last]) := by
    rw [created, created, List.countP_append]
    exact Nat.le_add_right _ _
  induction registers with
  | start => exact nomatch there
  | made _ _ ih => exact ih there
  | silent _ last fails ih =>
      exact Nat.lt_of_lt_of_le (ih (creates.mem_of_last there fails)) (grows _ last)
  | compiled _ owner fresh request demanded connects vacant counted ih =>
      rcases List.mem_append.mp there with earlier | last
      · exact Nat.lt_of_lt_of_le (ih earlier) (grows _ _)
      · obtain rfl := List.mem_singleton.mp last
        obtain ⟨rfl, rfl⟩ := creates_iff.mp creates
        rw [counted, created, created, List.countP_append]
        exact Nat.lt_succ_self _

/-- No two wrappers have executables of one tag. -/
theorem creator_unique (registers : Registers log seats) {other : Nat}
    {creation creation' : Logged} (there : creation ∈ log) (there' : creation' ∈ log)
    (creates : creation.Creates number tag) (creates' : creation'.Creates other tag) :
    number = other := by
  induction registers with
  | start => exact nomatch there
  | made _ _ ih => exact ih there there'
  | silent _ last fails ih =>
      exact ih (creates.mem_of_last there fails) (creates'.mem_of_last there' fails)
  | compiled registers owner fresh request demanded connects vacant counted ih =>
      rcases List.mem_append.mp there with earlier | last <;>
        rcases List.mem_append.mp there' with earlier' | last'
      · exact ih earlier earlier'
      · obtain rfl := List.mem_singleton.mp last'
        obtain ⟨-, rfl⟩ := creates_iff.mp creates'
        exact absurd (registers.number_lt earlier creates) (counted ▸ Nat.lt_irrefl _)
      · obtain rfl := List.mem_singleton.mp last
        obtain ⟨-, rfl⟩ := creates_iff.mp creates
        exact absurd (registers.number_lt earlier' creates') (counted ▸ Nat.lt_irrefl _)
      · obtain rfl := List.mem_singleton.mp last
        obtain rfl := List.mem_singleton.mp last'
        exact (creates_iff.mp creates).1.symm.trans (creates_iff.mp creates').1

/-- A wrapper without an executable was never compiled. -/
theorem not_creates_of_vacant (registers : Registers log seats) {connects : Bool}
    (vacant : seats[number]? = some ⟨connects, none⟩) {creation : Logged} (there : creation ∈ log) :
    ¬ creation.Creates number tag := by
  intro creates
  obtain ⟨_, seated⟩ := registers.seat_of_creates there creates
  exact nomatch vacant.symm.trans seated

end Registers

namespace Trace

open Logged

variable {log : List Logged} {seats : List Seat} {number : Nat} {tag : Tag}

/-- Nothing readies the wrapper of the earlier entry again. -/
def Quiet (earlier later : Logged) : Prop :=
  ∀ number tag, earlier.Creates number tag → later.number = some number →
    later.entry.readies = false

/-- After its compilation succeeded, a wrapper neither captures nor compiles. -/
theorem quiet (trace : Trace log seats) : log.Pairwise Quiet := by
  have extend {log : List Logged} {last : Logged} (quiet : log.Pairwise Quiet)
      (silent : ∀ creation ∈ log, Quiet creation last) : (log ++ [last]).Pairwise Quiet :=
    List.pairwise_append.mpr ⟨quiet, List.pairwise_singleton _ _, by simpa using silent⟩
  have vacant {log : List Logged} {seats : List Seat} {owner : Nat} {connects : Bool}
      {entry : Entry} (trace : Trace log seats) (vacant : seats[owner]? = some ⟨connects, none⟩)
      (creation : Logged) (there : creation ∈ log) : Quiet creation ⟨some owner, entry⟩ := by
    intro number tag creates same
    obtain rfl := Option.some.inj same
    exact absurd creates (trace.registers.not_creates_of_vacant vacant there)
  induction trace with
  | start => exact .nil
  | made trace _ ih => exact ih
  | errand trace _ entry errand ih =>
      exact extend ih fun _ _ _ _ _ _ => Entry.readies_of_errand errand
  | readies trace owner entry _ free _ fails ih => exact extend ih (vacant trace free)
  | compiled trace owner fresh request demanded connects free counted ih =>
      exact extend ih (vacant trace free)
  | uses trace _ entry _ _ _ uses _ ih =>
      exact extend ih fun _ _ _ _ _ _ => Entry.readies_of_use uses
  | fetches trace _ _ tag _ _ _ ih => exact extend ih fun _ _ _ _ _ _ => rfl

/-- The last entry of a log uses an executable that was compiled before, and it is the executable of
the wrapper itself unless weights are fetched. -/
def Founded (earlier : List Logged) (last : Logged) : Prop :=
  ∀ tag, last.use? = some tag → ∃ number, (∃ creation ∈ earlier, creation.Creates number tag) ∧
    (last.number = some number ∨ last.entry.operation = .copyToHost tag)

/-- Every executable is compiled before it is used. -/
theorem founded (trace : Trace log seats) {earlier : List Logged} {use : Logged}
    (prior : earlier ++ [use] <+: log) : Founded earlier use := by
  have extend {log : List Logged} {last : Logged} (founded : Founded log last)
      (ih : earlier ++ [use] <+: log → Founded earlier use)
      (prior : earlier ++ [use] <+: log ++ [last]) : Founded earlier use := by
    rcases List.prefix_concat_iff.mp prior with whole | shorter
    · obtain ⟨rfl, same⟩ := List.append_inj' whole rfl
      obtain rfl := List.singleton_inj.mp same
      exact founded
    · exact ih shorter
  induction trace with
  | start => exact absurd (List.prefix_nil.mp prior) (by simp)
  | made trace _ ih => exact ih prior
  | errand trace _ entry errand ih =>
      refine extend (fun tag uses => ?_) ih prior
      exact nomatch (Operation.use?_of_isErrand errand).symm.trans uses
  | readies trace owner entry _ free none fails ih =>
      refine extend (fun tag uses => ?_) ih prior
      exact nomatch none.symm.trans uses
  | compiled trace owner fresh request demanded connects free counted ih =>
      refine extend (fun tag uses => ?_) ih prior
      exact nomatch uses
  | uses trace owner entry own _ seated uses _ ih =>
      refine extend (fun tag same => ?_) ih prior
      obtain rfl := Option.some.inj (uses.symm.trans same)
      exact ⟨owner, trace.registers.creates_of_seat seated, .inl rfl⟩
  | fetches trace _ other own _ _ seated ih =>
      refine extend (fun tag same => ?_) ih prior
      obtain rfl := Option.some.inj same
      exact ⟨other, trace.registers.creates_of_seat seated, .inr rfl⟩

/-- Executables that are used other than by hand belong to wrappers that connect. -/
theorem connects (trace : Trace log seats) {use : Logged} (there : use ∈ log)
    (uses : use.use? = some tag) (fetched : use.entry.byHand = false) :
    ∃ owner, seats[owner]? = some ⟨true, some tag⟩ ∧
      (use.number = some owner ∨ use.entry.operation = .copyToHost tag) := by
  have extend {log : List Logged} {last : Logged} {result : Prop}
      (here : use = last → result) (ih : use ∈ log → result) (there : use ∈ log ++ [last]) :
      result := by
    rcases List.mem_append.mp there with earlier | last
    · exact ih earlier
    · exact here (List.mem_singleton.mp last)
  induction trace with
  | start => exact nomatch there
  | made trace _ ih =>
      obtain ⟨owner, seated, own⟩ := ih there
      refine ⟨owner, ?_, own⟩
      rw [List.getElem?_append_left (List.getElem?_eq_some_iff.mp seated).1, seated]
  | errand trace _ entry errand ih =>
      refine extend (fun same => ?_) ih there
      subst same
      exact nomatch (Operation.use?_of_isErrand errand).symm.trans uses
  | readies trace owner entry _ free none fails ih =>
      refine extend (fun same => ?_) ih there
      subst same
      exact nomatch none.symm.trans uses
  | compiled trace owner fresh request demanded connects free counted ih =>
      refine extend (fun same => ?_) (fun there => ?_) there
      · subst same
        exact nomatch uses
      · obtain ⟨other, seated, own⟩ := ih there
        refine ⟨other, ?_, own⟩
        rw [List.getElem?_set_ne, seated]
        rintro rfl
        exact nomatch free.symm.trans seated
  | uses trace owner entry own connects seated uses' allowed ih =>
      refine extend (fun same => ?_) ih there
      subst same
      obtain rfl := Option.some.inj (uses'.symm.trans uses)
      obtain rfl := allowed.resolve_right (by rw [fetched]; exact nofun)
      exact ⟨owner, seated, .inl rfl⟩
  | fetches trace _ other own _ _ seated ih =>
      refine extend (fun same => ?_) ih there
      subst same
      obtain rfl := Option.some.inj uses
      exact ⟨other, seated, .inr rfl⟩

end Trace

end Offload
