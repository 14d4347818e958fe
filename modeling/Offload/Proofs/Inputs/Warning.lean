/-
# Dense inputs, and one warning

Over all turns of an executor, whatever they come to: every tensor that is handed to the platform
is one block, and the application is told once of strided inputs, in the first turn in which a
strided tensor is bound. The warning goes with the binding, so it does not matter what becomes of
the turn afterwards, and a turn that does not look at its arguments does not count.

That bringing tensors into one block cannot fail is known of tensors inside their buffers, as all
views of tensors made from elements are; the first statement does not need it.
-/

import Offload.Proofs.Executor.Record
import Offload.Proofs.Inputs.Tidy
import Offload.Rehearsal.Platform

namespace Offload

open Attempt

namespace Turn

variable {P : Platform} (turn : Turn P) (before : Running P)

/-- What the arguments are bound to, with tensors as they were given. -/
def bound : Result Binding :=
  Binding.bind (before.executor.subject.signature before.session) turn.arguments

/-- The arguments bind, and one of the tensors that are bound is strided. -/
def Heeds : Prop :=
  turn.Binds before ∧ ∃ binding, turn.bound before = .ok binding ∧
    ∃ value ∈ binding.leaves, value.isStrided = true

/-- The tensors that are bound lie in their buffers. -/
def InBounds : Prop :=
  ∀ binding, turn.bound before = .ok binding → ∀ value ∈ binding.leaves, value.InBounds

variable {turn before}

/-- If the tensors lie in their buffers, the arguments of a turn that looks at them bind whenever
their names do, and it is noticed whether the turn has something to heed. -/
theorem InBounds.called_iff (inside : turn.InBounds before) (binds : turn.Binds before) :
    match Binding.ofCall (before.executor.subject.signature before.session) turn.arguments with
    | .ok (densified, _) => densified = true ↔ turn.Heeds before
    | .error _ => ¬ turn.Heeds before := by
  cases named : turn.bound before with
  | error cause =>
      have called : Binding.ofCall (before.executor.subject.signature before.session)
          turn.arguments = .error cause := by
        rw [Binding.ofCall, ← bound, named]
        rfl
      rw [called]
      rintro ⟨-, binding, other, -⟩
      rw [named] at other
      cases other
  | ok binding =>
      obtain ⟨densified, called⟩ := Binding.ofCall_eq_ok named (inside binding named)
      rw [called]
      constructor
      · intro strided
        exact ⟨binds, binding, named, List.any_eq_true.mp strided⟩
      · rintro ⟨-, other, same, strided⟩
        obtain rfl := Except.ok.inj (named.symm.trans same)
        exact List.any_eq_true.mpr strided

end Turn

namespace Episode

variable {P : Platform} (episode : Episode P)

/-- The arguments of the episode bind a strided tensor. -/
def Heeds : Prop := episode.turn.Heeds episode.before

/-- The tensors that are bound in the episode lie in their buffers. -/
def InBounds : Prop := episode.turn.InBounds episode.before

/-- What the application was told. -/
def told : List Notice :=
  episode.reached.session.notices.drop episode.before.session.notices.length

end Episode

namespace Executor

variable {P : Platform} {before reached : Running P.journaled}

/-- A turn warns if it has something to heed and the application was not warned before; what else it
does is tidy. -/
def Warns (turn : Turn P.journaled) (before reached : Running P.journaled) : Prop :=
  ∃ densified, (working (.plain Session.Tidy)).good (heeding densified before) reached ∧
    (turn.InBounds before → (densified = true ↔ turn.Heeds before))

theorem ends_take_warns (turn : Turn P.journaled) (before : Running P.journaled) :
    (take turn).Ends before (fun _ reached => Warns turn before reached)
      fun _ reached => Warns turn before reached := by
  have counted {densified : Bool} {binding : Binding} (binds : turn.Binds before)
      (called : Binding.ofCall (before.executor.subject.signature before.session) turn.arguments =
        .ok (densified, binding)) (inside : turn.InBounds before) :
      densified = true ↔ turn.Heeds before := by
    have known := inside.called_iff binds
    rwa [called] at known
  refine (ends_take_working endures_tidy turn before).mono ?_ ?_
  · rintro - reached (⟨idle, rfl⟩ | ⟨binds, densified, binding, called, good⟩)
    · exact ⟨false, (working (.plain Session.Tidy)).refl reached, fun _ =>
        ⟨nofun, fun heeds => absurd heeds.1 idle⟩⟩
    · exact ⟨densified, good, counted binds called⟩
  · rintro cause reached ⟨binds, fails⟩
    cases fails with
    | unbound called same =>
        subst same
        refine ⟨false, (working (.plain Session.Tidy)).refl reached, fun inside =>
          ⟨nofun, fun heeds => ?_⟩⟩
        have known := inside.called_iff binds
        rw [called] at known
        exact absurd heeds known
    | unfit densified binding called _ _ within =>
        exact ⟨densified, within, counted binds called⟩
    | stopped densified binding called failed =>
        exact ⟨densified, failed, counted binds called⟩

/-- What a turn leaves, by whether tensors had to be brought into one block. -/
structure Leaves (densified : Bool) (before reached : Running P.journaled) : Prop where
  dense : ∀ entry ∈ added before reached, entry.operation.Dense
  told : (reached.session.notices.drop before.session.notices.length).count .stridedInput =
    (densified && !before.executor.warned).toNat
  warned : reached.executor.warned = (before.executor.warned || densified)
  fit : reached.executor.subject.Endures (.plain Session.Tidy)

/-- The warning comes first, and nothing that follows repeats it. -/
theorem leaves_of_tidy {densified : Bool}
    (fit : before.executor.subject.Endures (.plain Session.Tidy))
    (good : (working (.plain Session.Tidy)).good (heeding densified before) reached) :
    Leaves densified before reached := by
  rw [heeding_eq] at good
  obtain ⟨role, tidy⟩ := good
  obtain ⟨⟨-, entries, grown, dense⟩, notices, told, quiet⟩ := tidy fit
  have grown : reached.session.world.entries = before.session.world.entries ++ entries := grown
  rw [List.append_assoc] at told
  refine ⟨fun entry there => ?_, ?_, role.warned, role.endures.mpr fit⟩
  · rw [added_of_grown grown] at there
    exact (dense entry there).2
  · rw [told, List.drop_left, List.count_append, List.count_eq_zero.mpr quiet]
    cases densified && !before.executor.warned <;> rfl

/-- What one turn leaves. -/
theorem ends_take_leaves (turn : Turn P.journaled)
    (fit : before.executor.subject.Endures (.plain Session.Tidy)) :
    (take turn).Ends before
      (fun _ reached => ∃ densified, Leaves densified before reached ∧
        (turn.InBounds before → (densified = true ↔ turn.Heeds before)))
      fun _ reached => ∃ densified, Leaves densified before reached ∧
        (turn.InBounds before → (densified = true ↔ turn.Heeds before)) :=
  (ends_take_warns turn before).mono
    (fun _ _ ⟨densified, good, heeds⟩ => ⟨densified, leaves_of_tidy fit good, heeds⟩)
    fun _ _ ⟨densified, good, heeds⟩ => ⟨densified, leaves_of_tidy fit good, heeds⟩

/-- Every turn hands dense tensors over. -/
theorem dense_episodes {executor : Executor P.journaled}
    (fit : executor.subject.Endures (.plain Session.Tidy)) (turns : List (Turn P.journaled)) :
    ∀ episode ∈ executor.episodes turns, ∀ entry ∈ added episode.before episode.reached,
      entry.operation.Dense := by
  refine @forall_episodes P.journaled (fun executor => executor.subject.Endures (.plain Session.Tidy))
    _ (fun executor turn fit => ?_) executor fit turns
  exact (@ends_take_leaves P (executor.opening turn) turn fit).mono
    (fun _ _ ⟨_, leaves, _⟩ => ⟨leaves.dense, leaves.fit⟩)
    fun _ _ ⟨_, leaves, _⟩ => ⟨leaves.dense, leaves.fit⟩

/-- An executor warns in the first turn that has something to heed, unless it warned before, and in
no other. The induction is on the turns to come. -/
theorem warned_episodes {executor : Executor P.journaled}
    (fit : executor.subject.Endures (.plain Session.Tidy)) (turns : List (Turn P.journaled))
    (inside : ∀ episode ∈ executor.episodes turns, episode.InBounds) :
    (∀ earlier episode later, executor.episodes turns = earlier ++ episode :: later →
        (Notice.stridedInput ∈ episode.told ↔ executor.warned = false ∧ episode.Heeds ∧
          ∀ other ∈ earlier, ¬ other.Heeds)) ∧
      ((executor.episodes turns).flatMap Episode.told).count .stridedInput ≤
        (!executor.warned).toNat := by
  induction turns generalizing executor with
  | nil => exact ⟨fun earlier => by cases earlier <;> simp [episodes], by simp [episodes]⟩
  | cons turn later ih =>
      obtain ⟨here, others⟩ := List.forall_mem_cons.mp inside
      obtain ⟨densified, leaves, heeds⟩ :=
        (@ends_take_leaves P (executor.opening turn) turn fit).reached
      let ended := (take turn).perform (executor.opening turn)
      have heeds : densified = true ↔
          Episode.Heeds ⟨executor.opening turn, turn, ended.1, ended.2⟩ := heeds here
      obtain ⟨after, total⟩ := ih leaves.fit others
      have warned : _ = (executor.warned || densified) := leaves.warned
      rw [warned] at after total
      refine ⟨fun earlier episode rest split => ?_, ?_⟩
      · cases earlier with
        | nil =>
            obtain ⟨rfl, -⟩ := List.cons.inj split
            rw [← List.count_pos_iff, Episode.told, leaves.told, ← heeds]
            change 0 < (densified && !executor.warned).toNat ↔ _
            cases densified <;> cases executor.warned <;> simp
        | cons first earlier =>
            obtain ⟨rfl, others⟩ := List.cons.inj split
            rw [after earlier episode rest others, List.forall_mem_cons, ← heeds]
            cases densified <;> cases executor.warned <;> simp
      · rw [episodes, List.flatMap_cons, List.count_append, Episode.told, leaves.told]
        refine (Nat.add_le_add_left total _).trans ?_
        change (densified && !executor.warned).toNat + _ ≤ _
        cases densified <;> cases executor.warned <;> simp

/-- Whatever is handed to the platform over all turns of an executor is dense, and the application
is warned of strided inputs at most once: in the first turn whose arguments bind a strided tensor,
whatever the turn comes to. -/
theorem dense_and_warned_once (executor : Executor P) (turns : List (Turn P.journaled))
    (inside : ∀ episode ∈ executor.journaled.episodes turns, episode.InBounds) :
    (∀ episode ∈ executor.journaled.episodes turns,
        ∀ entry ∈ added episode.before episode.reached, entry.operation.Dense) ∧
      (∀ earlier episode later,
        executor.journaled.episodes turns = earlier ++ episode :: later →
          (Notice.stridedInput ∈ episode.told ↔ executor.warned = false ∧ episode.Heeds ∧
            ∀ other ∈ earlier, ¬ other.Heeds)) ∧
      ((executor.journaled.episodes turns).flatMap Episode.told).count .stridedInput ≤ 1 := by
  have fit := executor.subject.endures_tidy
  obtain ⟨first, total⟩ := @warned_episodes P executor.journaled fit turns inside
  exact ⟨@dense_episodes P executor.journaled fit turns, first, total.trans (Bool.toNat_le _)⟩

section Rehearsed

/-- Two rows of three numbers, with rows and columns exchanged. -/
def turned : Tensor :=
  ⟨.ofArray (.made 0) .f32 #[1, 2, 3, 4, 5, 6], ⟨⟨[3, 2]⟩, [1, 3], 0⟩⟩

theorem turned_inBounds : turned.InBounds := by
  have rows : (Tensor.dense (.made 0) .f32 [1, 2, 3, 4, 5, 6] ⟨[2, 3]⟩).InBounds :=
    Tensor.inBounds_dense rfl
  have made : [ViewStep.transpose 0 1].foldlM
      (fun tensor step => tensor.derive (.view step))
      (Tensor.dense (.made 0) .f32 [1, 2, 3, 4, 5, 6] ⟨[2, 3]⟩) = .ok turned := rfl
  exact rows.views made

/-- A rehearsed wrapper of a model with one input. -/
def attentive : Executor (Rehearsal.platform true) :=
  ⟨.own ⟨⟨[⟨"x", none⟩]⟩, [], false⟩,
    Options.initial.put "anchor_mode" (.int AnchorMode.all.code), false, ⟨0⟩, none, none, 0, false⟩

/-- A call on the exchanged numbers, in a new session in which some operations fail. -/
def strainedTurn (failing : List String) : Turn (Rehearsal.platform true).journaled :=
  ⟨.start (.start { Rehearsal.World.initial with failing := failing }), none, false,
    ⟨[.leaf (.tensor turned)], []⟩⟩

/-- A call whose compilation fails, and another one that goes through. -/
def strainedTurns : List (Turn (Rehearsal.platform true).journaled) :=
  [strainedTurn ["compile"], strainedTurn []]

/-- A single argument binds to a single parameter. -/
theorem strainedTurn_inBounds {failing : List String}
    {before : Running (Rehearsal.platform true).journaled}
    (single : (before.executor.subject.signature before.session).parameters.map
      (fun parameter => (parameter.name, parameter.default?.isNone)) = [("x", true)]) :
    (strainedTurn failing).InBounds before := by
  intro binding bound value there
  rw [Turn.bound] at bound
  generalize before.executor.subject.signature before.session = signature at single bound
  obtain ⟨parameters⟩ := signature
  obtain ⟨⟨name, default?⟩, rfl, same⟩ := List.map_eq_singleton_iff.mp single
  cases default? with
  | some default => cases same
  | none =>
      obtain rfl := Except.ok.inj bound
      obtain rfl := List.mem_singleton.mp there
      rintro tensor ⟨⟩
      exact turned_inBounds

/-- The first call warns although it fails, and the second one does not although it has to densify
its argument as well. -/
theorem warned_once_although_failed :
    (attentive.journaled.episodes strainedTurns).map
        (fun episode => (episode.told.count .stridedInput, episode.outcome.isOk)) =
          [(1, false), (0, true)] ∧
      ∀ episode ∈ attentive.journaled.episodes strainedTurns,
        ∀ entry ∈ added episode.before episode.reached, entry.operation.Dense := by
  have inside : ∀ episode ∈ attentive.journaled.episodes strainedTurns, episode.InBounds := by
    refine List.forall_mem_cons.mpr ⟨strainedTurn_inBounds rfl, List.forall_mem_cons.mpr ⟨?_, ?_⟩⟩
    · exact strainedTurn_inBounds (by decide +kernel)
    · simp [episodes]
  exact ⟨by decide +kernel, (dense_and_warned_once attentive strainedTurns inside).1⟩

end Rehearsed

end Executor

end Offload
