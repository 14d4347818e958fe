/-
# Errands

Most of what a wrapper has done for it needs no executable of its own: questions to the model,
casts, the capture, and refreshing the host through whatever hook is installed, which may fetch the
weights from the device of another wrapper. An errand is one elementary step of that kind, and
everything that is done for a wrapper up to its compilation, or to follow its model, is a chain of
errands. What a chain does to a session is proved from what one errand does.

A session in which only compiled devices are marked as ahead of the host never fails for a missing
executable on an errand.
-/

import Mathlib.Logic.Relation
import Offload.Proofs.Session.Question
import Offload.Proofs.Sparing

namespace Offload

namespace Operation

/-- The executable that the operation uses. -/
def use? : Operation → Option Tag
  | .execute tag _ _ => some tag
  | .copyToHost tag => some tag
  | .copyToDevice tag => some tag
  | .programText tag => some tag
  | _ => none

/-- The operation neither compiles nor uses an executable, and is a capture only if that is
allowed. -/
def isErrand (capturing : Bool) : Operation → Bool
  | .trace _ => capturing
  | .script => capturing
  | .compile _ _ => false
  | .execute _ _ _ => false
  | .copyToHost _ => false
  | .copyToDevice _ => false
  | .programText _ => false
  | _ => true

/-- An errand that is no capture is an errand. -/
theorem isErrand_of_false {capturing : Bool} {operation : Operation}
    (errand : operation.isErrand false = true) : operation.isErrand capturing = true := by
  cases operation <;> first | rfl | exact nomatch errand

theorem use?_of_isErrand {capturing : Bool} {operation : Operation}
    (errand : operation.isErrand capturing = true) : operation.use? = none := by
  cases operation <;> first | rfl | exact nomatch errand

end Operation

namespace Session

open Attempt Relation

variable {P : Platform}

/-- Changing a model in anything but its hook leaves every hook. -/
theorem sameHooks_update {models : Store (ModelCell P)} {number : Nat}
    {change : ModelCell P → ModelCell P} (same : ∀ cell, (change cell).hook = cell.hook)
    (other : Nat) : ((models.update number change).get other).hook = (models.get other).hook := by
  rw [Store.get_update]
  split
  · next here => rw [same, here]
  · rfl

/-- One elementary step for a wrapper that does not touch its executable. -/
inductive Errand (capturing : Bool) (before : Session P.journaled) : Session P.journaled → Prop where
  /-- The world, what the application was told, or the models changed, but no hook did. -/
  | turns (world : P.World) (notices : List Notice) (models : Store (ModelCell P.journaled))
      (hooks : ∀ number, (models.get number).hook = (before.models.get number).hook) :
      Errand capturing before
        { before with
          world := { before.world with world := world }
          notices := notices
          models := models }
  /-- Something was asked of the platform, with an outcome. -/
  | asks (operation : Operation) (succeeded : Bool) (world : P.World)
      (errand : operation.isErrand capturing = true) :
      Errand capturing before (before.asked operation succeeded world)
  /-- The weights of a device were fetched, since those on the host were stale. -/
  | fetches (id : DeviceId) (tagged : Tagged P.Executable) (world : P.World)
      (stale : (before.device id).hostStale = true)
      (there : (before.device id).executable = some tagged) :
      Errand capturing before (before.did (.copyToHost tagged.tag) world id fun device =>
        { device with hostStale := false })
  /-- Stale weights could not be fetched. -/
  | misses (id : DeviceId) (tagged : Tagged P.Executable) (world : P.World)
      (stale : (before.device id).hostStale = true)
      (there : (before.device id).executable = some tagged) :
      Errand capturing before (before.asked (.copyToHost tagged.tag) false world)

/-- Any number of errands, one after the other. -/
def Errands (capturing : Bool) : Session P.journaled → Session P.journaled → Prop :=
  ReflTransGen (Errand capturing)

variable {capturing : Bool} {before reached : Session P.journaled}

instance : IsPreorder (Session P.journaled) (Errands capturing) where
  refl _ := .refl
  trans _ _ _ := .trans

/-- Errands without a capture are errands. -/
theorem Errands.toCapture (errands : Errands false before reached) :
    Errands capturing before reached := by
  have each : Errand (P := P) false ≤ Errand capturing := by
    intro _ _ errand
    cases errand with
    | turns world notices models hooks => exact .turns world notices models hooks
    | asks operation succeeded world errand =>
        exact .asks operation succeeded world (Operation.isErrand_of_false errand)
    | fetches id tagged world stale there => exact .fetches id tagged world stale there
    | misses id tagged world stale there => exact .misses id tagged world stale there
  exact ReflTransGen.mono each _ _ errands

section Effect

/-- The operation fetches weights that are ahead of those on the host. -/
def Owes (session : Session P.journaled) (operation : Operation) : Prop :=
  ∃ id tagged, (session.device id).hostStale = true ∧
    (session.device id).executable = some tagged ∧ operation = .copyToHost tagged.tag

/-- What errands leave of a session: every executable, every mark of a stale device, and of the
marks of a stale host at most those that there were. The journal has grown by errands and by
fetches that were owed. -/
structure Ran (capturing : Bool) (before reached : Session P.journaled) : Prop where
  demanding : reached.world.demanding = before.world.demanding
  next : reached.devices.next = before.devices.next
  executable : ∀ id, (reached.device id).executable = (before.device id).executable
  deviceStale : ∀ id, (reached.device id).deviceStale = (before.device id).deviceStale
  hostStale : ∀ id, (reached.device id).hostStale = true → (before.device id).hostStale = true
  entries : ∃ more, reached.world.entries = before.world.entries ++ more ∧ ∀ entry ∈ more,
    entry.demanded = before.world.demanding ∧
      (entry.operation.isErrand capturing = true ∨ before.Owes entry.operation)

theorem Ran.owes {operation : Operation} (ran : Ran capturing before reached)
    (owes : reached.Owes operation) : before.Owes operation := by
  obtain ⟨id, tagged, stale, there, same⟩ := owes
  exact ⟨id, tagged, ran.hostStale id stale, ran.executable id ▸ there, same⟩

theorem Ran.trans {last : Session P.journaled} (ran : Ran capturing before reached)
    (later : Ran capturing reached last) : Ran capturing before last where
  demanding := later.demanding.trans ran.demanding
  next := later.next.trans ran.next
  executable id := (later.executable id).trans (ran.executable id)
  deviceStale id := (later.deviceStale id).trans (ran.deviceStale id)
  hostStale id stale := ran.hostStale id (later.hostStale id stale)
  entries := by
    obtain ⟨more, grown, each⟩ := ran.entries
    obtain ⟨more', grown', each'⟩ := later.entries
    refine ⟨more ++ more', by rw [grown', grown, List.append_assoc], fun entry there => ?_⟩
    rcases List.mem_append.mp there with there | there
    · exact each entry there
    · obtain ⟨demanded, kind⟩ := each' entry there
      exact ⟨demanded.trans ran.demanding, kind.imp_right ran.owes⟩

theorem Errand.ran (errand : Errand capturing before reached) : Ran capturing before reached := by
  cases errand with
  | turns world notices models hooks =>
      exact ⟨rfl, rfl, fun _ => rfl, fun _ => rfl, fun _ => id, [], (List.append_nil _).symm, by simp⟩
  | asks operation succeeded world errand =>
      exact ⟨rfl, rfl, fun _ => rfl, fun _ => rfl, fun _ => id, [_], rfl,
        by simpa using .inl errand⟩
  | misses id tagged world stale there =>
      exact ⟨rfl, rfl, fun _ => rfl, fun _ => rfl, fun _ marked => marked, [_], rfl,
        by simpa using .inr ⟨id, tagged, stale, there, rfl⟩⟩
  | fetches id tagged world stale there =>
      have only (other : DeviceId) : (before.did (.copyToHost tagged.tag) world id fun device =>
          { device with hostStale := false }).device other =
          { before.device other with
            hostStale := (before.device other).hostStale && other != id } := by
        rw [did_device]
        split
        · next same => simp [same]
        · next apart => rw [bne_iff_ne.mpr apart, Bool.and_true]
      refine ⟨rfl, rfl, fun other => by rw [only], fun other => by rw [only], fun other stale => ?_,
        [_], did_entries, by simpa using .inr ⟨id, tagged, stale, there, rfl⟩⟩
      rw [only] at stale
      exact (Bool.and_eq_true_iff.mp stale).1

/-- The effect of errands, by induction on their number. -/
theorem Errands.ran (errands : Errands capturing before reached) : Ran capturing before reached := by
  induction errands with
  | refl =>
      exact ⟨rfl, rfl, fun _ => rfl, fun _ => rfl, fun _ => id, [], (List.append_nil _).symm, by simp⟩
  | tail _ errand ih => exact ih.trans errand.ran

theorem Errand.hook (errand : Errand capturing before reached) (handle : Handle) :
    (reached.cell handle).hook = (before.cell handle).hook := by
  cases errand with
  | turns world notices models hooks => exact hooks handle.number
  | asks operation succeeded world errand => rfl
  | misses id tagged world stale there => rfl
  | fetches id tagged world stale there => rfl

/-- Errands change no hook. -/
theorem Errands.hook (errands : Errands capturing before reached) (handle : Handle) :
    (reached.cell handle).hook = (before.cell handle).hook := by
  induction errands with
  | refl => rfl
  | tail _ errand ih => exact (errand.hook handle).trans ih

end Effect

/-- Only a device with an executable is marked as ahead of the host. -/
def Supplied (session : Session P.journaled) : Prop :=
  ∀ id, (session.device id).hostStale = true → (session.device id).executable.isSome = true

theorem Errands.supplied (errands : Errands capturing before reached) (supplied : before.Supplied) :
    reached.Supplied := by
  intro id stale
  rw [errands.ran.executable id]
  exact supplied id (errands.ran.hostStale id stale)

/-- What is done are errands; and in a civil world nothing fails for a missing executable unless a
device without one was marked as ahead of the host. -/
def errandsVerdict (capturing : Bool) (civil : Prop) : Verdict (Session P.journaled) :=
  .barring (Errands capturing) (fun session => civil ∧ session.Supplied)
    (fun errands condition => ⟨condition.1, errands.supplied condition.2⟩) .notCompiled

section Abides

variable {civil : Prop} {α : Type}

theorem refuses_errands (session : Session P.journaled) (cause : Error)
    (apart : cause ≠ .notCompiled) :
    (errandsVerdict (P := P) capturing civil).bad session cause session :=
  ⟨.refl, fun _ => apart⟩

/-- Something that is asked of the platform for a wrapper is an errand. -/
theorem abides_asking {operation : Operation} {step : Attempt P.World α}
    (errand : operation.isErrand capturing = true)
    (spares : civil → step.Abides (.sparing .notCompiled)) :
    (onWorld (P := P.journaled) (Journaled.noting operation step)).Abides
      (errandsVerdict capturing civil) := by
  refine fun session => (ends_onWorld_noted operation step session).mono ?_ ?_
  · rintro _ _ ⟨world, -, rfl⟩
    exact .single (.asks operation true world errand)
  · rintro cause _ ⟨world, ended, rfl⟩
    refine ⟨.single (.asks operation false world errand), fun condition => ?_⟩
    exact (spares condition.1 session.world.world).error ended

theorem abides_turning {change : Session P.journaled → Session P.journaled}
    (turns : ∀ session, ∃ world notices models,
      (∀ number, (models.get number).hook = (session.models.get number).hook) ∧
        change session =
          { session with
            world := { session.world with world := world }
            notices := notices
            models := models }) :
    (modify change : Attempt (Session P.journaled) Unit).Abides
      (errandsVerdict capturing civil) := by
  refine abides_modify fun session => ?_
  obtain ⟨world, notices, models, hooks, same⟩ := turns session
  rw [same]
  exact .single (.turns world notices models hooks)

theorem tolerates_errands (spares : civil → P.Spares .notCompiled) :
    Tolerates (errandsVerdict (P := P) capturing civil) where
  notices session notices :=
    .single (.turns session.world.world notices session.models fun _ => rfl)
  refuses := refuses_errands
  forward model inputs :=
    abides_asking rfl fun holds => (spares holds).forward model inputs
  parameters model :=
    abides_asking rfl fun holds => (spares holds).parameters model
  layers model :=
    abides_asking rfl fun holds => (spares holds).layers model

theorem abides_loss {loss : Loss P}
    (spares : civil → ∀ output target, (loss.journaled output target).Abides (.sparing .notCompiled))
    (output target : Tree) :
    (onWorld (P := P.journaled) (loss.journaled output target)).Abides
      (errandsVerdict capturing civil) := by
  intro session
  have turns (world : P.World) :
      Errands capturing session { session with world := { session.world with world := world } } :=
    .single (.turns world session.notices session.models fun _ => rfl)
  have ended : (loss.journaled output target).perform session.world =
      (((loss output target).perform session.world.world).1,
        { session.world with world := ((loss output target).perform session.world.world).2 }) := rfl
  rw [onWorld, ends_within]
  refine (ends_perform (loss.journaled output target) session.world).mono ?_ ?_
  · intro value reached succeeded
    obtain ⟨-, rfl⟩ := Prod.mk.inj (ended.symm.trans succeeded)
    exact turns _
  · intro cause reached failed
    refine ⟨?_, fun condition => (spares condition.1 output target session.world).error failed⟩
    obtain ⟨-, rfl⟩ := Prod.mk.inj (ended.symm.trans failed)
    exact turns _

/-- Refreshing stale host weights are errands, whichever device they come from. -/
theorem abides_fetchIfStale (spares : civil → P.Spares .notCompiled) (id : DeviceId) :
    (fetchIfStale (P := P.journaled) id).Abides (errandsVerdict capturing civil) := by
  intro session
  have notices : Errands capturing session
      { session with notices := session.notices ++ [.fetchingWeights] } :=
    .single (.turns session.world.world _ session.models fun _ => rfl)
  simp only [fetchIfStale, ends_bind, ends_get]
  split
  · next stale =>
      rw [ends_bind, notify, ends_modify, ends_bind]
      refine (ends_copying id _ _).mono ?_ ?_
      · rintro _ _ ⟨tagged, world, there, -, rfl⟩
        exact .tail notices (.fetches id tagged world stale there)
      · rintro cause _ (⟨missing, rfl, rfl⟩ | ⟨tagged, world, there, ended, rfl⟩)
        · refine ⟨notices, fun condition => ?_⟩
          have compiled := condition.2 id stale
          rw [show (session.device id).executable = none from missing] at compiled
          cases compiled
        · exact ⟨.tail notices (.misses id tagged world stale there), fun condition =>
            ((spares condition.1).copyToHost tagged.executable _).error ended⟩
  · exact .refl

/-- Refreshing a model through its hook are errands. -/
theorem abides_resolve (spares : civil → P.Spares .notCompiled) (handle : Handle) :
    (resolve (P := P.journaled) handle).Abides (errandsVerdict capturing civil) := by
  have hooks (hook : Option (RefreshHook P.journaled)) :
      (runHook hook).Abides (errandsVerdict capturing civil) := by
    rcases hook with _ | ⟨id⟩ | ⟨hook⟩
    · exact abides_pure _
    · exact abides_fetchIfStale spares id
    · exact abides_asking rfl fun holds => (spares holds).refresh hook
  refine abides_bind abides_get fun session => abides_bind (hooks _) fun refreshed => ?_
  dsimp only
  split
  · refine abides_bind (abides_turning fun session => ?_) fun _ => abides_pure _
    refine ⟨session.world.world, session.notices, _, ?_, rfl⟩
    exact sameHooks_update fun _ => rfl
  · exact abides_pure _

theorem abides_forward (spares : civil → P.Spares .notCompiled) (handle : Handle)
    (inputs : List Tree) :
    (forward (P := P.journaled) handle inputs).Abides (errandsVerdict capturing civil) :=
  abides_bind (abides_resolve spares handle) fun _ =>
    abides_forwardAsIs (tolerates_errands spares) handle inputs

theorem abides_parameters (spares : civil → P.Spares .notCompiled) (handle : Handle) :
    (parameters (P := P.journaled) handle).Abides (errandsVerdict capturing civil) :=
  abides_bind (abides_resolve spares handle) fun _ =>
    abides_parametersAsIs (tolerates_errands spares) handle

/-- Casting a model changes it and leaves an entry. -/
theorem abides_castLayer (spares : civil → P.Spares .notCompiled) (handle : Handle)
    (layer : String) (dtype : DType) :
    (castLayer (P := P.journaled) handle layer dtype).Abides (errandsVerdict capturing civil) := by
  have casts : (within (modelFocus handle) (P.journaled.model.castLayer layer dtype)).Abides
      (errandsVerdict capturing civil) := by
    intro session
    have errands (part : P.Model × P.World) (succeeded : Bool) :
        Errands capturing session ((modelFocus handle).set
          (part.1, session.world.asked (.castLayer layer dtype) succeeded part.2) session) :=
      .tail (.single (.turns part.2 session.notices (session.models.update handle.number fun cell =>
          { cell with model := part.1 }) (sameHooks_update fun _ => rfl)))
        (.asks (.castLayer layer dtype) succeeded part.2 rfl)
    rw [ends_within]
    refine (Journaled.ends_notingBeside _ _ _).mono ?_ ?_
    · rintro _ _ ⟨part, -, rfl⟩
      exact errands part true
    · rintro cause _ ⟨part, ended, rfl⟩
      exact ⟨errands part false, fun condition =>
        ((spares condition.1).castLayer layer dtype _).error ended⟩
  refine abides_bind abides_get fun session => ?_
  dsimp only
  split
  · exact abides_bind (abides_throw fun session => refuses_errands session _ (by simp))
      fun _ => casts
  · exact casts

end Abides

end Session

end Offload
