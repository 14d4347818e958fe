/-
# What is done for a model on the way

Until a call executes, all that it may change of a session besides a device is that stale weights of
the model that is followed are refreshed. `Attends` says so of two sessions: the site is the one that
it was, or the refreshed one, and the models are held and hooked up as before. The steps for a model
are judged here one by one: the questions that refresh nothing, the refresh itself, and casts. A step
that fails is to blame on an entry that failed, if it is a step whose failure ends a call.
-/

import Offload.Proofs.Retry.Contract
import Offload.Proofs.Retry.Standing
import Offload.Proofs.Session.Step
import Offload.Proofs.Workshop.Trace

namespace Offload

namespace Session

open Attempt

variable {P : Platform} (flag : P.World → Bool) (followed : Option Handle)

/-- Where stale weights of the model that is followed are refreshed from. -/
def followedHook? (session : Session P.journaled) : Option (RefreshHook P.journaled) :=
  followed.bind fun handle => (session.cell handle).hook

/-- A hook outside the library would refresh the host weights, as a flag says. -/
def waits (world : P.World) : Option (RefreshHook P.journaled) → Bool
  | some (.outside _) => flag world
  | _ => false

/-- The site of an executor that follows a model, if it does. A flag says whether a hook outside the
library would refresh it. -/
def site (session : Session P.journaled) : Site P.journaled where
  followed := followed
  hook := session.followedHook? followed
  marks id :=
    ⟨(session.device id).executable.isSome, (session.device id).hostStale,
      (session.device id).deviceStale⟩
  refreshes handle := (session.cell handle).refreshes
  waiting := waits flag session.world.world (session.followedHook? followed)

/-- A model is held for writing and hooked up as before, and declares the same parameters. -/
structure SameCell (before reached : ModelCell P.journaled) : Prop where
  writing : reached.writing = before.writing
  hook : reached.hook = before.hook
  signature : P.model.signature reached.model = P.model.signature before.model

/-- Something was done for a model, without executing. Stale weights may have been refreshed, if that
is allowed. -/
structure Attends (refreshing : Prop) (before reached : Session P.journaled) : Prop where
  cells : ∀ handle, SameCell (before.cell handle) (reached.cell handle)
  grows : Journaled.Grows (fun entry => entry.executes = false) before.world reached.world
  site : reached.site flag followed = before.site flag followed ∨
    refreshing ∧ (before.site flag followed).Supplied ∧
      reached.site flag followed = (before.site flag followed).refreshed

/-- A failure is to blame on somebody who holds a model, or on an entry that was added and failed. -/
def Blamed (before : Session P.journaled) (cause : Error) (reached : Session P.journaled) : Prop :=
  cause.Holding ∨ ∃ more, reached.world.entries = before.world.entries ++ more ∧
    ∃ entry ∈ more, entry.succeeded = false

/-- A hook outside the library keeps to its flag. -/
def Signalled (session : Session P.journaled) : Prop :=
  ∀ hook, session.followedHook? followed = some (.outside hook) → P.Signals hook flag

variable {flag followed} {refreshing : Prop} {before reached last : Session P.journaled}

theorem SameCell.refl (cell : ModelCell P.journaled) : SameCell cell cell := ⟨rfl, rfl, rfl⟩

theorem SameCell.trans {first second third : ModelCell P.journaled} (same : SameCell first second)
    (later : SameCell second third) : SameCell first third where
  writing := later.writing.trans same.writing
  hook := later.hook.trans same.hook
  signature := later.signature.trans same.signature

/-- A model that stayed the same is called with the same arguments. -/
theorem SameCell.signature_eq {handle : Handle}
    (same : SameCell (before.cell handle) (reached.cell handle)) :
    reached.signature handle = before.signature handle := by
  rw [Session.signature, Session.signature, same.writing]
  split
  · rfl
  · exact same.signature

theorem Attends.refl (session : Session P.journaled) :
    Attends flag followed refreshing session session :=
  ⟨fun _ => .refl _, refl_of (Journaled.Grows _) session.world, .inl rfl⟩

theorem Attends.trans (attends : Attends flag followed refreshing before reached)
    (later : Attends flag followed refreshing reached last) :
    Attends flag followed refreshing before last where
  cells handle := (attends.cells handle).trans (later.cells handle)
  grows := trans_of (Journaled.Grows _) attends.grows later.grows
  site := by
    rcases attends.site with same | ⟨may, supplied, refreshed⟩ <;>
      rcases later.site with same' | ⟨may', supplied', refreshed'⟩
    · exact .inl (same'.trans same)
    · exact .inr ⟨may', same ▸ supplied', by rw [refreshed', same]⟩
    · exact .inr ⟨may, supplied, same'.trans refreshed⟩
    · exact .inr ⟨may, supplied, by rw [refreshed', refreshed, Site.refreshed_refreshed]⟩

/-- What was done without refreshing may be judged as if it were allowed. -/
theorem Attends.mono {wider : Prop} (attends : Attends flag followed refreshing before reached)
    (weaker : refreshing → wider) : Attends flag followed wider before reached :=
  ⟨attends.cells, attends.grows, attends.site.imp_right (And.imp_left weaker)⟩

theorem Attends.hook (attends : Attends flag followed refreshing before reached) :
    reached.followedHook? followed = before.followedHook? followed := by
  unfold followedHook?
  cases followed with
  | none => rfl
  | some handle => exact (attends.cells handle).hook

theorem Attends.signalled (attends : Attends flag followed refreshing before reached)
    (signalled : before.Signalled flag followed) : reached.Signalled flag followed :=
  fun hook same => signalled hook (attends.hook ▸ same)

/-- Weights that are not stale do not become stale. -/
theorem Attends.calm (attends : Attends flag followed refreshing before reached)
    (calm : (before.site flag followed).stale = false) :
    (reached.site flag followed).stale = false := by
  rcases attends.site with same | ⟨-, -, refreshed⟩
  · rwa [same]
  · rwa [refreshed, Site.refreshed_of_calm calm]

/-- What may not refresh keeps the flag of a hook outside the library. -/
theorem Attends.flag_kept {hook : P.journaled.Hook}
    (attends : Attends flag followed False before reached)
    (there : before.followedHook? followed = some (.outside hook)) :
    flag reached.world.world = flag before.world.world := by
  have same : reached.site flag followed = before.site flag followed :=
    attends.site.resolve_right And.left
  have waiting := congrArg Site.waiting same
  unfold Session.site at waiting
  rwa [attends.hook, there] at waiting

/-- What was added before makes no difference. -/
theorem Blamed.grown {cause : Error} {more : List Entry} (blamed : Blamed reached cause last)
    (grown : reached.world.entries = before.world.entries ++ more) : Blamed before cause last := by
  refine blamed.imp_right ?_
  rintro ⟨more', grown', entry, there, failed⟩
  exact ⟨more ++ more', by rw [grown', grown, List.append_assoc], entry,
    List.mem_append_right _ there, failed⟩

theorem Attends.blamed (attends : Attends flag followed refreshing before reached)
    {cause : Error} (blamed : Blamed reached cause last) : Blamed before cause last := by
  obtain ⟨-, more, grown, -⟩ := attends.grows
  exact blamed.grown grown

theorem Blamed.later {cause : Error} (blamed : Blamed before cause reached)
    (attends : Attends flag followed refreshing reached last) : Blamed before cause last := by
  refine blamed.imp_right ?_
  rintro ⟨more, grown, entry, there, failed⟩
  obtain ⟨-, more', grown', -⟩ := attends.grows
  exact ⟨more ++ more', by rw [grown', grown, List.append_assoc], entry,
    List.mem_append_left _ there, failed⟩

theorem blamed_asked {operation : Operation} {world : P.World} {cause : Error} :
    Blamed before cause (before.asked operation false world) :=
  .inr ⟨[_], rfl, _, List.mem_singleton_self _, rfl⟩

/-- A session is the site that it was if its devices and counts are, and the flag of a hook outside
the library was not changed. -/
theorem site_eq (devices : reached.devices = before.devices)
    (hook : reached.followedHook? followed = before.followedHook? followed)
    (refreshes : ∀ handle, (reached.cell handle).refreshes = (before.cell handle).refreshes)
    (flags : ∀ hook, before.followedHook? followed = some (.outside hook) →
      flag reached.world.world = flag before.world.world) :
    reached.site flag followed = before.site flag followed := by
  unfold Session.site
  simp only [Site.mk.injEq, true_and]
  refine ⟨hook, ?_, funext refreshes, ?_⟩
  · unfold Session.device
    rw [devices]
  · rw [hook]
    cases same : before.followedHook? followed with
    | none => rfl
    | some source =>
        cases source with
        | device id => rfl
        | outside outside => exact flags outside same

/-- Something that was asked of the platform leaves the site as it is. -/
theorem attends_asked {operation : Operation} {succeeded : Bool} {world : P.World}
    (kind : ∀ demanded, (⟨operation, succeeded, demanded⟩ : Entry).executes = false)
    (flags : ∀ hook, before.followedHook? followed = some (.outside hook) →
      flag world = flag before.world.world) :
    Attends flag followed refreshing before (before.asked operation succeeded world) where
  cells _ := .refl _
  grows := Journaled.grows_asked world _ (kind _)
  site := .inl (site_eq rfl rfl (fun _ => rfl) flags)

theorem attends_notices (notices : List Notice) :
    Attends flag followed refreshing before { before with notices := notices } where
  cells _ := .refl _
  grows := refl_of (Journaled.Grows _) before.world
  site := .inl rfl

section Steps

variable {α : Type}

/-- Something is asked of the platform that does not change the flag of a hook outside the
library. -/
theorem ends_asking {operation : Operation} {step : Attempt P.World α}
    (kind : ∀ succeeded demanded, (⟨operation, succeeded, demanded⟩ : Entry).executes = false)
    (keeps : ∀ hook, before.followedHook? followed = some (.outside hook) →
      step.Obeys (SameFlag flag)) :
    (onWorld (P := P.journaled) (Journaled.noting operation step)).Ends before
      (fun _ reached => Attends flag followed refreshing before reached)
      fun cause reached => Attends flag followed refreshing before reached ∧
        Blamed before cause reached := by
  have same (hook : P.journaled.Hook)
      (there : before.followedHook? followed = some (.outside hook)) {outcome : Result α}
      {world : P.World} (ended : step.perform before.world.world = (outcome, world)) :
      flag world = flag before.world.world := by
    have kept := keeps hook there before.world.world
    rwa [ended] at kept
  refine (ends_onWorld_noted operation step before).mono ?_ ?_
  · rintro _ _ ⟨world, ended, rfl⟩
    exact attends_asked (kind _) fun hook there => same hook there ended
  · rintro cause _ ⟨world, ended, rfl⟩
    exact ⟨attends_asked (kind _) fun hook there => same hook there ended, blamed_asked⟩

/-- The model of a handle is there for reading if nobody holds it. -/
theorem ends_borrow {handle : Handle} {good : P.Model → Session P.journaled → Prop}
    {bad : Error → Session P.journaled → Prop}
    (good_of : good (before.cell handle).model before)
    (bad_of : bad .heldForWriting before) :
    (borrow (P := P.journaled) handle).Ends before good bad := by
  rw [borrow, ends_bind, ends_get]
  dsimp only
  split
  · exact bad_of
  · exact good_of

/-- Asking for the layers of a model fails with an entry, or because somebody holds the model. -/
theorem ends_layers (handle : Handle) (signalled : before.Signalled flag followed) :
    (layers (P := P.journaled) handle).Ends before
      (fun _ reached => Attends flag followed refreshing before reached)
      fun cause reached => Attends flag followed refreshing before reached ∧
        Blamed before cause reached := by
  rw [layers, ends_bind]
  refine ends_borrow ?_ ⟨.refl _, .inl (.inr rfl)⟩
  exact ends_asking (fun _ _ => rfl) fun hook there => (signalled hook there).layers _

theorem ends_parametersAsIs (handle : Handle) (signalled : before.Signalled flag followed) :
    (parametersAsIs (P := P.journaled) handle).Ends before
      (fun _ reached => Attends flag followed refreshing before reached)
      fun _ reached => Attends flag followed refreshing before reached := by
  rw [parametersAsIs, ends_bind]
  refine ends_borrow ?_ (.refl _)
  exact (ends_asking (fun _ _ => rfl) fun hook there =>
    (signalled hook there).parameters _).mono (fun _ _ => id) fun _ _ => And.left

theorem ends_forwardAsIs (handle : Handle) (inputs : List Tree)
    (signalled : before.Signalled flag followed) :
    (forwardAsIs (P := P.journaled) handle inputs).Ends before
      (fun _ reached => Attends flag followed refreshing before reached)
      fun _ reached => Attends flag followed refreshing before reached := by
  rw [forwardAsIs, ends_bind]
  refine ends_borrow ?_ (.refl _)
  exact (ends_asking (fun _ _ => rfl) fun hook there =>
    (signalled hook there).forward _ _).mono (fun _ _ => id) fun _ _ => And.left

end Steps

section Refresh

variable {handle : Handle}

/-- The refresh of a model was counted. -/
def counted (handle : Handle) (session : Session P.journaled) : Session P.journaled :=
  { session with
    models := session.models.update handle.number fun cell =>
      { cell with refreshes := cell.refreshes + 1 } }

theorem counted_cell (handle other : Handle) (session : Session P.journaled) :
    (session.counted handle).cell other =
      if other = handle then
        { session.cell handle with refreshes := (session.cell handle).refreshes + 1 }
      else session.cell other := cell_update _ _ _ _

theorem sameCell_counted (handle other : Handle) (session : Session P.journaled) :
    SameCell (session.cell other) ((session.counted handle).cell other) := by
  rw [counted_cell]
  split
  · next same =>
      subst same
      exact ⟨rfl, rfl, rfl⟩
  · exact .refl _

/-- After weights that were stale were fetched and that was counted, the site is refreshed. -/
theorem site_counted {ready : Session P.journaled}
    (cells : ∀ other, ready.cell other = before.cell other)
    (stale : (before.site flag (some handle)).stale = true)
    (site : ready.site flag (some handle) = (before.site flag (some handle)).fetched) :
    (ready.counted handle).site flag (some handle) =
      (before.site flag (some handle)).refreshed := by
  have hook : (ready.counted handle).followedHook? (some handle) =
      ready.followedHook? (some handle) :=
    (sameCell_counted handle handle ready).hook
  have kept : (ready.counted handle).site flag (some handle) =
      { ready.site flag (some handle) with
        refreshes := fun other => ((ready.counted handle).cell other).refreshes } := by
    unfold Session.site
    rw [hook]
    rfl
  rw [kept, site, Site.refreshed]
  simp only [stale, if_true]
  refine congrArg (fun refreshes => { (before.site flag (some handle)).fetched with
    refreshes := refreshes }) (funext fun other => ?_)
  rw [counted_cell, cells, cells]
  unfold Session.site
  dsimp only
  split
  · next same => rw [same]
  · rfl

/-- Weights that were stale were fetched through the hook of a model. -/
structure Fetches (flag : P.World → Bool) (handle : Handle) (before ready : Session P.journaled) :
    Prop where
  cells : ∀ other, ready.cell other = before.cell other
  grows : Journaled.Grows (fun entry => entry.executes = false) before.world ready.world
  stale : (before.site flag (some handle)).stale = true
  supplied : (before.site flag (some handle)).Supplied
  site : ready.site flag (some handle) = (before.site flag (some handle)).fetched

/-- The weights of a device were fetched. -/
theorem fetches_device {id : DeviceId} {tagged : Tagged P.Executable} {world : P.World}
    {notices : List Notice} (hooked : (before.cell handle).hook = some (.device id))
    (stale : (before.device id).hostStale = true)
    (there : (before.device id).executable = some tagged) :
    Fetches flag handle before
      (did (.copyToHost tagged.tag) world id (fun device => { device with hostStale := false })
        { before with notices := notices }) where
  cells _ := rfl
  grows := Journaled.grows_asked world _ rfl
  stale := by
    rw [Site.stale, show (before.site flag (some handle)).hook = _ from hooked]
    exact stale
  supplied source same _ := by
    obtain rfl := RefreshHook.device.inj (Option.some.inj (hooked.symm.trans same))
    show (before.device id).executable.isSome = true
    rw [there]
    rfl
  site := by
    have hook : (before.site flag (some handle)).hook = some (.device id) := hooked
    rw [Site.fetched, hook]
    unfold Session.site
    simp only [Site.update, Site.mk.injEq, true_and]
    refine ⟨rfl, funext fun other => ?_, rfl, ?_⟩
    · rw [did_device]
      split <;> rfl
    · show waits flag world (before.cell handle).hook =
        waits flag before.world.world (before.cell handle).hook
      rw [hooked]
      rfl

/-- The weights wait at a hook outside the library if the flag says so. -/
theorem site_waiting {hook : P.journaled.Hook}
    (hooked : (before.cell handle).hook = some (.outside hook)) :
    (before.site flag (some handle)).waiting = flag before.world.world := by
  show waits flag before.world.world (before.cell handle).hook = _
  rw [hooked]
  rfl

theorem stale_outside {hook : P.journaled.Hook}
    (hooked : (before.cell handle).hook = some (.outside hook)) :
    (before.site flag (some handle)).stale = flag before.world.world := by
  rw [Site.stale, show (before.site flag (some handle)).hook = _ from hooked]
  exact site_waiting hooked

/-- A hook outside the library refreshed the weights. -/
theorem fetches_outside {hook : P.journaled.Hook} {world : P.World}
    (hooked : (before.cell handle).hook = some (.outside hook))
    (raised : flag before.world.world = true) (lowered : flag world = false) :
    Fetches flag handle before (before.asked .refresh true world) where
  cells _ := rfl
  grows := Journaled.grows_asked world _ rfl
  stale := (stale_outside hooked).trans raised
  supplied source same _ := nomatch hooked.symm.trans same
  site := by
    have hooked' : ((before.asked .refresh true world).cell handle).hook =
        some (.outside hook) := hooked
    unfold Site.fetched
    split
    · next id same => exact nomatch hooked.symm.trans same
    · rw [← lowered, ← show _ = flag world from site_waiting hooked']
      rfl

/-- The hook of a model fetches stale weights. -/
theorem ends_runHook (signalled : before.Signalled flag (some handle)) :
    (runHook (P := P.journaled) (before.cell handle).hook).Ends before
      (fun copied ready => if copied then Fetches flag handle before ready else
        Attends flag (some handle) False before ready ∧
          (before.site flag (some handle)).stale = false)
      fun cause reached => Attends flag (some handle) False before reached ∧
        ((before.site flag (some handle)).Supplied → Blamed before cause reached) := by
  rcases hooked : (before.cell handle).hook with _ | ⟨id⟩ | ⟨hook⟩
  · have calm : (before.site flag (some handle)).stale = false := by
      rw [Site.stale, show (before.site flag (some handle)).hook = none from hooked]
    exact ⟨.refl _, calm⟩
  · simp only [runHook, fetchIfStale, ends_bind, ends_get]
    split
    · next stale =>
        rw [ends_bind, notify, ends_modify, ends_bind]
        refine (ends_copying id _ _).mono ?_ ?_
        · rintro _ _ ⟨tagged, world, there, -, rfl⟩
          exact fetches_device hooked stale there
        · rintro cause _ (⟨missing, -, rfl⟩ | ⟨tagged, world, there, -, rfl⟩)
          · refine ⟨attends_notices _, fun supplied => ?_⟩
            have compiled : (before.device id).executable.isSome = true :=
              supplied id hooked stale
            rw [show (before.device id).executable = none from missing] at compiled
            cases compiled
          · refine ⟨(attends_notices _).trans (attends_asked (fun _ => rfl) fun hook same => ?_),
              fun _ => blamed_asked⟩
            cases hooked.symm.trans same
    · next calm =>
        refine ⟨.refl _, ?_⟩
        rw [Site.stale, show (before.site flag (some handle)).hook = _ from hooked]
        exact Bool.not_eq_true _ ▸ calm
  · have signals := signalled hook hooked
    have signalling := signals.refresh before.world.world
    refine (ends_onWorld_noted .refresh (P.refresh hook) before).mono ?_ ?_
    · rintro copied _ ⟨world, ended, rfl⟩
      obtain ⟨rfl, lowered⟩ := signalling.ok ended
      split
      · next raised => exact fetches_outside hooked raised lowered
      · next calm =>
          have same : flag world = flag before.world.world :=
            lowered.trans (Bool.not_eq_true _ ▸ calm).symm
          exact ⟨attends_asked (fun _ => rfl) fun _ _ => same,
            (stale_outside hooked).trans (Bool.not_eq_true _ ▸ calm)⟩
    · rintro cause _ ⟨world, ended, rfl⟩
      have same : flag world = flag before.world.world := signalling.error ended
      exact ⟨attends_asked (fun _ => rfl) fun _ _ => same, fun _ => blamed_asked⟩

/-- Refreshing a model brings its site up to date. It fails with an entry, unless its weights are
with a device that has no executable. -/
theorem ends_resolve (signalled : before.Signalled flag (some handle)) :
    (resolve (P := P.journaled) handle).Ends before
      (fun _ reached => Attends flag (some handle) True before reached ∧
        (before.site flag (some handle)).Supplied ∧
          reached.site flag (some handle) = (before.site flag (some handle)).refreshed)
      fun cause reached => Attends flag (some handle) False before reached ∧
        ((before.site flag (some handle)).Supplied → Blamed before cause reached) := by
  rw [resolve, ends_bind, ends_get, ends_bind]
  refine (ends_runHook signalled).mono (fun copied ready ended => ?_) fun _ _ => id
  cases copied with
  | true =>
      obtain ⟨cells, grows, stale, supplied, site⟩ := ended
      have refreshed := site_counted cells stale site
      simp only [if_true, updateCell, ends_bind, ends_modify, ends_pure]
      refine ⟨⟨fun other => ?_, grows, .inr ⟨trivial, supplied, refreshed⟩⟩, supplied, refreshed⟩
      exact cells other ▸ sameCell_counted handle other ready
  | false =>
      obtain ⟨attends, calm⟩ := ended
      have same : ready.site flag (some handle) = before.site flag (some handle) :=
        attends.site.resolve_right fun may => may.1
      refine ⟨⟨attends.cells, attends.grows, .inl same⟩, fun id hooked stale => ?_, ?_⟩
      · rw [Site.stale, hooked] at calm
        cases calm.symm.trans stale
      · rw [same, Site.refreshed_of_calm calm]

end Refresh

/-- A model became another one, with the world as it is now. -/
def remodelled (handle : Handle) (model : P.Model) (world : Journaled P.World)
    (session : Session P.journaled) : Session P.journaled :=
  { session with
    world := world
    models := session.models.update handle.number fun cell => { cell with model := model } }

theorem remodelled_cell (handle other : Handle) (model : P.Model) (world : Journaled P.World)
    (session : Session P.journaled) : (session.remodelled handle model world).cell other =
      if other = handle then { session.cell handle with model := model }
      else session.cell other := cell_update session handle other _

/-- A model that declares the same parameters took the place of another one. -/
theorem attends_remodelled {handle : Handle} {model : P.Model} {operation : Operation}
    {succeeded : Bool} {world : P.World}
    (signature : P.model.signature model = P.model.signature (before.cell handle).model)
    (kind : ∀ demanded, (⟨operation, succeeded, demanded⟩ : Entry).executes = false)
    (flags : ∀ hook, before.followedHook? followed = some (.outside hook) →
      flag world = flag before.world.world) :
    Attends flag followed refreshing before
      (before.remodelled handle model (before.world.asked operation succeeded world)) := by
  have cells (other : Handle) : SameCell (before.cell other)
      ((before.remodelled handle model (before.world.asked operation succeeded world)).cell
        other) := by
    rw [remodelled_cell]
    split
    · next same =>
        subst same
        exact ⟨rfl, rfl, signature⟩
    · exact .refl _
  refine ⟨cells, Journaled.grows_asked world _ (kind _), .inl (site_eq rfl ?_ (fun other => ?_) flags)⟩
  · cases followed with
    | none => rfl
    | some source => exact (cells source).hook
  · rw [remodelled_cell]
    split
    · next same => rw [same]
    · rfl

/-- Casting a model fails with an entry, or because somebody holds the model, and leaves the model to
declare the same parameters. -/
theorem ends_castLayer (handle : Handle) (layer : String) (dtype : DType)
    (signatures : P.KeepsSignatures) (signalled : before.Signalled flag followed) :
    (castLayer (P := P.journaled) handle layer dtype).Ends before
      (fun _ reached => Attends flag followed refreshing before reached)
      fun cause reached => Attends flag followed refreshing before reached ∧
        Blamed before cause reached := by
  have casts (part : P.Model × P.World) (succeeded : Bool) {outcome : Result Unit}
      (ended : (P.model.castLayer layer dtype).perform
        ((before.cell handle).model, before.world.world) = (outcome, part)) :
      Attends flag followed refreshing before (before.remodelled handle part.1
        (before.world.asked (.castLayer layer dtype) succeeded part.2)) := by
    have signature := signatures layer dtype (before.cell handle).model before.world.world
    rw [ended] at signature
    refine attends_remodelled signature (fun _ => rfl) fun hook there => ?_
    have kept := (signalled hook there).castLayer layer dtype
      ((before.cell handle).model, before.world.world)
    rw [ended] at kept
    exact kept
  rw [castLayer, ends_bind, ends_get]
  dsimp only
  split
  · exact ⟨.refl _, .inl (.inl rfl)⟩
  · rw [ends_within]
    refine (Journaled.ends_notingBeside _ _ _).mono ?_ ?_
    · rintro _ _ ⟨part, ended, rfl⟩
      exact casts part true ended
    · rintro cause _ ⟨part, ended, rfl⟩
      exact ⟨casts part false ended, .inr ⟨[_], rfl, _, List.mem_singleton_self _, rfl⟩⟩

end Session

end Offload
