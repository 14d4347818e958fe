/-
# Reading a model

What reading a model does to the balance of its session. Questions that do not refresh are idle.
A refresh fetches the weights of the trainer exactly when they are ahead of those on the host, and
when it succeeds the host has the newest. `Steady` is what is left of this for those who only need
that a step keeps the balance and touches no executable.
-/

import Offload.Proofs.Session.Question
import Offload.Proofs.Weights.Movement

namespace Offload.Session

open Attempt

variable {P : Platform} {handle : Handle} {trainer : Option DeviceId}

section Idle

/-- Asking the platform something that says nothing of the weights. -/
theorem obeys_onWorld_noting {α : Type} {operation : Operation} (step : Attempt P.World α)
    (idle : ∀ succeeded demanded, (⟨operation, succeeded, demanded⟩ : Entry).isIdle) :
    (onWorld (P := P.journaled) (Journaled.noting operation step)).Obeys (Idles handle) :=
  obeys_of_ends fun session => (ends_onWorld_noting operation step session).mono
    (fun _ _ ⟨world, ended⟩ => ended ▸ idles_asked world session (idle _ _))
    fun _ _ ⟨world, ended⟩ => ended ▸ idles_asked world session (idle _ _)

theorem bears_idles : Bears (P := P) (Idles handle) where
  notices session _ := ⟨refl_of _ session.world, rfl, rfl, rfl⟩
  forward _ step := obeys_onWorld_noting step fun _ _ => rfl
  parameters step := obeys_onWorld_noting step fun _ _ => rfl
  layers step := obeys_onWorld_noting step fun _ _ => rfl
  loss _ _ := ⟨⟨rfl, [], (List.append_nil _).symm, by simp⟩, rfl, rfl, rfl⟩

theorem obeys_castLayer (layer : String) (dtype : DType) :
    (castLayer (P := P.journaled) handle layer dtype).Obeys (Idles handle) := by
  unfold castLayer
  refine obeys_bind obeys_get fun session => ?_
  dsimp only
  have casts : (within (modelFocus handle)
      (P.journaled.model.castLayer layer dtype)).Obeys (Idles handle) := by
    have grows : (P.journaled.model.castLayer layer dtype).Obeys
        (OnRest (Journaled.Grows fun entry => entry.isIdle)) :=
      Journaled.obeys_notingBeside _ fun _ _ => rfl
    refine obeys_within grows fun state part grown => ?_
    refine ⟨grown, ?_, ?_, ?_⟩
    all_goals simp [modelFocus, cell]
  split
  · exact obeys_bind (obeys_throw _) fun _ => casts
  · exact casts

end Idle

/-- A balanced session stays balanced, and every device is spared. -/
def Steady (handle : Handle) (trainer : Option DeviceId) (before reached : Session P.journaled) :
    Prop :=
  Balanced handle trainer before →
    Balanced handle trainer reached ∧ Spares (fun _ => False) before reached

instance : IsPreorder (Session P.journaled) (Steady handle trainer) where
  refl session balanced := ⟨balanced, refl_of (Spares _) session⟩
  trans _ _ _ first second balanced :=
    have ⟨kept, spared⟩ := first balanced
    have ⟨kept', spared'⟩ := second kept
    ⟨kept', trans_of (Spares _) spared spared'⟩

theorem Idles.steady {before reached : Session P.journaled} (idles : Idles handle before reached) :
    Steady handle trainer before reached :=
  fun balanced => ⟨idles.balanced balanced, idles.spares _⟩

section Copy

/-- A fetch clears the mark of the device, or leaves at most an entry of its failure. -/
theorem ends_copyToHost (handle : Handle) (id : DeviceId) (session : Session P.journaled) :
    (copyToHost id).Ends session
      (fun _ reached => ∃ tagged world, (session.device id).executable = some tagged ∧
        reached = session.did (.copyToHost tagged.tag) world id fun device =>
          { device with hostStale := false })
      fun _ reached => Idles handle session reached := by
  refine (ends_copying id _ session).mono
    (fun _ _ ⟨tagged, world, there, _, same⟩ => ⟨tagged, world, there, same⟩) ?_
  rintro _ _ (⟨-, -, rfl⟩ | ⟨tagged, world, -, -, rfl⟩)
  · exact refl_of (Idles handle) _
  · exact idles_asked world session rfl

/-- A send clears the mark of the device, or leaves at most an entry of its failure. -/
theorem ends_copyToDevice (handle : Handle) (id : DeviceId) (session : Session P.journaled) :
    (copyToDevice id).Ends session
      (fun _ reached => ∃ tagged world, (session.device id).executable = some tagged ∧
        reached = session.did (.copyToDevice tagged.tag) world id fun device =>
          { device with deviceStale := false })
      fun _ reached => Idles handle session reached := by
  refine (ends_copying id _ session).mono
    (fun _ _ ⟨tagged, world, there, _, same⟩ => ⟨tagged, world, there, same⟩) ?_
  rintro _ _ (⟨-, -, rfl⟩ | ⟨tagged, world, -, -, rfl⟩)
  · exact refl_of (Idles handle) _
  · exact idles_asked world session rfl

end Copy

section Resolve

/-- The weights of the trainer were fetched if they were ahead of the host; nothing else
happened. -/
def Refreshed (before reached : Session P.journaled) : Prop :=
  if before.ledger.host < before.ledger.trainer then
    ∃ tag : Tag, tag.training = true ∧
      reached.world.entries = before.world.entries ++ [⟨.copyToHost tag, true, false⟩]
  else reached.world.entries = before.world.entries

/-- After a refresh the host has the newest weights, and the refresh is counted if it was needed. -/
theorem Refreshed.ledger {before reached : Session P.journaled}
    (refreshed : Refreshed before reached)
    (ahead : before.ledger.host ≤ before.ledger.trainer) :
    reached.ledger =
      { before.ledger with
        host := before.ledger.trainer
        refreshes := before.ledger.refreshes +
          if before.ledger.host < before.ledger.trainer then 1 else 0 } := by
  unfold Refreshed at refreshed
  split at refreshed
  · next stale =>
      obtain ⟨tag, role, entries⟩ := refreshed
      rw [Session.ledger, entries, Ledger.ofEntries_append_singleton, Ledger.after_copyToHost]
      simp only [Ledger.fetch, role, if_pos stale]
      rfl
  · next newest =>
      have equal : before.ledger.host = before.ledger.trainer := by omega
      rw [if_neg newest, ← equal, Session.ledger, refreshed]
      rfl

/-- Fetching stale weights and counting it. -/
private theorem Balanced.ends_refresh {id : DeviceId} {session : Session P.journaled}
    (balanced : Balanced handle (some id) session)
    (stale : (session.device id).hostStale = true) :
    (do
      notify .fetchingWeights
      copyToHost id
      updateCell handle fun cell => { cell with refreshes := cell.refreshes + 1 }).Ends session
      (fun _ reached => Balanced handle (some id) reached ∧
        Spares (fun _ => False) session reached ∧ Refreshed session reached)
      fun _ reached => Balanced handle (some id) reached ∧
        Spares (fun _ => False) session reached := by
  have behind := (balanced.stale id rfl).mp stale
  rw [ends_bind, notify, ends_modify, ends_bind]
  generalize noticed : ({ session with notices := session.notices ++ [Notice.fetchingWeights] } :
    Session P.journaled) = told
  have tells : Idles handle session told := noticed ▸ bears_idles.notices session _
  have told_balanced := tells.balanced balanced
  refine (ends_copyToHost handle id told).mono ?_ fun _ reached idles =>
    (trans_of (Steady handle (some id)) tells.steady idles.steady) balanced
  intro _ reached ended
  obtain ⟨tagged, world, there, rfl⟩ := ended
  have role := (told_balanced.registered.role id tagged there).mpr rfl
  have same : told.world.demanding = false := told_balanced.undemanded
  rw [updateCell, ends_modify]
  refine ⟨told_balanced.fetch false there ?_ same rfl ?_ ?_,
    trans_of (Spares _) (tells.spares _) ?_, ?_⟩
  · simp [same]
  · rw [cell_update, if_pos rfl]
    rfl
  · rw [cell_update, if_pos rfl]
    rfl
  · have spared : Spares (fun _ => False) told (told.did (.copyToHost tagged.tag) world id
        fun device => { device with hostStale := false }) :=
      spares_did (fun _ => rfl) fun _ _ _ _ => rfl
    exact spared.of_same rfl rfl
  · have entries : told.world.entries = session.world.entries := noticed ▸ rfl
    rw [Refreshed, if_pos behind]
    exact ⟨tagged.tag, role, by simp [same, entries]⟩

/-- Refreshing a model fetches the weights of its trainer exactly if they are ahead. -/
theorem Balanced.ends_resolve {session : Session P.journaled}
    (balanced : Balanced handle trainer session) :
    (resolve handle).Ends session
      (fun _ reached => Balanced handle trainer reached ∧
        Spares (fun _ => False) session reached ∧ Refreshed session reached)
      fun _ reached => Balanced handle trainer reached ∧
        Spares (fun _ => False) session reached := by
  have unchanged (newest : ¬ session.ledger.host < session.ledger.trainer) :
      Balanced handle trainer session ∧ Spares (fun _ => False) session session ∧
        Refreshed session session :=
    ⟨balanced, refl_of (Spares _) session, by rw [Refreshed, if_neg newest]⟩
  simp only [resolve, ends_bind, ends_get, balanced.hook]
  cases trainer with
  | none =>
      have newest := balanced.untrained (by simp)
      exact unchanged (by omega)
  | some id =>
      simp only [Option.map_some, runHook, fetchIfStale, ends_bind, ends_get]
      by_cases stale : (session.device id).hostStale = true
      · have refreshes := balanced.ends_refresh stale
        simp only [ends_bind] at refreshes
        simpa only [stale, if_true, ends_bind, ends_pure] using refreshes
      · have newest : ¬ session.ledger.host < session.ledger.trainer := fun behind =>
          stale ((balanced.stale id rfl).mpr behind)
        simpa [stale] using unchanged newest

theorem obeys_resolve : (resolve (P := P.journaled) handle).Obeys (Steady handle trainer) := by
  apply obeys_of_ends
  intro session
  by_cases balanced : Balanced handle trainer session
  · exact balanced.ends_resolve.mono (fun _ _ ended _ => ⟨ended.1, ended.2.1⟩)
      fun _ _ ended _ => ended
  · unfold Ends
    split <;> exact fun assumed => absurd assumed balanced

theorem obeys_forward (inputs : List Tree) :
    (forward (P := P.journaled) handle inputs).Obeys (Steady handle trainer) :=
  obeys_bind obeys_resolve fun _ =>
    (obeys_forwardAsIs bears_idles handle inputs).mono fun _ _ idles => idles.steady

theorem obeys_parameters :
    (parameters (P := P.journaled) handle).Obeys (Steady handle trainer) :=
  obeys_bind obeys_resolve fun _ =>
    (obeys_parametersAsIs bears_idles handle).mono fun _ _ idles => idles.steady

end Resolve

end Offload.Session
