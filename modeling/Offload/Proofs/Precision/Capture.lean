/-
# Capturing a model by running it

What becomes of the types of a model while it is captured. The layers of reduced precision are
promoted one after the other and recorded, the model is run, and the recorded layers are cast
back, which cannot fail. So a capture that comes to run the model settles its types, whatever
happens afterwards. A cast that is refused ends the promotion, and the layers before it stay
promoted.
-/

import Offload.Proofs.Precision.Host

namespace Offload.Executor

open Attempt ParameterTypes

variable {P : Platform} {types : P.Model → ParameterTypes} {running : Running P.journaled}

/-- What a compilation or a call has come to with the types of the model on the host. -/
inductive Treated (types : P.Model → ParameterTypes) (before reached : Running P.journaled) :
    Prop where
  /-- The model was not captured by running it. -/
  | untouched (leads : Leads types [] (types (hostModel before)) before reached)
  /-- The model was captured by running it. -/
  | settled (leads : Leads types [.traced] (settle (types (hostModel before))) before reached)

/-- A promotion ended at a layer whose cast was refused. -/
structure Stuck (types : P.Model → ParameterTypes) (layer : String)
    (before reached : Running P.journaled) : Prop where
  unreliable : ¬ P.model.Reliable types
  leads : Leads types [.refused layer]
    (cast ((types (hostModel before)).promotedBefore layer) .f32 (types (hostModel before)))
    before reached

/-- Where a compilation or a call may end that failed. -/
def Failed (types : P.Model → ParameterTypes) (before reached : Running P.journaled) : Prop :=
  Treated types before reached ∨ ∃ layer, Stuck types layer before reached

theorem Treated.still {before middle reached : Running P.journaled}
    (treated : Treated types before middle) (still : Still middle reached) :
    Treated types before reached := by
  cases treated with
  | untouched leads => exact .untouched (leads.still still)
  | settled leads => exact .settled (leads.still still)

theorem Treated.after {before middle reached : Running P.journaled}
    (treated : Treated types middle reached) (still : Still before middle)
    (journaled : before.executor.subject.IsJournaled) : Treated types before reached := by
  have same := still.hostModel journaled
  cases treated with
  | untouched leads => exact .untouched (same ▸ leads.after still journaled)
  | settled leads => exact .settled (same ▸ leads.after still journaled)

theorem Failed.after {before middle reached : Running P.journaled}
    (failed : Failed types middle reached) (still : Still before middle)
    (journaled : before.executor.subject.IsJournaled) : Failed types before reached := by
  rcases failed with treated | ⟨layer, unreliable, leads⟩
  · exact .inl (treated.after still journaled)
  · have same := still.hostModel journaled
    exact .inr ⟨layer, unreliable, same ▸ leads.after still journaled⟩

/-- Steps that leave the model alone do not change what it was treated to. -/
theorem Treated.ends {α : Type} {before middle : Running P.journaled}
    (treated : Treated types before middle) {step : Attempt (Running P.journaled) α}
    (stills : step.Obeys Still) :
    step.Ends middle (fun _ reached => Treated types before reached)
      fun _ reached => Treated types before reached :=
  (stills.ends middle).mono (fun _ _ => treated.still) fun _ _ => treated.still

section Promote

variable (faithful : P.model.Faithful types)
  (journaled : running.executor.subject.IsJournaled)

include faithful journaled

omit journaled in
/-- The subject tells the types of the model on the host, by layer. -/
theorem ends_layers : (answers (P := P.journaled)).layers.Ends running
    (fun infos reached => infos = (types (hostModel running)).layers ∧ Still running reached)
    fun _ reached => True ∧ Still running reached := by
  refine Ends.and ?_ (mild_still.layers.ends running)
  rw [hostModel_eq]
  refine ends_layers_of_host fun state => (Journaled.ends_noting _ _ state).mono ?_
    fun _ _ _ => trivial
  rintro infos _ ⟨world, ended, -⟩
  exact (faithful.ends_layers _ state.world).ok ended

/-- Some layers were promoted and recorded, which needs the model to be free. -/
structure Promoted (types : P.Model → ParameterTypes) (running : Running P.journaled)
    (promotion : Promotion) (done : List LayerInfo) (state : Promotion × Running P.journaled) :
    Prop where
  layers : state.1.layers = promotion.layers ++ record done
  leads : Leads types [] (cast (promoted done) .f32 (types (hostModel running))) running state.2
  free : promoted done = [] ∨ isFree running = true

omit journaled in
/-- Promoting one layer of a model after the earlier ones. -/
private theorem ends_promoteLayer (promotion : Promotion) {earlier later : List LayerInfo}
    {info : LayerInfo} (listed : (types (hostModel running)).layers = earlier ++ info :: later)
    {state : Promotion × Running P.journaled}
    (promotes : Promoted types running promotion earlier state) :
    (Promotion.promoteLayer layerAccess info).Ends state
      (fun _ next => Promoted types running promotion (earlier ++ [info]) next)
      fun _ next => Failed types running next.2 := by
  unfold Promotion.promoteLayer
  cases half : info.half? with
  | none =>
      have skipped : record (earlier ++ [info]) = record earlier := by
        simp [record, half]
      exact
        { layers := by rw [promotes.layers, skipped]
          leads := by rw [promoted, skipped]; exact promotes.leads
          free := by rw [promoted, skipped]; exact promotes.free }
  | some dtype =>
      have recorded : record (earlier ++ [info]) = record earlier ++ [(info.name, dtype)] := by
        simp [record, half]
      have member : info ∈ (types (hostModel running)).layers := by simp [listed]
      have named : info.name ∈ (types (hostModel running)).names :=
        mem_names_of_half (by rw [← half?_of_mem_layers member, half]; rfl)
      dsimp only
      rw [ends_bind, onRest, ends_within]
      apply ends_notify
      intro told tells
      have leads := promotes.leads.still tells.still
      have listed_now : info.name ∈ (types (hostModel told)).names := by
        rwa [leads.types, names_cast]
      rw [ends_bind, onRest, ends_within]
      apply (ends_castLayer faithful leads.journaled listed_now).mono
      · intro _ reached ended
        obtain ⟨free, converts⟩ := ended
        rw [leads.types, ← cast_append_singleton] at converts
        exact
          { layers := by simp [recorded, promotes.layers]
            leads := by
              rw [promoted, recorded, List.map_append]
              exact leads.trans converts
            free := .inr (leads.free ▸ free) }
      · rintro cause reached (⟨held, still⟩ | ⟨unreliable, -, refuses⟩)
        · have first : promoted earlier = [] :=
            promotes.free.resolve_right (by simp [← leads.free, held])
          have untouched := leads.still still
          rw [first, cast_nil] at untouched
          exact .inl (.untouched untouched)
        · have before := promotedBefore_eq listed (by rw [half]; rfl)
          rw [leads.types, ← before] at refuses
          exact .inr ⟨info.name, unreliable, leads.trans refuses⟩

/-- Promotion casts and records every layer of reduced precision, or stops at one: because the
model is held, and then it is the first, or because the cast was refused. -/
theorem ends_promoteModel (promotion : Promotion) :
    (Promotion.promoteModel layerAccess).Ends (promotion, running)
      (fun _ state =>
        Promoted types running promotion (types (hostModel running)).layers state)
      fun _ state => Failed types running state.2 := by
  have stays := (refl_of Still running).leads types journaled
  rw [Promotion.promoteModel, ends_bind, onRest, ends_within]
  apply (ends_layers faithful).mono
  · rintro infos asked ⟨rfl, still⟩
    refine ends_forM (Promoted types running promotion) ?_
      fun earlier info later listed state promotes =>
        ends_promoteLayer faithful promotion listed promotes
    exact ⟨by simp [record], by simpa [promoted, record] using stays.still still, .inl rfl⟩
  · intro cause asked ended
    obtain ⟨-, still⟩ := ended
    exact .inl (.untouched (stays.still still))

/-- Casting back cannot fail where promotion succeeded. -/
theorem ends_restore (promotion : Promotion)
    (listed : ∀ entry ∈ promotion.layers, entry.1 ∈ (types (hostModel running)).names)
    (halves : ∀ entry ∈ promotion.layers, entry.2.isHalf = true)
    (free : promotion.layers = [] ∨ isFree running = true) :
    (promotion.restore castLayer).Ends running
      (fun _ reached =>
        Leads types [] (restore promotion.layers (types (hostModel running))) running reached)
      fun _ _ => False := by
  apply ends_forM
    (fun done reached => Leads types [] (restore done (types (hostModel running))) running reached)
    ((refl_of Still running).leads types journaled)
  intro earlier entry later split reached leads
  have there : entry ∈ promotion.layers := by simp [split]
  have listed_now : entry.1 ∈ (types (hostModel reached)).names := by
    rw [leads.types, names_restore]
    exact listed entry there
  apply (ends_castLayer faithful leads.journaled listed_now).mono
  · intro _ next ended
    obtain ⟨-, converts⟩ := ended
    rw [leads.types] at converts
    rw [restore_append_singleton]
    exact leads.trans converts
  · rintro cause next (⟨held, -⟩ | ⟨-, full, -⟩)
    · rw [leads.free, free.resolve_left (List.ne_nil_of_mem there)] at held
      exact nomatch held
    · have half := halves entry there
      rw [full] at half
      exact nomatch half

end Promote

/-- Running the model passes its milestone and leaves the types, whatever its outcome. -/
theorem ends_trace (types : P.Model → ParameterTypes)
    (journaled : running.executor.subject.IsJournaled) (inputs : List Tree) :
    (capture (P.journaled.trace inputs)).observe.Ends running
      (fun _ reached => Leads types [.traced] (types (hostModel running)) running reached)
      fun _ _ => False := by
  obtain ⟨middle, succeeded, still, ended⟩ :=
    capture_still (.trace inputs) (P.trace inputs) running
  have stays := still.leads types journaled
  have writes : Leads types [.traced] (types (hostModel running)) middle
      (worldFocus.set ((worldFocus.get middle).write (.trace inputs) succeeded) middle) :=
    ⟨stays.journaled, rfl, ⟨[_], rfl, rfl⟩, stays.types⟩
  have leads := stays.trans writes
  rw [← ended] at leads
  exact ends_observe_of_reached leads

section Compile

variable (faithful : P.model.Faithful types)
  (journaled : running.executor.subject.IsJournaled)

include faithful journaled

/-- Compiling a model by running it settles its types once the model was run. It ends well only
after that; it ends badly before it, after it, or at a layer whose cast was refused. -/
theorem ends_compileByTracing (options : OptionTable) {views : Views}
    (fresh : views.promotion.layers = []) :
    (compileByTracing (P := P.journaled) options views).Ends running
      (fun _ reached => Treated types running reached)
      fun _ reached => Failed types running reached := by
  unfold compileByTracing
  rw [ends_bind]
  apply ends_notify
  intro told tells
  have journaled_told := (tells.still.leads types journaled).journaled
  rw [ends_bind, ends_withOwn]
  refine (ends_promoteModel faithful journaled_told views.promotion).mono ?_
    fun _ _ failed => failed.after tells.still journaled
  rintro - ⟨promotion, promoted⟩ ⟨recorded, promotes, free⟩
  rw [fresh, List.nil_append] at recorded
  rw [ends_bind]
  refine (ends_trace types promotes.journaled _).mono (fun captured traced traces => ?_)
    fun _ _ => False.elim
  rw [ends_bind]
  have listed : ∀ entry ∈ promotion.layers, entry.1 ∈ (types (hostModel traced)).names := by
    rintro ⟨layer, dtype⟩ there
    rw [recorded, mem_record_iff] at there
    rw [traces.types, promotes.types, names_cast]
    exact mem_names_of_half (by rw [there]; rfl)
  have halves : ∀ entry ∈ promotion.layers, entry.2.isHalf = true := by
    intro entry there
    obtain ⟨layer, dtype⟩ := entry
    rw [recorded, mem_record_iff] at there
    exact isHalf_of_half there
  have free_now : promotion.layers = [] ∨ isFree traced = true := by
    rw [traces.free, promotes.free, recorded]
    exact free.imp_left List.map_eq_nil_iff.mp
  refine (ends_restore faithful traces.journaled promotion listed halves free_now).mono ?_
    fun _ _ => False.elim
  rintro - restored restores
  have settled : Treated types told restored := by
    have leads := promotes.trans (traces.trans restores)
    rw [traces.types, promotes.types, recorded, restore_cast] at leads
    exact .settled leads
  have treated := settled.after tells.still journaled
  -- from here on the model is left alone
  refine Ends.mono (treated.ends ?_) (fun _ _ => id) fun _ _ => .inl
  refine obeys_bind (obeys_ofResult captured) fun graph => ?_
  refine obeys_bind (obeys_withOwn (Promotion.obeys_restore mild_still.castGraph promotion))
    fun ⟨_, graph⟩ => ?_
  exact obeys_bind (obeys_bind obeys_get fun _ => obeys_pure _) fun _ =>
    obeys_compile_still (P := P) (.inl rfl) _ _

/-- Compiling treats the model on the host, by running it or not. -/
theorem ends_compileBinding_treated (binding : Binding) :
    (compileBinding (P := P.journaled) binding).Ends running
      (fun _ reached => Treated types running reached)
      fun _ reached => Failed types running reached := by
  have stays := (refl_of Still running).leads types journaled
  have installs (executable : Tagged P.Executable) : (do
      onSession (Session.setExecutable (P := P.journaled) running.executor.device executable)
      noteRefreshes).Obeys Still :=
    obeys_bind (obeys_onSession_still (Session.obeys_updateDevice_calm _ _)) fun _ =>
      obeys_noteRefreshes_still
  unfold compileBinding
  rw [ends_bind, ends_get, ends_bind]
  refine ends_ofResult (fun options _ => ?_) fun _ _ => .inl (.untouched stays)
  rw [ends_bind]
  apply ends_notify
  intro told tells
  have noticed := stays.still tells.still
  rw [ends_bind]
  apply (ends_views_unpromoted _ binding _).mono
  · rintro views _ ⟨fresh, rfl⟩
    dsimp only
    split
    · rw [ends_bind]
      apply (ends_compileByTracing faithful noticed.journaled options fresh).mono
      · intro executable compiled treated
        have treated := treated.after tells.still journaled
        exact (treated.ends (installs executable)).mono (fun _ _ => id) fun _ _ => .inl
      · exact fun _ _ failed => failed.after tells.still journaled
    · have untouched := Treated.untouched noticed
      rw [ends_bind]
      refine (untouched.ends (obeys_compileByScripting_still options views)).mono ?_ fun _ _ => .inl
      intro executable compiled treated
      exact (treated.ends (installs executable)).mono (fun _ _ => id) fun _ _ => .inl
  · intro _ _ ended
    obtain ⟨-, rfl⟩ := ended
    exact .inl (.untouched noticed)

/-- Compiling without executing treats the model on the host, unless it was compiled before. -/
theorem ends_compile_treated (call : CallArguments) :
    (compile (P := P.journaled) call).Ends running
      (fun _ reached => Treated types running reached)
      fun _ reached => Failed types running reached := by
  have untouched := Treated.untouched ((refl_of Still running).leads types journaled)
  rw [compile, ends_bind, ends_get]
  split
  · exact untouched
  · rw [ends_bind]
    refine ((obeys_bind_arguments call).ends running).mono ?_
      fun _ _ tells => .inl (untouched.still tells.still)
    intro binding told tells
    have journaled_told := (tells.still.leads types journaled).journaled
    exact (ends_compileBinding_treated faithful journaled_told binding).mono
      (fun _ _ treated => treated.after tells.still journaled)
      fun _ _ failed => failed.after tells.still journaled

/-- A call treats the model on the host as its compilation does. -/
theorem ends_call_treated (arguments : CallArguments) :
    (call (P := P.journaled) arguments).Ends running
      (fun _ reached => Treated types running reached)
      fun _ reached => Failed types running reached := by
  have untouched := Treated.untouched ((refl_of Still running).leads types journaled)
  rw [call, ends_bind]
  refine ((obeys_bind_arguments arguments).ends running).mono ?_
    fun _ _ tells => .inl (untouched.still tells.still)
  intro binding told tells
  have journaled_told := (tells.still.leads types journaled).journaled
  have compiles : (ensureCompiled (P := P.journaled) binding).Ends told
      (fun _ reached => Treated types running reached)
      fun _ reached => Failed types running reached := by
    rw [ensureCompiled, ends_bind, ends_get]
    split
    · exact untouched.still tells.still
    · exact (ends_compileBinding_treated faithful journaled_told binding).mono
        (fun _ _ treated => treated.after tells.still journaled)
        fun _ _ failed => failed.after tells.still journaled
  rw [ends_bind]
  refine compiles.mono (fun _ compiled treated => ?_) fun _ _ => id
  -- from here on the model is left alone
  refine (treated.ends (obeys_bind obeys_get fun served => ?_)).mono (fun _ _ => id) fun _ _ => .inl
  have executes : (do
      sendModified
      return .ofResults (← execute binding.leaves) : Attempt (Running P.journaled) Output).Obeys
        Still :=
    obeys_bind obeys_sendModified_still fun _ =>
      obeys_bind (obeys_execute_still _) fun _ => obeys_pure _
  dsimp only
  split
  · exact obeys_bind ((obeys_notify _).mono fun _ _ => Tells.still) fun _ => obeys_pure _
  · split
    · exact obeys_bind obeys_followModel_still fun _ => executes
    · exact executes

end Compile

end Offload.Executor
