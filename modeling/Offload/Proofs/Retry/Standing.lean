/-
# Where a call leads

What of an executor and its session a call can leave different, apart from its models and its
journal, is its standing. Where a successful call leads from a standing can be said beforehand: it is
the `destination` of the standing, a chain of a few changes that are each made at most once. Most
of this module is about what does not change the destination: every single change that a call makes
on its way, made early, leads to the same end. So a call that failed somewhere on its way has the
destination that it had when it began.
-/

import Offload.Executor.Call

namespace Offload

/-- What is known of a device. -/
structure Marks where
  compiled : Bool
  hostStale : Bool
  deviceStale : Bool

/-- The part of a session that calls of one executor may change, besides models and the journal. -/
structure Site (P : Platform) where
  /-- The model that the executor follows. -/
  followed : Option Handle
  /-- Where its stale host weights are refreshed from. -/
  hook : Option (RefreshHook P)
  marks : DeviceId → Marks
  refreshes : Handle → Nat
  /-- A hook outside the library would refresh the host weights. -/
  waiting : Bool

/-- What a call can leave different. -/
structure Standing (P : Platform) where
  optimizer : Option Descriptor
  requested : Option Descriptor
  refreshesSeen : Nat
  warned : Bool
  site : Site P

variable {P : Platform}

namespace Site

/-- The host weights of the model that is followed are stale. -/
def stale (site : Site P) : Bool :=
  match site.hook with
  | none => false
  | some (.device id) => (site.marks id).hostStale
  | some (.outside _) => site.waiting

/-- Change what is known of a device. -/
def update (id : DeviceId) (change : Marks → Marks) (site : Site P) : Site P :=
  { site with
    marks := fun other => if other = id then change (site.marks id) else site.marks other }

/-- No weights are waiting at the hook any more. -/
def fetched (site : Site P) : Site P :=
  match site.hook with
  | some (.device id) => site.update id fun marks => { marks with hostStale := false }
  | _ => { site with waiting := false }

/-- Stale host weights of the model that is followed were refreshed, and that was counted. -/
def refreshed (site : Site P) : Site P :=
  match site.followed with
  | none => site
  | some handle =>
      if site.stale then
        { site.fetched with
          refreshes := fun other =>
            if other = handle then site.refreshes other + 1 else site.refreshes other }
      else site

/-- A device that has weights for the host has an executable. -/
def Supplied (site : Site P) : Prop :=
  ∀ id, site.hook = some (.device id) → (site.marks id).hostStale = true →
    (site.marks id).compiled = true

/-- The refreshes of the model that is followed. -/
def followedRefreshes? (site : Site P) : Option Nat := site.followed.map site.refreshes

variable {site : Site P}

theorem update_marks (id other : DeviceId) (change : Marks → Marks) :
    (site.update id change).marks other =
      if other = id then change (site.marks id) else site.marks other := rfl

@[simp]
theorem update_followed (id : DeviceId) (change : Marks → Marks) :
    (site.update id change).followed = site.followed := rfl

@[simp]
theorem update_hook (id : DeviceId) (change : Marks → Marks) :
    (site.update id change).hook = site.hook := rfl

@[simp]
theorem update_waiting (id : DeviceId) (change : Marks → Marks) :
    (site.update id change).waiting = site.waiting := rfl

@[simp]
theorem update_followedRefreshes? (id : DeviceId) (change : Marks → Marks) :
    (site.update id change).followedRefreshes? = site.followedRefreshes? := rfl

/-- Two changes of one device are one. -/
theorem update_update (id : DeviceId) (change later : Marks → Marks) :
    (site.update id change).update id later = site.update id (later ∘ change) := by
  simp only [update, Site.mk.injEq, true_and, and_true]
  funext other
  split
  · simp
  · rfl

/-- A change that changes nothing may be left out. -/
theorem update_of_same {id : DeviceId} {change : Marks → Marks}
    (same : change (site.marks id) = site.marks id) : site.update id change = site := by
  obtain ⟨followed, hook, marks, refreshes, waiting⟩ := site
  simp only [update, Site.mk.injEq, true_and, and_true]
  funext other
  split
  · next here => rw [here]; exact same
  · rfl

@[simp]
theorem fetched_hook : site.fetched.hook = site.hook := by
  unfold fetched
  split <;> rfl

@[simp]
theorem fetched_compiled (id : DeviceId) :
    (site.fetched.marks id).compiled = (site.marks id).compiled := by
  unfold fetched
  split
  · rw [update_marks]
    split
    · next here => rw [here]
    · rfl
  · rfl

@[simp]
theorem fetched_stale : site.fetched.stale = false := by
  rw [stale, fetched_hook]
  unfold fetched
  split
  · rfl
  · next id same =>
      rw [same]
      simp [update]
  · next hook same =>
      rw [same]

theorem refreshed_of_calm (calm : site.stale = false) : site.refreshed = site := by
  unfold refreshed
  split
  · rfl
  · rw [if_neg (by simp [calm])]

@[simp]
theorem refreshed_followed : site.refreshed.followed = site.followed := by
  unfold refreshed fetched
  split
  · rfl
  · split
    · split <;> rfl
    · rfl

@[simp]
theorem refreshed_compiled (id : DeviceId) :
    (site.refreshed.marks id).compiled = (site.marks id).compiled := by
  unfold refreshed
  split
  · rfl
  · split
    · exact fetched_compiled id
    · rfl

/-- A refresh makes no host weights stale. -/
theorem hostStale_of_refreshed {id : DeviceId}
    (stale : (site.refreshed.marks id).hostStale = true) : (site.marks id).hostStale = true := by
  unfold refreshed fetched at stale
  split at stale
  · exact stale
  · split at stale
    · split at stale
      · next source _ =>
          rw [update_marks] at stale
          split at stale
          · exact nomatch stale
          · exact stale
      · exact stale
    · exact stale

@[simp]
theorem refreshed_hook : site.refreshed.hook = site.hook := by
  unfold refreshed
  split
  · rfl
  · split
    · exact fetched_hook
    · rfl

theorem Supplied.refreshed (supplied : site.Supplied) : site.refreshed.Supplied := by
  intro id hooked stale
  rw [refreshed_compiled]
  rw [refreshed_hook] at hooked
  exact supplied id hooked (hostStale_of_refreshed stale)

/-- After a refresh the host weights are not stale. -/
theorem refreshed_calm (follows : site.followed.isSome = true) : site.refreshed.stale = false := by
  obtain ⟨handle, followed⟩ := Option.isSome_iff_exists.mp follows
  rw [refreshed, followed]
  dsimp only
  split
  · exact fetched_stale
  · next calm => exact Bool.not_eq_true _ ▸ calm

/-- Refreshing again changes nothing. -/
theorem refreshed_refreshed : site.refreshed.refreshed = site.refreshed := by
  cases followed : site.followed with
  | none =>
      have same : site.refreshed = site := by rw [refreshed, followed]
      rw [same, same]
  | some handle => exact refreshed_of_calm (refreshed_calm (by rw [followed]; rfl))

/-- A change that has nothing to do with stale hosts may be made before or after a refresh. -/
theorem refreshed_update {id : DeviceId} {change : Marks → Marks}
    (keeps : ∀ marks, (change marks).hostStale = marks.hostStale)
    (commutes : ∀ marks, change { marks with hostStale := false } =
      { change marks with hostStale := false }) :
    (site.update id change).refreshed = site.refreshed.update id change := by
  have stale : (site.update id change).stale = site.stale := by
    unfold Site.stale
    simp only [update_hook, update_waiting]
    split
    · rfl
    · rw [update_marks]
      split
      · next here => rw [keeps, here]
      · rfl
    · rfl
  have fetched : (site.update id change).fetched = site.fetched.update id change := by
    unfold Site.fetched
    rw [update_hook]
    split
    · next source _ =>
        simp only [update, Site.mk.injEq, true_and, and_true]
        funext other
        by_cases here : other = source <;> by_cases there : other = id <;>
          simp_all
    · rfl
  unfold refreshed
  rw [update_followed, stale, fetched]
  split
  · rfl
  · split <;> rfl

end Site

/-- What determines the way of a call. -/
structure Role where
  device : DeviceId
  training : Bool
  connects : Bool
  /-- Capturing the subject refreshes the model that is followed. -/
  asks : Bool

namespace Standing

variable (role : Role)

/-- The application was warned of strided inputs. -/
def heeded (densified : Bool) (standing : Standing P) : Standing P :=
  { standing with warned := densified || standing.warned }

/-- The device of the executor has an executable. -/
def isCompiled (standing : Standing P) : Bool := (standing.site.marks role.device).compiled

/-- Stale weights of the model that is followed were refreshed. -/
def refreshed (standing : Standing P) : Standing P :=
  { standing with site := standing.site.refreshed }

/-- It was noted how often the model that is followed was refreshed. -/
def noted (standing : Standing P) : Standing P :=
  { standing with
    refreshesSeen := standing.site.followedRefreshes?.getD standing.refreshesSeen }

/-- The device has an executable now. -/
def equipped (standing : Standing P) : Standing P :=
  { standing with
    site := standing.site.update role.device fun marks => { marks with compiled := true } }

/-- The device has the weights of the host. -/
def supplied (standing : Standing P) : Standing P :=
  { standing with
    site := standing.site.update role.device fun marks => { marks with deviceStale := false } }

/-- An execution succeeded. -/
def executed (standing : Standing P) : Standing P :=
  { standing with
    optimizer := standing.requested.orElse fun _ => standing.optimizer
    requested := none
    site := if role.training then
        standing.site.update role.device fun marks => { marks with hostStale := true }
      else standing.site }

end Standing

namespace Role

variable (role : Role)

/-- A call brings the device up to date with the model that the executor follows. -/
def settles : Bool := role.connects && !role.training

/-- A call refreshes the model that the executor follows. -/
def refreshes (standing : Standing P) : Bool :=
  role.settles || (!standing.isCompiled role && role.asks)

/-- The standing once the device is up to date. -/
def prepared (standing : Standing P) : Standing P :=
  let ready := if role.refreshes standing then standing.refreshed else standing
  let compiled := if role.settles || !standing.isCompiled role then ready.noted else ready
  compiled.equipped role

/-- Where a successful call leads. -/
def destination (densified : Bool) (standing : Standing P) : Standing P :=
  let ready := role.prepared (standing.heeded densified)
  if role.connects then (ready.supplied role).executed role else ready

variable {role} {densified : Bool} {standing : Standing P}

theorem isCompiled_refreshed : standing.refreshed.isCompiled role = standing.isCompiled role :=
  standing.site.refreshed_compiled role.device

theorem isCompiled_equipped : (standing.equipped role).isCompiled role = true := by
  simp [Standing.isCompiled, Standing.equipped, Site.update_marks]

/-- Being warned before does not change where a call leads. -/
theorem destination_heeded :
    role.destination densified (standing.heeded densified) = role.destination densified standing := by
  simp [destination, Standing.heeded]

/-- A refresh that the call would make itself does not change where it leads. -/
theorem destination_refreshed (refreshes : role.refreshes standing = true) :
    role.destination densified standing.refreshed = role.destination densified standing := by
  have again : standing.refreshed.refreshed = standing.refreshed := by
    simp [Standing.refreshed, Site.refreshed_refreshed]
  have heeds : standing.refreshed.heeded densified = (standing.heeded densified).refreshed := rfl
  have same : role.refreshes (standing.heeded densified) = true := refreshes
  have same' : role.refreshes (standing.heeded densified).refreshed = true := by
    rwa [Role.refreshes, isCompiled_refreshed]
  have again : (standing.heeded densified).refreshed.refreshed =
      (standing.heeded densified).refreshed := by
    simp [Standing.refreshed, Site.refreshed_refreshed]
  rw [destination, destination, heeds, prepared, prepared, if_pos same, if_pos same', again,
    isCompiled_refreshed]

theorem equipped_of_compiled (compiled : standing.isCompiled role = true) :
    standing.equipped role = standing := by
  unfold Standing.equipped
  rw [Site.update_of_same]
  rw [← show (standing.site.marks role.device).compiled = true from compiled]

theorem equipped_equipped : (standing.equipped role).equipped role = standing.equipped role :=
  equipped_of_compiled isCompiled_equipped

theorem refreshed_equipped :
    (standing.equipped role).refreshed = standing.refreshed.equipped role := by
  unfold Standing.equipped Standing.refreshed
  dsimp only
  congr 1
  exact Site.refreshed_update (fun _ => rfl) fun _ => rfl

theorem noted_equipped : (standing.equipped role).noted = standing.noted.equipped role := rfl

theorem noted_noted : standing.noted.noted = standing.noted := by
  unfold Standing.noted
  dsimp only
  cases standing.site.followedRefreshes? <;> rfl

/-- What was noted before a refresh is noted anew after it. -/
theorem noted_refreshed_noted : standing.noted.refreshed.noted = standing.refreshed.noted := by
  obtain ⟨optimizer, requested, seen, warned, site⟩ := standing
  unfold Standing.noted Standing.refreshed Site.followedRefreshes?
  cases followed : site.followed <;> simp [followed]

/-- Where nothing is stale, noting refreshes makes nothing stale. -/
theorem refreshed_noted (calm : standing.refreshed = standing) :
    standing.noted.refreshed = standing.noted :=
  congrArg (fun site => { standing.noted with site := site }) (congrArg Standing.site calm)

/-- Having compiled before does not change where a call leads, if the model that is followed was
refreshed as the compilation would do itself. -/
theorem destination_compiled (fresh : standing.isCompiled role = false)
    (calm : role.settles = false → role.asks = true → standing.refreshed = standing) :
    role.destination densified (standing.noted.equipped role) =
      role.destination densified standing := by
  suffices same : role.prepared ((standing.noted.equipped role).heeded densified) =
      role.prepared (standing.heeded densified) by
    rw [destination, destination, same]
  have heeds : (standing.noted.equipped role).heeded densified =
      (standing.heeded densified).noted.equipped role := rfl
  have fresh' : (standing.heeded densified).isCompiled role = false := fresh
  have calm' : role.settles = false → role.asks = true →
      (standing.heeded densified).refreshed = standing.heeded densified := fun waits asks =>
    congrArg (Standing.heeded densified) (calm waits asks)
  rw [heeds]
  generalize standing.heeded densified = standing at fresh' calm'
  unfold prepared
  cases settles : role.settles with
  | true =>
      simp only [Role.refreshes, settles, Bool.true_or, if_true]
      rw [refreshed_equipped, noted_equipped, equipped_equipped, noted_refreshed_noted]
  | false =>
      have ready : (if role.refreshes standing then standing.refreshed else standing) =
          standing := by
        split
        · next refreshes =>
            refine calm' settles ?_
            simpa [Role.refreshes, settles, fresh'] using refreshes
        · rfl
      dsimp only
      rw [ready]
      simp only [Role.refreshes, settles, isCompiled_equipped, fresh', Bool.not_true,
        Bool.not_false, Bool.false_or, Bool.false_and, Bool.false_eq_true, if_true, if_false]
      exact equipped_equipped

/-- Having noted the refreshes before does not change where a call leads that notes them itself. -/
theorem destination_noted (settles : role.settles = true) :
    role.destination densified standing.noted = role.destination densified standing := by
  suffices same : role.prepared (standing.noted.heeded densified) =
      role.prepared (standing.heeded densified) by
    rw [destination, destination, same]
  have heeds : standing.noted.heeded densified = (standing.heeded densified).noted := rfl
  rw [heeds]
  generalize standing.heeded densified = standing
  simp only [prepared, Role.refreshes, settles, Bool.true_or, if_true, noted_refreshed_noted]

theorem isCompiled_supplied :
    (standing.supplied role).isCompiled role = standing.isCompiled role := by
  simp [Standing.isCompiled, Standing.supplied, Site.update_marks]

theorem refreshed_supplied :
    (standing.supplied role).refreshed = standing.refreshed.supplied role := by
  unfold Standing.supplied Standing.refreshed
  dsimp only
  congr 1
  exact Site.refreshed_update (fun _ => rfl) fun _ => rfl

theorem equipped_supplied :
    (standing.supplied role).equipped role = (standing.equipped role).supplied role := by
  simp only [Standing.supplied, Standing.equipped, Site.update_update]
  rfl

theorem supplied_supplied : (standing.supplied role).supplied role = standing.supplied role := by
  simp only [Standing.supplied, Site.update_update]
  rfl

theorem prepared_supplied :
    role.prepared (standing.supplied role) = (role.prepared standing).supplied role := by
  have refreshes : role.refreshes (standing.supplied role) = role.refreshes standing := by
    rw [Role.refreshes, Role.refreshes, isCompiled_supplied]
  unfold prepared
  dsimp only
  rw [refreshes, isCompiled_supplied, ← equipped_supplied]
  split <;> split
  · rw [refreshed_supplied]
    rfl
  · rfl
  · rw [refreshed_supplied]
  · rfl

/-- Having sent the weights before does not change where a call leads that sends them itself. -/
theorem destination_supplied (connects : role.connects = true) :
    role.destination densified (standing.supplied role) = role.destination densified standing := by
  have heeds : (standing.supplied role).heeded densified =
      (standing.heeded densified).supplied role := rfl
  rw [destination, destination, if_pos connects, if_pos connects, heeds, prepared_supplied,
    supplied_supplied]

/-- Where a call leads from a standing in which everything is ready. -/
theorem destination_of_ready (compiled : standing.isCompiled role = true)
    (warned : standing.heeded densified = standing)
    (settled : role.settles = true → standing.refreshed = standing ∧ standing.noted = standing) :
    role.destination densified standing =
      if role.connects then (standing.supplied role).executed role else standing := by
  have ready : role.prepared standing = standing := by
    unfold prepared
    cases settles : role.settles with
    | true =>
        obtain ⟨refreshed, noted⟩ := settled settles
        simp only [Role.refreshes, settles, Bool.true_or, if_true, refreshed, noted]
        exact equipped_of_compiled compiled
    | false =>
        simp only [Role.refreshes, settles, compiled, Bool.not_true, Bool.false_or, Bool.false_and,
          Bool.false_eq_true, if_false]
        exact equipped_of_compiled compiled
  rw [destination, warned, ready]

end Role

namespace Standing

/-- Stale host weights that a call has to refresh are with a device that has an executable; the
device of the executor has one by then. -/
def Backed (role : Role) (standing : Standing P) : Prop :=
  role.settles = true → ∀ id, standing.site.hook = some (.device id) →
    (standing.site.marks id).hostStale = true →
      id = role.device ∨ (standing.site.marks id).compiled = true

/-- What a call may change on its way, one change after the other. -/
inductive Advances (role : Role) (densified : Bool) (standing : Standing P) : Standing P → Prop where
  | refl : Advances role densified standing standing
  | heeded {reached : Standing P} (advances : Advances role densified standing reached) :
      Advances role densified standing (reached.heeded densified)
  | refreshed {reached : Standing P} (advances : Advances role densified standing reached)
      (refreshes : role.refreshes reached = true) (supplied : reached.site.Supplied) :
      Advances role densified standing reached.refreshed
  | compiled {reached : Standing P} (advances : Advances role densified standing reached)
      (fresh : reached.isCompiled role = false)
      (calm : role.settles = false → role.asks = true → reached.refreshed = reached) :
      Advances role densified standing (reached.noted.equipped role)
  | noted {reached : Standing P} (advances : Advances role densified standing reached)
      (settles : role.settles = true) : Advances role densified standing reached.noted
  | supplied {reached : Standing P} (advances : Advances role densified standing reached)
      (connects : role.connects = true) : Advances role densified standing (reached.supplied role)

variable {role : Role} {densified : Bool} {standing reached last : Standing P}

theorem backed_of_supplied (supplied : standing.site.Supplied) : standing.Backed role :=
  fun _ id hooked stale => .inr (supplied id hooked stale)

theorem Backed.supplied (backed : standing.Backed role) (settles : role.settles = true)
    (compiled : standing.isCompiled role = true) : standing.site.Supplied := by
  intro id hooked stale
  rcases backed settles id hooked stale with rfl | there
  · exact compiled
  · exact there

/-- A change of the device of the executor that leaves stale hosts alone is beside the point. -/
theorem backed_update {change : Marks → Marks}
    (stale : ∀ marks, (change marks).hostStale = marks.hostStale) :
    { standing with site := standing.site.update role.device change }.Backed role ↔
      standing.Backed role := by
  unfold Backed
  refine imp_congr_right fun _ => forall_congr' fun other => imp_congr_right fun _ => ?_
  rw [Site.update_marks]
  by_cases here : other = role.device
  · subst here
    rw [if_pos rfl, stale]
    simp
  · rw [if_neg here]

namespace Advances

theorem trans (advances : Advances role densified standing reached)
    (later : Advances role densified reached last) : Advances role densified standing last := by
  induction later with
  | refl => exact advances
  | heeded _ ih => exact ih.heeded
  | refreshed _ refreshes supplied ih => exact ih.refreshed refreshes supplied
  | compiled _ fresh calm ih => exact ih.compiled fresh calm
  | noted _ settles ih => exact ih.noted settles
  | supplied _ connects ih => exact ih.supplied connects

/-- On its way a call keeps its destination. -/
theorem destination (advances : Advances role densified standing reached) :
    role.destination densified reached = role.destination densified standing := by
  induction advances with
  | refl => rfl
  | heeded _ ih => exact Role.destination_heeded.trans ih
  | refreshed _ refreshes _ ih => exact (Role.destination_refreshed refreshes).trans ih
  | compiled _ fresh calm ih => exact (Role.destination_compiled fresh calm).trans ih
  | noted _ settles ih => exact (Role.destination_noted settles).trans ih
  | supplied _ connects ih => exact (Role.destination_supplied connects).trans ih

/-- An executable is not taken away. -/
theorem isCompiled (advances : Advances role densified standing reached)
    (compiled : standing.isCompiled role = true) : reached.isCompiled role = true := by
  induction advances with
  | refl => exact compiled
  | heeded _ ih => exact ih
  | refreshed _ _ _ ih => exact Role.isCompiled_refreshed.trans ih
  | compiled => exact Role.isCompiled_equipped
  | noted _ _ ih => exact ih
  | supplied _ _ ih => exact Role.isCompiled_supplied.trans ih

/-- A warning that was due and was given is not due again. -/
theorem heeds (advances : Advances role densified standing reached)
    (heeds : standing.heeded densified = standing) : reached.heeded densified = reached := by
  induction advances with
  | refl => exact heeds
  | @heeded reached _ _ => simp [Standing.heeded]
  | @refreshed reached _ _ _ ih => exact congrArg Standing.refreshed ih
  | @compiled reached _ _ _ ih => exact congrArg (fun reached => reached.noted.equipped role) ih
  | @noted reached _ _ ih => exact congrArg Standing.noted ih
  | @supplied reached _ _ ih => exact congrArg (Standing.supplied role) ih

/-- Whether stale weights can be refreshed does not change on the way. -/
theorem backed (advances : Advances role densified standing reached) :
    reached.Backed role ↔ standing.Backed role := by
  induction advances with
  | refl => rfl
  | heeded _ ih => exact ih
  | refreshed _ _ supplied ih =>
      rw [← ih]
      exact iff_of_true (backed_of_supplied supplied.refreshed) (backed_of_supplied supplied)
  | @compiled reached _ _ _ ih =>
      exact (backed_update fun _ => rfl : (reached.noted.equipped role).Backed role ↔ _).trans ih
  | noted _ _ ih => exact ih
  | @supplied reached _ _ ih =>
      exact (backed_update fun _ => rfl : (reached.supplied role).Backed role ↔ _).trans ih

end Advances

end Standing

end Offload
