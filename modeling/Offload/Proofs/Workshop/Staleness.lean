/-
# At most one side is stale

The main statement about the marks of wrappers, for every run of a workshop. Both marks of a wrapper
stand at some time exactly if a modification of the host weights is reported to it while a training
step of it is unsaved: reporting looks at nothing, and everything else keeps one mark away from the
other. As long as that does not happen, no copy that an application did not ask for overwrites
weights that are newer: the push before a call finds every training step fetched, and a fetch by a
read or a call finds every modification sent.
-/

import Offload.Proofs.Rehearsal
import Offload.Proofs.Workshop.Candor
import Offload.Proofs.Workshop.Sound

namespace Offload

open Attempt Session Executor

namespace Event

/-- What of an event has to do with the weights of wrappers. -/
def incidents : Event → List Incident
  | made _ => []
  | worked number .markHostModified _ entries =>
      Incident.ofEntries (some number) entries ++ [.modified number]
  | worked number _ _ entries => Incident.ofEntries (some number) entries
  | read entries => Incident.ofEntries none entries

/-- What of a history has to do with the weights of wrappers. -/
def trail (history : List Event) : List Incident := history.flatMap incidents

theorem trail_append (history : List Event) (event : Event) :
    trail (history ++ [event]) = trail history ++ event.incidents := by
  simp [trail]

theorem incidents_of_ne {number : Nat} {task : Task} {outcome : Result (Option Output)}
    {entries : List Entry} (other : task ≠ .markHostModified) :
    (worked number task outcome entries).incidents = Incident.ofEntries (some number) entries := by
  cases task <;> first | rfl | exact absurd rfl other

/-- Only a wrapper that was given the task is told of a modification. -/
theorem modified_mem_trail {history : List Event} {number : Nat}
    (there : .modified number ∈ trail history) :
    ∃ task outcome entries, worked number task outcome entries ∈ history := by
  obtain ⟨event, mem, told⟩ := List.mem_flatMap.mp there
  have asked {who : Option Nat} {entries : List Entry} :
      .modified number ∉ Incident.ofEntries who entries := by
    simp [Incident.ofEntries]
  cases event with
  | made optimizer => cases told
  | worked owner task outcome entries =>
      by_cases marks : task = .markHostModified
      · subst marks
        rcases List.mem_append.mp told with told | told
        · exact absurd told asked
        · obtain rfl := Incident.modified.inj (List.mem_singleton.mp told)
          exact ⟨_, outcome, entries, mem⟩
      · rw [incidents_of_ne marks] at told
        exact absurd told asked
  | read entries => exact absurd told asked

end Event

/-- A new post with a device of its own, which has no marks and for which nothing was asked. -/
theorem Candid.housing {P : Platform} {posts : List Post} {trail : List Incident}
    {session : Session P.journaled} (candid : Candid posts trail session) (post : Post)
    (new : post.device.number = session.devices.next)
    (housed : ∀ old ∈ posts, old.device.number < session.devices.next)
    (told : ∀ number, .modified number ∈ trail → number < posts.length) :
    Candid (posts ++ [post]) trail (Session.housing session) ∧
      ∀ (number : Nat) (own : Post), (posts ++ [post])[number]? = some own →
        (posts[number]? = some own → OneSided number own trail session) →
          OneSided number own trail (Session.housing session) := by
  have fresh : (Session.housing session).device post.device = default :=
    (housing_device session _).trans (if_pos new)
  have found {number : Nat} {own : Post} (there : (posts ++ [post])[number]? = some own) :
      posts[number]? = some own ∧
        (Session.housing session).device own.device = session.device own.device ∧
          own.device.number < session.devices.next ∨ number = posts.length ∧ own = post := by
    refine (getElem?_concat_eq_some_iff.mp there).imp_left fun old => ?_
    have below := housed own (List.mem_of_getElem? old)
    exact ⟨old, housing_device_of_lt below, below⟩
  constructor
  · exact
      { journal := candid.journal
        numbered := fun _ tagged there => candid.numbered _ tagged (executable_of_housing there)
        used := candid.used
        distinct := fun _ _ _ _ there there' =>
          candid.distinct _ _ _ _ (executable_of_housing there) (executable_of_housing there')
        apart := fun number other own own' there there' same => by
          have same' := congrArg DeviceId.number same
          rcases found there with ⟨old, -, below⟩ | ⟨last, rfl⟩ <;>
            rcases found there' with ⟨old', -, below'⟩ | ⟨last', rfl⟩
          · exact candid.apart _ _ _ _ old old' same
          all_goals omega
        role := fun number own tagged there has => by
          rcases found there with ⟨old, -, -⟩ | ⟨-, rfl⟩
          · exact candid.role _ _ _ old (executable_of_housing has)
          · rw [fresh] at has
            exact nomatch has
        hostStale := fun id => by
          rw [housing_device]
          split
          · exact iff_of_false nofun fun ⟨_, there, _⟩ => nomatch there
          · exact candid.hostStale id
        deviceStale := fun number own there => by
          rcases found there with ⟨old, same, -⟩ | ⟨rfl, rfl⟩
          · rw [same]
            exact candid.deviceStale number own old
          · rw [fresh]
            refine iff_of_false nofun ?_
            rintro ⟨earlier, incident, later, rfl, told_of, -⟩
            cases incident with
            | asked logged => exact nomatch told_of
            | modified owner =>
                have below := told owner (by simp)
                rw [of_decide_eq_true told_of] at below
                exact Nat.lt_irrefl _ below }
  · intro number own there sided
    rcases found there with ⟨old, same, -⟩ | ⟨-, rfl⟩
    · exact ⟨same ▸ (sided old).marks, same ▸ (sided old).spared⟩
    · refine ⟨by rw [fresh]; exact nofun, fun tagged has => ?_⟩
      rw [fresh] at has
      exact nomatch has

namespace Workshop

variable {P : Platform} {workshop : Workshop P} {number : Nat}

/-- The posts of the wrappers of a workshop. -/
def posts (workshop : Workshop P) : List Post := workshop.wrappers.map Executor.post

/-- The device of a wrapper, by its number. -/
def device? (workshop : Workshop P) (number : Nat) : Option (Device P.journaled) :=
  workshop.wrappers[number]?.map fun wrapper => workshop.session.device wrapper.device

/-- The wrapper is ahead of the host. -/
def Ahead (workshop : Workshop P) (number : Nat) : Prop :=
  ∃ device ∈ workshop.device? number, device.hostStale = true

/-- Both marks of the wrapper stand. -/
def Torn (workshop : Workshop P) (number : Nat) : Prop :=
  ∃ device ∈ workshop.device? number, device.hostStale = true ∧ device.deviceStale = true

/-- Nothing that is newer was overwritten by a copy of the wrapper's weights, unless by hand. -/
def SparedAll (workshop : Workshop P) (number : Nat) : Prop :=
  ∀ device ∈ workshop.device? number, ∀ tagged ∈ device.executable,
    EachAfter (Spared number tagged.tag) (Event.trail workshop.history)

instance (workshop : Workshop P) (number : Nat) : Decidable (Ahead workshop number) :=
  inferInstanceAs (Decidable (∃ device ∈ workshop.device? number, _))

instance (workshop : Workshop P) (number : Nat) : Decidable (Torn workshop number) :=
  inferInstanceAs (Decidable (∃ device ∈ workshop.device? number, _))

instance (workshop : Workshop P) (number : Nat) : Decidable (SparedAll workshop number) :=
  inferInstanceAs (Decidable (∀ device ∈ workshop.device? number, ∀ tagged ∈ device.executable, _))

/-- The wrapper is one-sided, if it was made. -/
def Sided (workshop : Workshop P) (number : Nat) : Prop :=
  ∀ post, workshop.posts[number]? = some post →
    OneSided number post (Event.trail workshop.history) workshop.session

/-- The workshop is sound, and its marks say what its history says. -/
structure Truthful (workshop : Workshop P) : Prop where
  sound : Sound workshop
  candid : Candid workshop.posts (Event.trail workshop.history) workshop.session

theorem posts_of {wrapper : Executor P.journaled}
    (there : workshop.wrappers[number]? = some wrapper) :
    workshop.posts[number]? = some wrapper.post := by
  rw [posts, List.getElem?_map, there, Option.map_some]

theorem device?_of {wrapper : Executor P.journaled}
    (there : workshop.wrappers[number]? = some wrapper) :
    workshop.device? number = some (workshop.session.device wrapper.device) := by
  rw [device?, there, Option.map_some]

theorem Sided.not_torn (sided : Sided workshop number) : ¬ Torn workshop number := by
  rintro ⟨device, there, both⟩
  obtain ⟨wrapper, owns, rfl⟩ := Option.map_eq_some_iff.mp there
  exact (sided _ (posts_of owns)).marks both

theorem Sided.sparedAll (sided : Sided workshop number) : SparedAll workshop number := by
  intro device there tagged has
  obtain ⟨wrapper, owns, rfl⟩ := Option.map_eq_some_iff.mp there
  exact (sided _ (posts_of owns)).spared tagged has

theorem truthful_start (world : P.World) : Truthful (start world) where
  sound := sound_start world
  candid :=
    { journal := rfl
      numbered := fun _ _ there => nomatch there
      used := fun _ there => nomatch there
      distinct := fun _ _ _ _ there => nomatch there
      apart := fun _ _ _ _ there => nomatch there
      role := fun _ _ _ there => nomatch there
      hostStale := fun _ => iff_of_false nofun fun ⟨_, there, _⟩ => nomatch there
      deviceStale := fun _ _ there => nomatch there }

theorem sided_start (world : P.World) (number : Nat) : Sided (start world) number :=
  fun _ there => nomatch there

/-- What a wrapper is told of was told to one of the wrappers. -/
theorem Sound.told (sound : Sound workshop) (number : Nat)
    (there : .modified number ∈ Event.trail workshop.history) : number < workshop.posts.length := by
  obtain ⟨task, outcome, entries, worked⟩ := Event.modified_mem_trail there
  obtain ⟨wrapper, owns, -⟩ := sound.proper _ worked
  rw [posts, List.length_map]
  exact (List.getElem?_eq_some_iff.mp owns).1

theorem Truthful.wrap (truthful : Truthful workshop) (subject : Subject P) (options : Options)
    (training : Bool) (optimizer : Option Descriptor) :
    Truthful (workshop.wrap subject options training optimizer) ∧
      ∀ number, Sided workshop number →
        Sided (workshop.wrap subject options training optimizer) number := by
  have sound := truthful.sound.wrap subject options training optimizer
  have housed : ∀ old ∈ workshop.posts, old.device.number < workshop.session.devices.next := by
    intro old there
    obtain ⟨wrapper, mem, rfl⟩ := List.mem_map.mp there
    exact truthful.sound.orderly.housed wrapper mem
  obtain ⟨candid, sided⟩ := truthful.candid.housing
    (recruit subject.journaled options training optimizer workshop.session).post rfl housed
    truthful.sound.told
  have trail : Event.trail (workshop.history ++ [.made optimizer]) =
      Event.trail workshop.history := by
    rw [Event.trail_append, Event.incidents, List.append_nil]
  rw [Workshop.wrap, perform_make] at sound ⊢
  refine ⟨⟨sound, ?_⟩, fun number one post there => ?_⟩
  · dsimp only
    rw [trail, posts, List.map_append]
    exact candid
  · dsimp only at there ⊢
    rw [posts, List.map_append] at there
    rw [trail]
    exact sided number post there (one post)

/-- A task may tear a wrapper only by telling it of a modification while it is ahead of the host. -/
theorem Truthful.work (truthful : Truthful workshop) (number : Nat) (task : Task) :
    Truthful (workshop.work number task) ∧
      ∀ owner, (owner = number → task = .markHostModified → ¬ Ahead workshop owner) →
        Sided workshop owner → Sided (workshop.work number task) owner := by
  have sound := truthful.sound.work number task
  unfold Workshop.work at sound ⊢
  split
  · exact ⟨truthful, fun _ _ => id⟩
  · next wrapper there =>
      have journaled := truthful.sound.orderly.journaled wrapper (List.mem_of_getElem? there)
      have worked : Worked ⟨wrapper, workshop.session⟩ task _ _ := worked_runTask task journaled
      rw [there] at sound
      dsimp only at sound ⊢
      generalize (runTask task).perform ⟨wrapper, workshop.session⟩ = ended at worked sound ⊢
      obtain ⟨outcome, reached⟩ := ended
      obtain ⟨more, finished⟩ :=
        worked.finished truthful.sound.undemanding there truthful.sound.orderly
      have posts : (workshop.wrappers.set number reached.executor).map Executor.post =
          workshop.posts := map_set_of_eq there finished.role.post
      have entries : entriesSince workshop.session reached.session = more := by
        rw [entriesSince, finished.grown, List.drop_left]
      rw [entries] at sound ⊢
      have mine : workshop.posts[number]? = some wrapper.post := posts_of there
      have upheld : Candid workshop.posts (Event.trail workshop.history ++
            (Event.worked number task outcome more).incidents) reached.session ∧
          ∀ (owner : Nat) (post : Post), workshop.posts[owner]? = some post →
            (owner = number → task = .markHostModified →
              (workshop.session.device post.device).hostStale = false) →
            OneSided owner post (Event.trail workshop.history) workshop.session →
              OneSided owner post (Event.trail workshop.history ++
                (Event.worked number task outcome more).incidents) reached.session := by
        by_cases marks : task = .markHostModified
        · subst marks
          cases worked with
          | marked =>
              obtain rfl : more = [] :=
                List.append_right_eq_self.mp (finished.grown.symm : _ ++ more = _)
              have candid : Candid workshop.posts _ (Running.session ⟨wrapper, workshop.session⟩) :=
                truthful.candid
              obtain ⟨candid, sided⟩ := candid.marks mine rfl
              exact ⟨candid, fun owner post owns saved one =>
                sided owner post owns one fun same => saved same rfl⟩
          | plain _ _ _ _ kind => cases kind
          | copied _ _ _ _ kind => cases kind
        · obtain ⟨more', goes⟩ := worked.goes marks journaled mine truthful.candid
          obtain rfl := List.append_cancel_left (goes.grown.symm.trans finished.grown)
          rw [Event.incidents_of_ne marks]
          exact ⟨goes.upholds.candid, fun owner post owns _ =>
            goes.upholds.oneSided owner post owns⟩
      refine ⟨⟨sound, ?_⟩, fun owner saved one post owns => ?_⟩
      · rw [Workshop.posts, posts, Event.trail_append]
        exact upheld.1
      · rw [Workshop.posts, posts] at owns
        obtain ⟨own, own_there, rfl⟩ := Option.map_eq_some_iff.mp (List.getElem?_map ▸ owns)
        rw [Event.trail_append]
        refine upheld.2 owner _ owns (fun same told => ?_) (one _ owns)
        exact Bool.eq_false_iff.mpr fun ahead => saved same told
          ⟨_, device?_of own_there, ahead⟩

/-- A read through a handle fetches from devices that are ahead of the host, for nobody. -/
theorem Truthful.read {α : Type} {step : Attempt (Session P.journaled) α}
    (truthful : Truthful workshop)
    (abides : step.Abides (errandsVerdict false (P.Spares .notCompiled))) :
    Truthful (workshop.read step) ∧
      ∀ number, Sided workshop number → Sided (workshop.read step) number := by
  have errands : Errands false workshop.session (step.perform workshop.session).2 :=
    abides.reached workshop.session
  obtain ⟨more, goes⟩ : ∃ more, Goes workshop.posts _ none workshop.session _ more :=
    truthful.candid.errands errands
  have trail : Event.trail (workshop.read step).history =
      Event.trail workshop.history ++ Incident.ofEntries none more := by
    rw [Workshop.read, Event.trail_append, entriesSince, goes.grown, List.drop_left,
      Event.incidents]
  refine ⟨⟨truthful.sound.read abides, ?_⟩, fun number one post owns => ?_⟩
  · rw [trail]
    exact goes.upholds.candid
  · rw [trail]
    exact goes.upholds.oneSided number post owns (one post owns)

/-- Every move keeps a workshop truthful, and tears a wrapper only by telling it of a modification
while it is ahead of the host. -/
theorem Truthful.step (truthful : Truthful workshop) (move : Move P) :
    Truthful (workshop.step move) ∧ ∀ number,
      (move = .work number .markHostModified → ¬ Ahead workshop number) →
        Sided workshop number → Sided (workshop.step move) number := by
  cases move with
  | wrap subject options training optimizer =>
      obtain ⟨next, sided⟩ := truthful.wrap subject options training optimizer
      exact ⟨next, fun number _ => sided number⟩
  | work number task =>
      obtain ⟨next, sided⟩ := truthful.work number task
      exact ⟨next, fun owner saved => sided owner fun same told => saved (by rw [same, told])⟩
  | parameters handle =>
      obtain ⟨next, sided⟩ := truthful.read (abides_parameters id handle)
      exact ⟨next, fun number _ => sided number⟩
  | forward handle inputs =>
      obtain ⟨next, sided⟩ := truthful.read (abides_forward id handle inputs)
      exact ⟨next, fun number _ => sided number⟩
  | sync handle =>
      obtain ⟨next, sided⟩ := truthful.read (abides_resolve id handle)
      exact ⟨next, fun number _ => sided number⟩
  | elapse world models =>
      have same :
          Upholds workshop.posts _ _ workshop.session (workshop.elapse world models).session :=
        truthful.candid.same rfl rfl
      exact ⟨⟨truthful.sound.elapse world models, same.candid⟩, fun number _ one post owns =>
        same.oneSided number post owns (one post owns)⟩

/-- A run tears a wrapper only by telling it of a modification while it is ahead of the host. -/
theorem Truthful.run (truthful : Truthful workshop) (moves : List (Move P)) :
    Truthful (workshop.run moves) ∧ ∀ number,
      (∀ earlier, earlier ++ [.work number .markHostModified] <+: moves →
        ¬ Ahead (workshop.run earlier) number) →
          Sided workshop number → Sided (workshop.run moves) number := by
  induction moves using List.reverseRecOn with
  | nil => exact ⟨truthful, fun _ _ => id⟩
  | append_singleton earlier last ih =>
      obtain ⟨reached, sided⟩ := ih
      obtain ⟨next, one⟩ := reached.step last
      rw [Workshop.run, List.foldl_append]
      refine ⟨next, fun number saved start => one number (fun told => ?_) (sided number ?_ start)⟩
      · exact saved earlier (told ▸ List.prefix_refl _)
      · exact fun prior there => saved prior (there.trans (List.prefix_append _ _))

/-- A wrapper that is told of a modification while it is ahead of the host is torn. -/
theorem Ahead.torn (ahead : Ahead workshop number) :
    Torn (workshop.step (.work number .markHostModified)) number := by
  obtain ⟨device, there, stale⟩ := ahead
  obtain ⟨wrapper, owns, rfl⟩ := Option.map_eq_some_iff.mp there
  have told : workshop.step (.work number .markHostModified) =
      { session := { workshop.session with
          devices := workshop.session.devices.update wrapper.device.number fun device =>
            { device with deviceStale := true } }
        wrappers := workshop.wrappers.set number wrapper
        history := workshop.history ++ [.worked number .markHostModified (.ok none)
          (entriesSince workshop.session workshop.session)] } := by
    rw [Workshop.step, Workshop.work, owns]
    rfl
  have marked : (workshop.step (.work number .markHostModified)).session.device wrapper.device =
      { workshop.session.device wrapper.device with deviceStale := true } := by
    rw [told, device_update, if_pos rfl]
  have kept :
      (workshop.step (.work number .markHostModified)).wrappers[number]? = some wrapper := by
    rw [told]
    exact List.getElem?_set_self (List.getElem?_eq_some_iff.mp owns).1
  refine ⟨_, device?_of kept, ?_⟩
  rw [marked]
  exact ⟨stale, rfl⟩

/-- In every run both marks of a wrapper stand at some time exactly if it is told of a modification
while a training step of it is unsaved. If that never happens, no copy overwrites what is newer,
unless by hand. -/
theorem torn_iff_told_when_ahead (world : P.World) (moves : List (Move P)) (number : Nat) :
    ((∃ earlier, earlier <+: moves ∧ Torn ((start world).run earlier) number) ↔
      ∃ earlier, earlier ++ [.work number .markHostModified] <+: moves ∧
        Ahead ((start world).run earlier) number) ∧
    ((∀ earlier, earlier <+: moves → ¬ Torn ((start world).run earlier) number) →
      SparedAll ((start world).run moves) number) := by
  have torn : (∃ earlier, earlier ++ [.work number .markHostModified] <+: moves ∧
      Ahead ((start world).run earlier) number) →
        ∃ earlier, earlier <+: moves ∧ Torn ((start world).run earlier) number := by
    rintro ⟨earlier, there, ahead⟩
    refine ⟨_, there, ?_⟩
    rw [Workshop.run, List.foldl_append]
    exact ahead.torn
  have sided {earlier : List (Move P)} (there : earlier <+: moves)
      (saved : ¬ ∃ earlier, earlier ++ [.work number .markHostModified] <+: moves ∧
        Ahead ((start world).run earlier) number) : Sided ((start world).run earlier) number :=
    ((truthful_start world).run earlier).2 number
      (fun prior told ahead => saved ⟨prior, told.trans there, ahead⟩) (sided_start world number)
  -- without such a report the wrapper is one-sided all along, and both follow from that
  refine ⟨⟨fun ⟨earlier, there, both⟩ => ?_, torn⟩, fun never => ?_⟩
  · by_contra saved
    exact (sided there saved).not_torn both
  · exact (sided (List.prefix_refl moves) fun told => by
      obtain ⟨earlier, there, both⟩ := torn told
      exact never earlier there both).sparedAll

/-- A model whose hook is the device of the first wrapper. -/
def hookedModel : Store (ModelCell (Rehearsal.platform true).journaled) :=
  (Store.empty.add ⟨⟨.empty, [], true⟩, 0, false, some (.device ⟨0⟩), 0⟩).2

/-- A call that makes a training step. -/
def trainingCall : Move (Rehearsal.platform true) := .work 0 (.call ⟨[.absent], []⟩)

/-- A wrapper that trains the model, and one step. -/
def trainedOnce : List (Move (Rehearsal.platform true)) :=
  [.elapse Rehearsal.World.initial hookedModel,
    .wrap (.training ⟨0⟩ none)
      (Options.initial.put "anchor_mode" (.int AnchorMode.all.code)) true none,
    trainingCall]

/-- A run from the start of a rehearsal. -/
abbrev rehearsed (moves : List (Move (Rehearsal.platform true))) :
    Workshop (Rehearsal.platform true) :=
  (start Rehearsal.World.initial).run moves

/-- If weights are modified by hand after a step that was not fetched, both marks stand, and the
next copy loses one of the two: the push before a call loses the step, the fetch for a read the
modification. -/
theorem told_when_ahead_loses :
    let told := trainedOnce ++ [.work 0 .markHostModified]
    Torn (rehearsed told) 0 ∧
      ¬ SparedAll (rehearsed (told ++ [trainingCall])) 0 ∧
      ¬ SparedAll (rehearsed (told ++ [.parameters ⟨0⟩])) 0 := by
  decide +kernel

/-- The step is fetched at the second attempt. The weights are modified by hand after that, and
there is another step. -/
def toldWhenSaved : List (Move (Rehearsal.platform true)) :=
  trainedOnce ++
    [.elapse (Rehearsal.World.initial.setFailing "to_host" true) hookedModel, .parameters ⟨0⟩,
      .elapse Rehearsal.World.initial hookedModel, .parameters ⟨0⟩, .work 0 .markHostModified,
      trainingCall, .parameters ⟨0⟩]

/-- Both steps are fetched and the modification is sent, and nothing is lost. -/
theorem told_when_saved_loses_nothing :
    ((∀ earlier, earlier <+: toldWhenSaved → ¬ Torn (rehearsed earlier) 0) ∧
      SparedAll (rehearsed toldWhenSaved) 0) ∧
      (rehearsed toldWhenSaved).session.world.entries.countP Entry.trained = 2 ∧
      (rehearsed toldWhenSaved).session.world.entries.countP Entry.fetched = 2 ∧
      (rehearsed toldWhenSaved).session.world.entries.countP (Entry.sent ⟨0, true⟩) = 1 := by
  have never : ∀ earlier, earlier <+: toldWhenSaved → ¬ Torn (rehearsed earlier) 0 := by
    have each : ∀ length ≤ toldWhenSaved.length,
        ¬ Torn (rehearsed (toldWhenSaved.take length)) 0 := by
      decide +kernel
    intro earlier there
    rw [List.prefix_iff_eq_take.mp there]
    exact each _ there.length_le
  have spared := (torn_iff_told_when_ahead Rehearsal.World.initial toldWhenSaved 0).2 never
  exact ⟨⟨never, spared⟩, by decide +kernel⟩

end Workshop

end Offload
