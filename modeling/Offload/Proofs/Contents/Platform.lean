/-
# Platforms that look at contents only

What is handed to a platform is the same, up to layouts, when its tensors have the same contents. A
platform is indifferent to layouts if it cannot tell such things apart: from related worlds, and with
related models, graphs and executables, each of its operations comes to ends that agree, and its
captures ask the same questions. What is related is up to the platform; nothing has to be, but a
world, a model and an executable with itself.

Such a platform simulates itself for tensors of the same contents. It stays indifferent with a journal
beside it, and the journals of related worlds are the same entry by entry, up to the layouts of the
tensors in them.
-/

import Offload.Proofs.Journal.Growth
import Offload.Proofs.Simulation.Sessions

namespace Offload

open Attempt

/-! ## What is handed over -/

/-- Two leaves are the same, or tensors with the same contents in their buffers. -/
abbrev Value.Agrees : Value → Value → Prop := Relates Tensor.Agrees

/-- Two leaves hold tensors of the same contents, or the same value that is none. -/
abbrev Value.Same : Value → Value → Prop := Relates Tensor.SameContents

/-- An executor may hold tensors with the same contents in their buffers, and may hand over tensors of
the same contents. Whether they are strided is not compared. -/
def Likeness.contents : Likeness where
  inner := Tensor.Agrees
  outer := Tensor.SameContents
  strict := false
  refl := .refl
  outer_of_inner _ _ := Tensor.Agrees.sameContents
  dtype agrees := agrees.sameContents.dtype
  isContiguous := nofun
  contiguous := Tensor.Agrees.contiguous
  narrow _ _ _ := Batch.agree_narrow
  toFullPrecision := Tensor.Agrees.toFullPrecision

/-- The same is asked of a platform, up to layouts. -/
inductive Operation.Same : Operation → Operation → Prop where
  | refl (operation : Operation) : Same operation operation
  | forward {inputs inputs' : List Tree} (same : Tree.AlignedItems Value.Same inputs inputs') :
      Same (.forward inputs) (.forward inputs')
  | trace {inputs inputs' : List Tree} (same : Tree.AlignedItems Value.Same inputs inputs') :
      Same (.trace inputs) (.trace inputs')
  | inferInput (position : Nat) {sample sample' : Tensor} (same : Tensor.SameContents sample sample') :
      Same (.inferInput position sample) (.inferInput position sample')
  | compile (tag : Tag) {request request' : CompileRequest} (same : request.Relates Value.Same request') :
      Same (.compile tag request) (.compile tag request')
  | execute (tag : Tag) {inputs inputs' : List Value} (same : List.Forall₂ Value.Same inputs inputs')
      (optimizer : Option Descriptor) :
      Same (.execute tag inputs optimizer) (.execute tag inputs' optimizer)

/-- The same was asked, with the same success. -/
structure Entry.Same (entry other : Entry) : Prop where
  operation : entry.operation.Same other.operation
  succeeded : entry.succeeded = other.succeeded
  demanded : entry.demanded = other.demanded

theorem Entry.Same.refl (entry : Entry) : entry.Same entry := ⟨.refl _, rfl, rfl⟩

theorem Entry.Same.compiles {entry other : Entry} (same : entry.Same other) :
    entry.compiles = other.compiles := by
  obtain ⟨operation, succeeded, demanded⟩ := entry
  obtain ⟨operation', succeeded', demanded'⟩ := other
  obtain ⟨operations, rfl, rfl⟩ := same
  cases operations <;> rfl

/-- As many executables were compiled. -/
theorem Entry.countP_compiles {entries others : List Entry}
    (same : List.Forall₂ Entry.Same entries others) :
    entries.countP Entry.compiles = others.countP Entry.compiles := by
  induction same with
  | nil => rfl
  | cons first _ ih => rw [List.countP_cons, List.countP_cons, ih, first.compiles]

/-! ## Dialogues -/

section Dialogue

variable {World α β : Type} {worlds : World → World → Prop} {values : α → α → Prop}
  {values' : β → β → Prop}

/-- Two dialogues ask the same, up to layouts, as long as the answers agree; they look at worlds that
are related, leave such worlds, and end with outcomes that agree. -/
inductive Capture.Same (worlds : World → World → Prop) (values : α → α → Prop) :
    Capture World α → Capture World α → Prop where
  | done {outcome outcome' : Result α} (agree : Result.Agree values outcome outcome') :
      Same worlds values (.done outcome) (.done outcome')
  | look {next next' : World → Capture World α}
      (nexts : ∀ world world', worlds world world' → Same worlds values (next world) (next' world')) :
      Same worlds values (.look next) (.look next')
  | leave {world world' : World} {next next' : Capture World α} (related : worlds world world')
      (nexts : Same worlds values next next') :
      Same worlds values (.leave world next) (.leave world' next')
  | signature {next next' : Signature → Capture World α}
      (nexts : ∀ answer, Same worlds values (next answer) (next' answer)) :
      Same worlds values (.signature next) (.signature next')
  | layers {next next' : Result (List LayerInfo) → Capture World α}
      (nexts : ∀ answer, Same worlds values (next answer) (next' answer)) :
      Same worlds values (.layers next) (.layers next')
  | parameters {next next' : Result (List NamedParameter) → Capture World α}
      (nexts : ∀ answer answer',
        Result.Agree (List.Forall₂ (NamedParameter.Relates Tensor.SameContents)) answer answer' →
          Same worlds values (next answer) (next' answer')) :
      Same worlds values (.parameters next) (.parameters next')
  | forward {inputs inputs' : List Tree} {next next' : Result Tree → Capture World α}
      (same : Tree.AlignedItems Value.Same inputs inputs')
      (nexts : ∀ answer answer', Result.Agree (Tree.Aligned Value.Same) answer answer' →
        Same worlds values (next answer) (next' answer')) :
      Same worlds values (.forward inputs next) (.forward inputs' next')

namespace Capture.Same

/-- Dialogues that go on after the same ones are the same if what follows is. -/
theorem andThen {rest rest' : α → Capture World β} {dialogue dialogue' : Capture World α}
    (same : Same worlds values dialogue dialogue')
    (goes : ∀ value value', values value value' →
      Same worlds values' (rest value) (rest' value')) :
    Same worlds values' (dialogue.andThen rest) (dialogue'.andThen rest') := by
  induction same with
  | done agree =>
      cases agree with
      | ok related => exact goes _ _ related
      | error cause => exact .done (.error cause)
  | look _ ih => exact .look ih
  | leave related _ ih => exact .leave related ih
  | signature _ ih => exact .signature ih
  | layers _ ih => exact .layers ih
  | parameters _ ih => exact .parameters ih
  | forward same _ ih => exact .forward same ih

/-- Alike steps are the same as parts of dialogues. -/
theorem ofAttempt {step step' : Attempt World α} (alike : step.Alike values worlds step') :
    Same worlds values (Capture.ofAttempt step) (Capture.ofAttempt step') := by
  refine .look fun world world' related => ?_
  have ends := alike world world' related
  generalize step.perform world = ended at *
  generalize step'.perform world' = ended' at *
  cases ends with
  | ok same reached => exact .leave reached (.done (.ok same))
  | error reached => exact .leave reached (.done (.error _))

/-- Held with answers that agree, two dialogues that are the same go the same way. -/
theorem alike {dialogue dialogue' : Capture World α} (same : Same worlds values dialogue dialogue') :
    dialogue.Alike .contents worlds values dialogue' := by
  intro σ σ' states focus focus' answers answers' agree
  induction same with
  | done outcome => exact alike_of_agree outcome
  | look _ ih =>
      exact alike_bind alike_get fun state state' related => ih _ _ (agree.looks _ _ related)
  | leave related _ ih =>
      exact alike_bind_eq (alike_modify fun _ _ states => agree.moves _ _ _ _ states related)
        fun _ => ih
  | signature _ ih =>
      apply alike_bind alike_get
      intro state state' related
      rw [agree.signature state state' related]
      exact ih _
  | layers _ ih => exact alike_bind_eq (alike_observe agree.layers) ih
  | parameters _ ih => exact alike_bind (alike_observe_agree agree.parameters) ih
  | forward same _ ih => exact alike_bind (alike_observe_agree (agree.forward _ _ same)) ih

end Capture.Same

end Dialogue

/-! ## Journals -/

namespace Journaled

variable {World α τ : Type} {worlds : World → World → Prop} {parts : τ → τ → Prop}
  {values : α → α → Prop} {operation operation' : Operation}

/-- The worlds are related, and the journals are the same up to layouts. -/
structure Same (worlds : World → World → Prop) (state other : Journaled World) : Prop where
  world : worlds state.world other.world
  demanding : state.demanding = other.demanding
  entries : List.Forall₂ Entry.Same state.entries other.entries

theorem Same.refl (reflexive : ∀ world, worlds world world) (state : Journaled World) :
    Same worlds state state :=
  ⟨reflexive state.world, rfl, List.forall₂_same.mpr fun entry _ => .refl entry⟩

theorem Same.write {state other : Journaled World} (same : Same worlds state other)
    (operations : operation.Same operation') (succeeded : Bool) :
    Same worlds (state.write operation succeeded) (other.write operation' succeeded) where
  world := same.world
  demanding := same.demanding
  entries := List.rel_append same.entries (.cons ⟨operations, rfl, same.demanding⟩ .nil)

/-- Results that agree are both successes or both failures. -/
theorem succeeds_eq {result result' : Result α} (agree : Result.Agree values result result') :
    succeeds result = succeeds result' := by
  cases agree <;> rfl

/-- Alike steps are alike when they are written down. -/
theorem alike_noting_same {step step' : Attempt World α} (operations : operation.Same operation')
    (steps : step.Alike values worlds step') :
    (noting operation step).Alike values (Same worlds) (noting operation' step') := by
  have onWorld : (within focus step).Alike values (Same worlds) (within focus step') :=
    alike_within steps (fun _ _ same => same.world) fun _ _ _ _ world same =>
      { same with world := world }
  apply alike_bind (alike_observe_agree onWorld)
  intro outcome outcome' agree
  refine alike_bind_eq (alike_modify fun state state' same => ?_) fun _ => alike_of_agree agree
  rw [succeeds_eq agree]
  exact same.write operations _

theorem alike_notingBeside_same {step step' : Attempt (τ × World) α}
    (operations : operation.Same operation')
    (steps : step.Alike values (Both parts worlds) step') :
    (notingBeside operation step).Alike values (Both parts (Same worlds))
      (notingBeside operation' step') := by
  have onWorld : (within focusBeside step).Alike values (Both parts (Same worlds))
      (within focusBeside step') :=
    alike_within steps (fun _ _ same => ⟨same.1, same.2.world⟩) fun _ _ _ _ part same =>
      ⟨part.1, { same.2 with world := part.2 }⟩
  apply alike_bind (alike_observe_agree onWorld)
  intro outcome outcome' agree
  refine alike_bind_eq (alike_onRest_both (alike_modify fun state state' same => ?_))
    fun _ => alike_of_agree agree
  rw [succeeds_eq agree]
  exact same.write operations _

/-- Related executables with the same tag. -/
structure SameTagged {Executable : Type} (executables : Executable → Executable → Prop)
    (tagged other : Tagged Executable) : Prop where
  tag : tagged.tag = other.tag
  executable : executables tagged.executable other.executable

/-- Compiling alike gives executables of the same tag, since as many were compiled before. -/
theorem alike_compiling_same {Executable : Type} {executables : Executable → Executable → Prop}
    {request request' : CompileRequest} {step step' : Attempt World Executable}
    (requests : request.Relates Value.Same request') (steps : step.Alike executables worlds step') :
    (compiling request step).Alike (SameTagged executables) (Same worlds)
      (compiling request' step') := by
  apply alike_bind alike_get
  intro state state' same
  rw [Entry.countP_compiles same.entries, requests.training]
  exact alike_bind (alike_noting_same (.compile _ requests) steps)
    fun _ _ executable => alike_pure ⟨rfl, executable⟩

end Journaled

/-- Dialogues that are the same are so when they are written down. -/
theorem Capture.Same.journaled {World α : Type} {worlds : World → World → Prop}
    {values : α → α → Prop} {operation operation' : Operation}
    (operations : operation.Same operation') {dialogue dialogue' : Capture World α}
    (same : Same worlds values dialogue dialogue') :
    Same (Journaled.Same worlds) values (dialogue.journaled operation)
      (dialogue'.journaled operation') := by
  induction same with
  | done agree =>
      refine .look fun state state' same => .leave ?_ (.done agree)
      rw [Journaled.succeeds_eq agree]
      exact same.write operations _
  | look _ ih => exact .look fun _ _ same => ih _ _ same.world
  | leave related _ ih => exact .look fun _ _ same => .leave { same with world := related } ih
  | signature _ ih => exact .signature ih
  | layers _ ih => exact .layers ih
  | parameters _ ih => exact .parameters ih
  | forward same _ ih => exact .forward same ih

/-! ## Platforms -/

/-- A platform that looks at contents only, and what it cannot tell apart then. Its results may be the
same altogether, or of the same contents at least. -/
structure Indifference (P : Platform) where
  worlds : P.World → P.World → Prop
  models : P.Model → P.Model → Prop
  graphs : P.Graph → P.Graph → Prop
  executables : P.Executable → P.Executable → Prop
  results : Tensor → Tensor → Prop
  sameWorld : ∀ world, worlds world world
  sameModel : ∀ model, models model model
  sameExecutable : ∀ executable, executables executable executable
  sameResult : ∀ {result result'}, results result result' → Tensor.SameContents result result'
  signature : ∀ {model model'}, models model model' →
    P.model.signature model = P.model.signature model'
  forward : ∀ {model model' inputs inputs'}, models model model' →
    Tree.AlignedItems Value.Same inputs inputs' →
      (P.model.forward model inputs).Alike (Tree.Aligned Value.Same) worlds
        (P.model.forward model' inputs')
  parameters : ∀ {model model'}, models model model' →
    (P.model.parameters model).Alike (List.Forall₂ (NamedParameter.Relates Tensor.SameContents)) worlds
      (P.model.parameters model')
  layers : ∀ {model model'}, models model model' →
    (P.model.layers model).Alike Eq worlds (P.model.layers model')
  castLayer : ∀ layer dtype,
    (P.model.castLayer layer dtype).Alike Eq (Both models worlds) (P.model.castLayer layer dtype)
  trace : ∀ {inputs inputs'}, Tree.AlignedItems Value.Same inputs inputs' →
    (P.trace inputs).Same worlds graphs (P.trace inputs')
  script : P.script.Same worlds graphs P.script
  inputCount : ∀ {graph graph'}, graphs graph graph' → P.inputCount graph = P.inputCount graph'
  inferInput : ∀ position {sample sample'}, Tensor.SameContents sample sample' →
    (P.inferInput position sample).Alike Eq (Both graphs worlds) (P.inferInput position sample')
  castGraphLayer : ∀ layer dtype,
    (P.castGraphLayer layer dtype).Alike Eq (Both graphs worlds) (P.castGraphLayer layer dtype)
  compileTraced : ∀ {graph graph' request request'}, graphs graph graph' →
    CompileRequest.Relates Value.Same request request' →
      (P.compileTraced graph request).Alike executables worlds (P.compileTraced graph' request')
  compileScripted : ∀ {graph graph' request request'}, graphs graph graph' →
    CompileRequest.Relates Value.Same request request' →
      (P.compileScripted graph request).Alike executables worlds (P.compileScripted graph' request')
  execute : ∀ {executable executable' inputs inputs'}, executables executable executable' →
    List.Forall₂ Value.Same inputs inputs' → ∀ optimizer,
      (P.execute executable inputs optimizer).Alike (Tree.AlignedItems (Value.Relates results)) worlds
        (P.execute executable' inputs' optimizer)
  copyToHost : ∀ {executable executable'}, executables executable executable' →
    (P.copyToHost executable).Alike Eq worlds (P.copyToHost executable')
  copyToDevice : ∀ {executable executable'}, executables executable executable' →
    (P.copyToDevice executable).Alike Eq worlds (P.copyToDevice executable')
  refresh : ∀ hook, (P.refresh hook).Alike Eq worlds (P.refresh hook)

namespace Indifference

variable {P : Platform} (ind : Indifference P)

open Journaled in
/-- A platform with a journal looks at contents only if it does without. -/
def journaled : Indifference P.journaled where
  worlds := Journaled.Same ind.worlds
  models := ind.models
  graphs := ind.graphs
  executables := SameTagged ind.executables
  results := ind.results
  sameWorld := .refl ind.sameWorld
  sameModel := ind.sameModel
  sameExecutable tagged := ⟨rfl, ind.sameExecutable tagged.executable⟩
  sameResult := ind.sameResult
  signature := ind.signature
  forward models inputs := alike_noting_same (.forward inputs) (ind.forward models inputs)
  parameters models := alike_noting_same (.refl _) (ind.parameters models)
  layers models := alike_noting_same (.refl _) (ind.layers models)
  castLayer layer dtype := alike_notingBeside_same (.refl _) (ind.castLayer layer dtype)
  trace inputs := (ind.trace inputs).journaled (.trace inputs)
  script := ind.script.journaled (.refl _)
  inputCount := ind.inputCount
  inferInput position _ _ same :=
    alike_notingBeside_same (.inferInput position same) (ind.inferInput position same)
  castGraphLayer layer dtype := alike_notingBeside_same (.refl _) (ind.castGraphLayer layer dtype)
  compileTraced graphs request := alike_compiling_same request (ind.compileTraced graphs request)
  compileScripted graphs request := alike_compiling_same request (ind.compileScripted graphs request)
  execute tagged inputs optimizer := by
    obtain ⟨same, executable⟩ := tagged
    dsimp only
    rw [same]
    exact alike_noting_same (.execute _ inputs optimizer) (ind.execute executable inputs optimizer)
  copyToHost tagged := by
    obtain ⟨same, executable⟩ := tagged
    dsimp only
    rw [same]
    exact alike_noting_same (.refl _) (ind.copyToHost executable)
  copyToDevice tagged := by
    obtain ⟨same, executable⟩ := tagged
    dsimp only
    rw [same]
    exact alike_noting_same (.refl _) (ind.copyToDevice executable)
  refresh hook := alike_noting_same (.refl _) (ind.refresh hook)

/-- A loss that looks at contents only. -/
def FitsLoss (loss : Loss P) : Prop :=
  ∀ {output output' target target'}, Tree.Aligned Value.Same output output' →
    Tree.Aligned Value.Same target target' →
      (loss output target).Alike (Tree.Aligned Value.Same) ind.worlds (loss output' target')

/-- A platform that looks at contents only cannot be told from itself, whatever the layouts. -/
def simulation : Simulation .contents P P where
  worlds := ind.worlds
  models := ind.models
  graphs := ind.graphs
  executables := ind.executables
  hooks := Eq
  results := ind.results
  losses loss loss' := loss = loss' ∧ ind.FitsLoss loss
  signature := ind.signature
  forward := ind.forward
  parameters := ind.parameters
  layers := ind.layers
  castLayer := ind.castLayer
  trace inputs := (ind.trace inputs).alike
  script := ind.script.alike
  inputCount := ind.inputCount
  inferInput := ind.inferInput
  castGraphLayer := ind.castGraphLayer
  compileTraced := ind.compileTraced
  compileScripted := ind.compileScripted
  execute := ind.execute
  copyToHost := ind.copyToHost
  copyToDevice := ind.copyToDevice
  refresh := by
    rintro hook _ rfl
    exact ind.refresh hook
  loss := by
    rintro loss _ ⟨rfl, fits⟩ output output' target target' outputs targets
    exact fits outputs targets

variable {ind}

/-- A loss that looks at contents only does so with a journal beside the world. -/
theorem FitsLoss.journaled {loss : Loss P} (fits : ind.FitsLoss loss) :
    ind.journaled.FitsLoss loss.journaled :=
  fun outputs targets => alike_within (fits outputs targets) (fun _ _ same => same.world)
    fun _ _ _ _ world same => { same with world := world }

/-- A session cannot be told from itself. -/
theorem similar_session (session : Session P) : session.Similar ind.simulation session where
  world := ind.sameWorld session.world
  notices := rfl
  cell handle := by
    refine ⟨ind.sameModel _, rfl, rfl, ?_, rfl⟩
    cases (session.cell handle).hook with
    | none => exact .none
    | some hook =>
        cases hook with
        | device id => exact .some (.device id)
        | outside hook => exact .some (.outside rfl)
  device id := by
    refine ⟨?_, rfl, rfl⟩
    cases (session.device id).executable with
    | none => exact .none
    | some executable => exact .some (ind.sameExecutable executable)
  nextModel := rfl
  nextDevice := rfl

end Indifference

end Offload
