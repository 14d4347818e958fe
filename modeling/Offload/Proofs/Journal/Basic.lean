/-
# Journaled platforms

Any platform can be watched: its operations do what they did, and each leaves an entry in a
journal that says what was asked and whether it succeeded. The journal lies beside the world of
the platform, which cannot see it. A journaled platform is a platform like any other, so wrappers
run on it as they are, and what they ask for can be read off its journal.

An executable is known to the journal by a tag: how many were compiled before it, and whether it
was compiled to train. Capturing a model is a dialogue; its entry is written when the dialogue is
over, after the entries of what the model was asked meanwhile.
-/

import Offload.Executor.Wrappers

namespace Offload

/-- How an executable is known to a journal. -/
structure Tag where
  /-- How many executables were compiled before. -/
  number : Nat
  /-- It was compiled to train. -/
  training : Bool
  deriving DecidableEq, Repr

/-- Something that is asked of a platform. -/
inductive Operation where
  | forward (inputs : List Tree)
  | parameters
  | layers
  | castLayer (layer : String) (dtype : DType)
  | trace (inputs : List Tree)
  | script
  | inferInput (position : Nat) (sample : Tensor)
  | castGraphLayer (layer : String) (dtype : DType)
  | propagateShapes
  /-- The tag is the one of the executable, if there comes to be one. -/
  | compile (tag : Tag) (request : CompileRequest)
  | execute (tag : Tag) (inputs : List Value) (optimizer : Option Descriptor)
  | copyToHost (tag : Tag)
  | copyToDevice (tag : Tag)
  | programText (tag : Tag)
  /-- Something outside was let refresh host weights. -/
  | refresh

/-- An entry of a journal. -/
structure Entry where
  operation : Operation
  succeeded : Bool
  /-- The application demanded the operation itself, rather than a step that needs it. -/
  demanded : Bool

/-- The entry of an executable that came to be. -/
def Entry.compiles (entry : Entry) : Bool :=
  match entry.operation with
  | .compile _ _ => entry.succeeded
  | _ => false

/-- A world with a journal beside it. -/
structure Journaled (World : Type) where
  world : World
  /-- Entries are now written as demanded. -/
  demanding : Bool
  entries : List Entry

/-- An executable and its tag. -/
structure Tagged (Executable : Type) where
  tag : Tag
  executable : Executable

namespace Journaled

variable {World α τ : Type}

/-- A world of which nothing was asked yet. -/
def start (world : World) : Journaled World := ⟨world, false, []⟩

/-- The world as a part of the journaled world. -/
def focus : Focus (Journaled World) World :=
  ⟨Journaled.world, fun world state => { state with world := world }⟩

/-- The world beside something else. -/
def focusBeside : Focus (τ × Journaled World) (τ × World) :=
  ⟨fun state => (state.1, state.2.world),
    fun part state => (part.1, { state.2 with world := part.2 })⟩

/-- Write an entry. -/
def write (operation : Operation) (succeeded : Bool) (state : Journaled World) :
    Journaled World :=
  { state with entries := state.entries ++ [⟨operation, succeeded, state.demanding⟩] }

/-- A result is a success. -/
def succeeds : Result α → Bool
  | .ok _ => true
  | .error _ => false

/-- Do something on the world and write down how it went. -/
def noting (operation : Operation) (step : Attempt World α) : Attempt (Journaled World) α := do
  let outcome ← (Attempt.within focus step).observe
  modify (write operation (succeeds outcome))
  Attempt.ofResult outcome

/-- Do something on the world and what lies beside it, and write down how it went. -/
def notingBeside (operation : Operation) (step : Attempt (τ × World) α) :
    Attempt (τ × Journaled World) α := do
  let outcome ← (Attempt.within focusBeside step).observe
  Attempt.onRest (modify (write operation (succeeds outcome)))
  Attempt.ofResult outcome

/-- Compile something under the next free tag. -/
def compiling {Executable : Type} (request : CompileRequest) (step : Attempt World Executable) :
    Attempt (Journaled World) (Tagged Executable) := do
  let tag : Tag := ⟨(← get).entries.countP Entry.compiles, request.training⟩
  return ⟨tag, ← noting (.compile tag request) step⟩

end Journaled

/-- A dialogue over the world, held over the journaled world and written down when it is over. -/
def Capture.journaled {World α : Type} (operation : Operation) :
    Capture World α → Capture (Journaled World) α
  | .done outcome =>
      .look fun state =>
        .leave (state.write operation (Journaled.succeeds outcome)) (.done outcome)
  | .look next => .look fun state => (next state.world).journaled operation
  | .leave world next =>
      .look fun state => .leave { state with world := world } (next.journaled operation)
  | .signature next => .signature fun answer => (next answer).journaled operation
  | .layers next => .layers fun answer => (next answer).journaled operation
  | .parameters next => .parameters fun answer => (next answer).journaled operation
  | .forward inputs next => .forward inputs fun answer => (next answer).journaled operation

/-- A loss that is computed over the journaled world; it asks nothing of the platform. -/
def Loss.journaled {P : Platform} (loss : Loss P) (output target : Tree) :
    Attempt (Journaled P.World) Tree :=
  Attempt.within Journaled.focus (loss output target)

open Journaled in
/-- A platform with a journal. -/
@[reducible]
def Platform.journaled (P : Platform) : Platform where
  World := Journaled P.World
  Model := P.Model
  Graph := P.Graph
  Executable := Tagged P.Executable
  Hook := P.Hook
  model := {
    signature := P.model.signature
    forward := fun model inputs => noting (.forward inputs) (P.model.forward model inputs)
    parameters := fun model => noting .parameters (P.model.parameters model)
    layers := fun model => noting .layers (P.model.layers model)
    castLayer := fun layer dtype =>
      notingBeside (.castLayer layer dtype) (P.model.castLayer layer dtype) }
  blankModel := P.blankModel
  trace inputs := (P.trace inputs).journaled (.trace inputs)
  script := P.script.journaled .script
  inputCount := P.inputCount
  inferInput position sample :=
    notingBeside (.inferInput position sample) (P.inferInput position sample)
  castGraphLayer layer dtype :=
    notingBeside (.castGraphLayer layer dtype) (P.castGraphLayer layer dtype)
  propagateShapes := notingBeside .propagateShapes P.propagateShapes
  compileTraced graph request := compiling request (P.compileTraced graph request)
  compileScripted graph request := compiling request (P.compileScripted graph request)
  execute tagged inputs optimizer :=
    noting (.execute tagged.tag inputs optimizer) (P.execute tagged.executable inputs optimizer)
  copyToHost tagged := noting (.copyToHost tagged.tag) (P.copyToHost tagged.executable)
  copyToDevice tagged := noting (.copyToDevice tagged.tag) (P.copyToDevice tagged.executable)
  programText tagged := noting (.programText tagged.tag) (P.programText tagged.executable)
  hardwareAvailable := P.hardwareAvailable
  refresh hook := noting .refresh (P.refresh hook)

/-- A subject of a platform, on the platform with its journal. -/
def Subject.journaled {P : Platform} : Subject P → Subject P.journaled
  | .own model => .own model
  | .shared handle => .shared handle
  | .training handle loss => .training handle (loss.map Loss.journaled)

/-- The subject came from the platform without its journal. -/
def Subject.IsJournaled {P : Platform} (subject : Subject P.journaled) : Prop :=
  ∃ plain : Subject P, subject = plain.journaled

/-- An executor of a platform, on the platform with its journal. -/
def Executor.journaled {P : Platform} (executor : Executor P) : Executor P.journaled where
  subject := executor.subject.journaled
  options := executor.options
  training := executor.training
  device := executor.device
  optimizer := executor.optimizer
  requested := executor.requested
  refreshesSeen := executor.refreshesSeen
  warned := executor.warned

end Offload
