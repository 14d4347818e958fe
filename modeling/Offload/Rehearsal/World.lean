/-
# The world of a rehearsal

A rehearsal goes through the motions of a platform without a device: every operation records
that it was asked for, and the ones that are told to fail do so. The record is a list of events
in the order in which they happened.
-/

import Offload.Annotator
import Offload.Platform.Basic

namespace Offload.Rehearsal

/-- A captured graph: how many inputs it has, which of them were inferred, and the casts of its
layers. -/
structure Graph where
  inputCount : Nat
  inferred : List Nat
  casts : List (String × DType)
  deriving Inhabited

namespace Graph

/-- A graph that was just captured. -/
def ofInputs (count : Nat) : Graph := ⟨count, [], []⟩

/-- An input was inferred. -/
def infer (graph : Graph) (position : Nat) : Graph :=
  { graph with inferred := graph.inferred ++ [position] }

/-- A layer was cast. -/
def cast (graph : Graph) (layer : String) (dtype : DType) : Graph :=
  { graph with casts := graph.casts ++ [(layer, dtype)] }

end Graph

/-- How a graph was captured. -/
inductive Frontend where
  | trace
  | script
  deriving DecidableEq, Repr

/-- The name of a way to capture. -/
def Frontend.name : Frontend → String
  | trace => "trace"
  | script => "script"

/-- An executable: its number and whether it trains. -/
structure Executable where
  number : Nat
  training : Bool
  deriving DecidableEq, Repr, Inhabited

/-- Something that was asked of the platform. -/
inductive Event where
  | modelCast (layer : String) (dtype : DType)
  | trace (inputs : List Tree)
  | layers (layers : List LayerInfo)
  | traced (output : Tree)
  | script
  | infer (position : Nat) (sample : Tensor)
  | graphCast (layer : String) (dtype : DType)
  | propagate (inferred : List Nat)
  | compile (frontend : Frontend) (request : CompileRequest) (graph : Graph)
  | execute (executable : Executable) (inputs : List Value) (optimizer : Option Descriptor)
  | toHost (executable : Executable)
  | toDevice (executable : Executable)
  | hook (left : Nat)
  | beginBlock (ipu : Nat)
  | endBlock
  | loss (reduction : Reduction) (value : Tensor)
  | print (value : Tensor)
  | custom (operation : CustomOperation) (inputs outputs : Nat)

/-- The state of a rehearsal. -/
structure World where
  /-- The operations that fail, by name. -/
  failing : List String
  /-- What happened, earliest first. -/
  events : List Event
  /-- The number of the next executable. -/
  nextExecutable : Nat
  /-- What executions give back; without it, their inputs. -/
  outputs : Option (List Tree)
  /-- The number of inputs of scripted graphs; without it, what the signature says. -/
  scriptInputs : Option Nat
  /-- How often each hook will still find the weights stale. -/
  hooks : List Nat

namespace World

/-- Nothing fails and nothing has happened; executions give back one zero. -/
def initial : World := ⟨[], [], 1, some [.leaf (.int 0)], none, []⟩

instance : Inhabited World := ⟨initial⟩

/-- Let an operation fail from now on, or no longer. -/
def setFailing (world : World) (operation : String) (fails : Bool) : World :=
  let others := world.failing.filter (· != operation)
  { world with failing := if fails then operation :: others else others }

/-- Add a hook that will find the weights stale so many times. -/
def addHook (world : World) (stale : Nat) : Nat × World :=
  (world.hooks.length, { world with hooks := world.hooks ++ [stale] })

/-- Forget what happened. -/
def forget (world : World) : World := { world with events := [] }

end World

/-- Record an event. -/
def record (event : Event) : Attempt World Unit :=
  modify fun world => { world with events := world.events ++ [event] }

/-- Fail if an operation is to fail. -/
def check (operation : String) : Attempt World Unit := do
  if (← get).failing.contains operation then throw (.platform s!"mock {operation} failed")

/-- Record an event, then fail if its operation is to fail. -/
def perform (event : Event) (operation : String) : Attempt World Unit := do
  record event
  check operation

/-- The annotator of a rehearsal: losses and printed tensors go on as they are, and operations
give their templates. -/
def annotator : Annotator World where
  beginBlock ipu := perform (.beginBlock ipu) "begin"
  endBlock := perform .endBlock "end"
  identityLoss value reduction := do
    perform (.loss reduction value) "loss"
    return value
  printTensor value := do
    perform (.print value) "print"
    return value
  customOperation inputs operation templates := do
    perform (.custom operation inputs.length templates.length) "custom"
    return templates

end Offload.Rehearsal
