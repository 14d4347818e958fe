/-
# Options with a code

Options whose values are stored as integers: how much of the output is handed back, when the
device is attached, and how its parts are synchronised.
-/

namespace Offload

/-- How much of the output of the iterations on the device is handed back. -/
inductive AnchorMode where
  /-- The last batch. -/
  | final
  /-- Every batch whose number is a multiple of the return period. -/
  | everyN
  /-- Every batch. -/
  | all
  /-- The sum of all batches. -/
  | sum
  /-- Not picked yet. -/
  | default
  deriving DecidableEq, Repr, Inhabited

namespace AnchorMode

/-- Every mode, by rising code. -/
def modes : List AnchorMode := [final, everyN, all, sum, default]

/-- The code a mode is stored as. -/
def code : AnchorMode → Int
  | final => 0
  | everyN => 1
  | all => 2
  | sum => 3
  | default => 4

/-- The name of a mode. -/
def name : AnchorMode → String
  | final => "Final"
  | everyN => "EveryN"
  | all => "All"
  | sum => "Sum"
  | default => "Default"

/-- The mode of a code. -/
def ofCode? (code : Int) : Option AnchorMode := modes.find? fun mode => mode.code == code

/-- The mode of a name. -/
def ofName? (name : String) : Option AnchorMode := modes.find? fun mode => mode.name == name

/-- A code stands for the mode that is stored as it. -/
theorem ofCode?_eq_some_iff {code : Int} {mode : AnchorMode} :
    ofCode? code = some mode ↔ mode.code = code := by
  constructor
  · intro found
    simpa using List.find?_some found
  · rintro rfl
    cases mode <;> rfl

end AnchorMode

/-- When the device is attached. -/
inductive ConnectionType where
  /-- From the start. -/
  | always
  /-- Once there is something to run. -/
  | onDemand
  /-- Not at all: models are compiled but never run. -/
  | never
  deriving DecidableEq, Repr, Inhabited

namespace ConnectionType

/-- Every connection type, by rising code. -/
def all : List ConnectionType := [always, onDemand, never]

/-- The code a connection type is stored as. -/
def code : ConnectionType → Int
  | always => 0
  | onDemand => 1
  | never => 2

/-- The name of a connection type. -/
def name : ConnectionType → String
  | always => "Always"
  | onDemand => "OnDemand"
  | never => "Never"

/-- The connection type of a code. -/
def ofCode? (code : Int) : Option ConnectionType := all.find? fun type => type.code == code

/-- The connection type of a name. -/
def ofName? (name : String) : Option ConnectionType := all.find? fun type => type.name == name

end ConnectionType

/-- How the parts of a device wait for each other. -/
inductive SyncPattern where
  | full
  | singlePipeline
  | pingPong
  deriving DecidableEq, Repr, Inhabited

namespace SyncPattern

/-- Every pattern, by rising code. -/
def all : List SyncPattern := [full, singlePipeline, pingPong]

/-- The code a pattern is stored as. -/
def code : SyncPattern → Int
  | full => 0
  | singlePipeline => 1
  | pingPong => 2

/-- The name of a pattern. -/
def name : SyncPattern → String
  | full => "Full"
  | singlePipeline => "SinglePipeline"
  | pingPong => "PingPong"

/-- The pattern of a code. -/
def ofCode? (code : Int) : Option SyncPattern := all.find? fun pattern => pattern.code == code

/-- The pattern of a name. -/
def ofName? (name : String) : Option SyncPattern := all.find? fun pattern => pattern.name == name

end SyncPattern

end Offload
