/-
# Configuring

Options are made by changes, one after the other, from the configuration everything starts
from. The first change that is refused ends the making; what earlier ones had to tell was told.
-/

import Offload.Notice
import Offload.Options.Store

namespace Offload.Options

/-- What a change has to tell. -/
def Change.notices : Change → List Notice
  | .anchorMode mode period => mode.notices period
  | _ => []

/-- Make a change and tell what it has to tell. -/
def changeReported (step : Change) : Attempt (OptionStore × List Notice) Unit := do
  Attempt.onRest (modify (· ++ step.notices))
  Attempt.onOwn (OptionStore.change step)

/-- Make some changes, starting from the initial configuration. -/
def configure (changes : List Change) : Attempt (List Notice) Options := do
  let ((), store) ← Attempt.withOwn OptionStore.initial (changes.forM changeReported)
  return store.options

end Offload.Options
