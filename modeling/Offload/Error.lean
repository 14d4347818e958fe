/-
# Causes of failure

Every way an operation can fail, one constructor for each cause with the data its message
needs. Failures of the platform, and those that a model states in its own words, are carried
through unchanged.
-/

import Offload.DType
import Offload.Shape
import Offload.Text.Quoted
import Offload.Options.Kind

namespace Offload

/-- The cause of a failure. -/
inductive Error where
  /-- A dimension at or beyond the rank. -/
  | dimensionOutOfRange (dimension rank : Nat)
  /-- A slice that ends beyond its dimension. -/
  | narrowOutOfBounds (dimension start length size : Nat)
  /-- A shape and a list of elements of different sizes. -/
  | elementCountMismatch (shape : Shape) (got : Nat)
  /-- A value that the target type cannot hold. -/
  | unrepresentable (dtype : DType)
  /-- A layout that leads outside the cells or strides it has. -/
  | outOfBounds
  /-- A buffer of more bytes than can be addressed. -/
  | tooLarge (bytes : Nat)
  /-- An option that was never declared; `valid` are the declared ones. -/
  | invalidOption (option : String) (valid : List String)
  /-- A value of another kind than the option was declared with. -/
  | optionKindMismatch (option : String) (expected got : OptionKind)
  /-- Options flattened before an anchor mode was picked. -/
  | unresolvedAnchorMode
  /-- Anchoring every so many batches without a positive period. -/
  | invalidAnchorReturnPeriod
  /-- Option groups that declare the same keys. -/
  | optionKeyConflict (keys : List String)
  /-- More arguments than declared parameters. -/
  | tooManyArguments (expected : List String) (got : Nat)
  /-- A parameter supplied twice. -/
  | duplicateArgument (name : String)
  /-- A keyword that names no parameter. -/
  | unexpectedKeyword (name : String)
  /-- A parameter without default that was not supplied. -/
  | missingArgument (name : String)
  /-- An argument after a hole; `holes` are the earlier parameters left empty, with positions. -/
  | argumentAfterHole (name : String) (holes : List (String × Nat))
  /-- A batch that cannot be divided evenly. -/
  | batchDimension (shape : Shape)
      (batchSize deviceIterations replicationFactor gradientAccumulation multiplier : Nat)
  /-- Batch factors whose product exceeds a machine word. -/
  | batchMultiplierOverflow (deviceIterations replicationFactor gradientAccumulation : Nat)
  /-- An optimizer of a family the device cannot run. -/
  | unsupportedOptimizer (family : String)
  /-- An optimizer with other than one parameter group. -/
  | multipleParameterGroups (count : Nat)
  /-- A variant of a family the device cannot run. -/
  | unsupportedOptimizerVariant (family variant : String)
  /-- An optimizer that lacks a value its family needs. -/
  | missingHyperParameter (family name : String)
  /-- A device operation before compilation. -/
  | notCompiled
  /-- A layer the model does not have. -/
  | unknownLayer (name : String)
  /-- A name that is no reduction. -/
  | unsupportedReduction (name : String)
  /-- Reading a model that is held for writing. -/
  | heldForWriting
  /-- Writing to a model that is held. -/
  | held
  /-- A platform without a printer for its executables. -/
  | irUnavailable
  /-- A failure reported by the platform. -/
  | platform (text : String)
  /-- A failure stated in a model's or a caller's own words. -/
  | custom (text : String)
  deriving DecidableEq, Repr, Inhabited

namespace Error

/-- The holes of a binding as they are listed in a message: `b (1), c (2)`. -/
def holesText (holes : List (String × Nat)) : String :=
  ", ".intercalate (holes.map fun hole => hole.1 ++ " (" ++ toString hole.2 ++ ")")

/-- The product of the three batch factors as it is spelled out in messages. -/
def batchFactorsText (deviceIterations replicationFactor gradientAccumulation : Nat) : String :=
  s!"device_iterations({deviceIterations}) * replication_factor({replicationFactor}) * " ++
    s!"gradient_accumulation({gradientAccumulation})"

/-- What a failure says. -/
def message : Error → String
  | dimensionOutOfRange dimension rank =>
      s!"dimension out of range: dim {dimension} for tensor with {rank} dimensions"
  | narrowOutOfBounds dimension start length size =>
      s!"narrow out of bounds: dim {dimension}, start {start}, len {length}, dim_size {size}"
  | elementCountMismatch shape got =>
      s!"element count mismatch: shape {shape.text} requires {shape.elementCount} elements, " ++
        s!"got {got}"
  | unrepresentable dtype => s!"value is not representable as {dtype.name}"
  | outOfBounds => "the layout leads outside the storage"
  | tooLarge bytes => s!"a buffer of {bytes} bytes cannot be addressed"
  | invalidOption option valid =>
      "invalid option " ++ option ++ ", valid options are " ++ Text.quotedList valid
  | optionKindMismatch option expected got =>
      s!"unexpected type {got.name} for option {option}, expected {expected.name}"
  | unresolvedAnchorMode => "an anchor mode must be picked before serialisation"
  | invalidAnchorReturnPeriod =>
      "EveryN anchor must have anchor_return_period set to a valid positive integer"
  | optionKeyConflict keys =>
      "can't merge options, they have some keys in common: " ++ Text.quotedList keys
  | tooManyArguments expected got =>
      "too many arguments provided: expected " ++ Text.quotedList expected ++
        s!" ({expected.length}) but got {got}"
  | duplicateArgument name => s!"parameter {name} was passed more than once"
  | unexpectedKeyword name => s!"unexpected keyword argument {name}"
  | missingArgument name => s!"mandatory parameter {name} missing"
  | argumentAfterHole name holes =>
      s!"cannot pass {name}: tensors can't be passed after the following parameters " ++
        "have defaulted to None: " ++ holesText holes
  | batchDimension shape batchSize deviceIterations replicationFactor gradientAccumulation
      multiplier =>
      s!"invalid batch dimension: in the input {shape.text}, the batch dimension " ++
        s!"({batchSize}) must be a multiple of " ++
        batchFactorsText deviceIterations replicationFactor gradientAccumulation ++
        s!" = {multiplier} because it is used to calculate the batch size which will be " ++
        "executed on the device in any given iteration"
  | batchMultiplierOverflow deviceIterations replicationFactor gradientAccumulation =>
      batchFactorsText deviceIterations replicationFactor gradientAccumulation ++
        " overflows the batch multiplier"
  | unsupportedOptimizer family =>
      s!"unsupported optimizer type {family}, supported types are [sgd, adam]"
  | multipleParameterGroups count =>
      s!"only one parameter group is supported (all parameters), got {count}"
  | unsupportedOptimizerVariant family variant =>
      s!"{variant} is not supported for {family} optimizers"
  | missingHyperParameter family name =>
      s!"{family} optimizer is missing hyper-parameter {name}"
  | notCompiled => "the model has not been compiled yet"
  | unknownLayer name => s!"unknown layer {name}"
  | unsupportedReduction name => s!"unsupported reduction type {name}"
  | heldForWriting => "model is already mutably borrowed"
  | held => "model is already borrowed"
  | irUnavailable => "this runtime cannot print the IR of an executable"
  | platform text => "runtime error: " ++ text
  | custom text => text

/-- The short name by which an application tells one kind of failure from another. -/
def kind : Error → String
  | .dimensionOutOfRange .. => "DimOutOfRange"
  | .narrowOutOfBounds .. => "NarrowOutOfBounds"
  | .elementCountMismatch .. => "ElementCountMismatch"
  | .unrepresentable .. => "UnrepresentableValue"
  | .outOfBounds => "OutOfBounds"
  | .tooLarge .. => "TooLarge"
  | .invalidOption .. => "InvalidOption"
  | .optionKindMismatch .. => "TypeMismatch"
  | .unresolvedAnchorMode => "UnresolvedAnchorMode"
  | .invalidAnchorReturnPeriod => "InvalidAnchorReturnPeriod"
  | .optionKeyConflict .. => "OptionKeyConflict"
  | .tooManyArguments .. => "TooManyArguments"
  | .duplicateArgument .. => "DuplicateArgument"
  | .unexpectedKeyword .. => "UnexpectedKeywordArgument"
  | .missingArgument .. => "MissingMandatoryArgument"
  | .argumentAfterHole .. => "TrailingTensorAfterNone"
  | .batchDimension .. => "BatchDimension"
  | .batchMultiplierOverflow .. => "BatchMultiplierOverflow"
  | .unsupportedOptimizer .. => "UnsupportedOptimizer"
  | .multipleParameterGroups .. => "MultipleParamGroups"
  | .unsupportedOptimizerVariant .. => "UnsupportedOptimizerVariant"
  | .missingHyperParameter .. => "MissingHyperParameter"
  | .notCompiled => "NotCompiled"
  | .unknownLayer .. => "UnknownLayer"
  | .unsupportedReduction .. => "UnsupportedReduction"
  | .platform .. => "Runtime"
  | .heldForWriting | .held | .irUnavailable | .custom .. => "Msg"

end Error

/-- A value, or the cause why there is none. -/
abbrev Result (α : Type) := Except Error α

end Offload
