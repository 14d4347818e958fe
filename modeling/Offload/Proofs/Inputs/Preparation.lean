/-
# Preparing inputs in any order

Before the inputs of a call are worked on they are brought into blocks, narrowed to the first
micro-batch and promoted to full precision. Each of these lays the tensors out anew in a way of its
own, but none of them looks at a layout: what it gives, and whether it fails, depends on the types,
the shapes and the elements. So any run of preparations can be compared with one that only narrows
the same inputs, as often. What both come to differs in nothing but whether tensors were promoted,
and that is the same for any two orders.
-/

import Offload.Proofs.Inputs.Division
import Offload.Proofs.Simulation.Bindings
import Offload.Proofs.Tensor.Conversion
import Offload.Proofs.Traversal

namespace Offload

open Attempt

/-- A tensor that can be sliced is refused for its shape. -/
theorem Batch.Refuses.of_shape {batch : Batch} {tensor other : Tensor} {cause : Error}
    (refuses : batch.Refuses tensor cause) (sliceable : tensor.Sliceable)
    (same : tensor.shape = other.shape) : batch.Refuses other cause := by
  cases refuses with
  | scalar dims => exact .scalar (same ▸ dims)
  | overflow dims large => exact .overflow (same ▸ dims) large
  | indivisible dims fits uneven =>
      rw [same] at dims ⊢
      exact .indivisible dims fits uneven
  | strideless dims _ _ strides => exact absurd strides (sliceable.strides_ne_nil dims)

/-! ## Tensors -/

namespace Tensor

variable {promoted : Bool} {batch : Batch} {plain tensor other : Tensor}

/-- The first part of a tensor that can be sliced can be sliced. -/
theorem Sliceable.narrow (sliceable : tensor.Sliceable) {part : Tensor}
    (narrowed : batch.narrow tensor = .ok part) : part.Sliceable := by
  obtain ⟨cells, -, -, read⟩ := (Batch.firstPart_of_narrow sliceable.readable narrowed).read
  obtain ⟨size, rest, dims, -, rfl⟩ := Batch.eq_of_narrow narrowed
  refine ⟨?_, readable_iff.mpr ⟨_, read⟩⟩
  have rank : (tensor.shape.resize 0 (size / batch.product)).rank = tensor.rank :=
    List.length_set
  exact rank.trans_le sliceable.strides

/-- A tensor that can be sliced can be brought into one block that can. -/
theorem Sliceable.contiguous (sliceable : tensor.Sliceable) :
    ∃ block, tensor.contiguous = .ok block ∧ SameContents tensor block ∧ block.Sliceable := by
  obtain ⟨block, made, same⟩ := sliceable.readable.contiguous
  refine ⟨block, made, same, ?_⟩
  rw [Tensor.contiguous] at made
  split at made
  · obtain rfl := Except.ok.inj made
    exact sliceable
  · exact (inBounds_of_copyAs made).sliceable

theorem toFullPrecision_of_not_half (whole : tensor.dtype.isHalf = false) :
    tensor.toFullPrecision = .ok tensor := by
  rw [Tensor.toFullPrecision, DType.fullPrecision_of_not_half whole, toDType, if_pos rfl]

/-- A tensor that can be sliced can be promoted to one that can. -/
theorem Sliceable.toFullPrecision (sliceable : tensor.Sliceable) :
    ∃ full, tensor.toFullPrecision = .ok full ∧ full.Sliceable := by
  obtain half | whole := (Bool.eq_false_or_eq_true tensor.dtype.isHalf)
  · have wider : tensor.dtype.fullPrecision ∈ tensor.dtype.widenings := by
      revert half
      cases tensor.dtype <;> decide
    obtain ⟨full, made⟩ := (exists_toDType_iff sliceable.readable).mpr
      (sliceable.readable.exists_elementsAs_iff.mpr (representedIn_of_widening wider))
    refine ⟨full, made, ?_⟩
    rw [toDType, if_neg (DType.ne_of_widening wider)] at made
    exact (inBounds_of_copyAs made).sliceable
  · exact ⟨tensor, toFullPrecision_of_not_half whole, sliceable⟩

/-- A tensor has the shape of another and its elements: in the type of the other or, if it was
promoted, in full precision. -/
structure Carries (promoted : Bool) (plain tensor : Tensor) : Prop where
  plain_sliceable : plain.Sliceable
  sliceable : tensor.Sliceable
  dtype : tensor.dtype = if promoted then plain.dtype.fullPrecision else plain.dtype
  shape : tensor.shape = plain.shape
  elements : tensor.elementsAs tensor.dtype = plain.elementsAs tensor.dtype

theorem Sliceable.carries (sliceable : tensor.Sliceable) : Carries false tensor tensor :=
  ⟨sliceable, sliceable, rfl, rfl, rfl⟩

namespace Carries

theorem elementsAs_eq (carries : Carries promoted plain tensor) {target : DType}
    (same : tensor.dtype = target) : tensor.elementsAs target = plain.elementsAs target :=
  same ▸ carries.elements

/-- What carries the same elements in the same precision has the same contents. -/
theorem sameContents (carries : Carries promoted plain tensor)
    (carries' : Carries promoted plain other) : SameContents tensor other := by
  obtain ⟨cells, read⟩ := readable_iff.mp carries.sliceable.readable
  have dtype : tensor.dtype = other.dtype := carries.dtype.trans carries'.dtype.symm
  refine sameContents_of_elements dtype (carries.shape.trans carries'.shape.symm) read ?_
  rw [carries'.elementsAs_eq dtype.symm, ← carries.elements, read]

theorem of_sameContents (carries : Carries promoted plain tensor) (same : SameContents tensor other)
    (sliceable : other.Sliceable) : Carries promoted plain other where
  plain_sliceable := carries.plain_sliceable
  sliceable := sliceable
  dtype := same.dtype.symm.trans carries.dtype
  shape := same.shape.symm.trans carries.shape
  elements := (same.elements _).symm.trans (carries.elementsAs_eq same.dtype)

theorem contiguous (carries : Carries promoted plain tensor) :
    ∃ block, tensor.contiguous = .ok block ∧ Carries promoted plain block := by
  obtain ⟨block, made, same, sliceable⟩ := carries.sliceable.contiguous
  exact ⟨block, made, carries.of_sameContents same sliceable⟩

theorem toFullPrecision (carries : Carries promoted plain tensor) :
    ∃ full, tensor.toFullPrecision = .ok full ∧ Carries true plain full := by
  obtain ⟨full, made, sliceable⟩ := carries.sliceable.toFullPrecision
  refine ⟨full, made, ?_⟩
  cases promoted with
  | true =>
      -- what was promoted already stays as it is
      have whole : tensor.dtype.isHalf = false :=
        carries.dtype ▸ DType.isHalf_fullPrecision plain.dtype
      rw [toFullPrecision_of_not_half whole] at made
      obtain rfl := Except.ok.inj made
      exact carries
  | false =>
      have converted := converted_of_toDType carries.sliceable.readable made
      have same := carries.sameContents carries.plain_sliceable.carries
      have dtype : full.dtype = plain.dtype.fullPrecision := by rw [converted.dtype, same.dtype]
      refine ⟨carries.plain_sliceable, sliceable, dtype, converted.shape.trans carries.shape, ?_⟩
      rw [converted.dtype, elementsAs_of_toDType made, same.elements]

/-- The first parts have the first of the elements that are carried. -/
theorem part (carries : Carries promoted plain tensor) {part part' : Tensor}
    (narrowed : batch.narrow plain = .ok part) (narrowed' : batch.narrow tensor = .ok part') :
    Carries promoted part part' := by
  have leads := Batch.leads_of_narrow narrowed
  have leads' := Batch.leads_of_narrow narrowed'
  obtain ⟨cells, read⟩ := readable_iff.mp carries.sliceable.readable
  refine ⟨carries.plain_sliceable.narrow narrowed, carries.sliceable.narrow narrowed', ?_, ?_, ?_⟩
  · rw [leads'.dtype, leads.dtype]
    exact carries.dtype
  · obtain ⟨size, rest, dims, -, divided⟩ := leads.shape
    obtain ⟨size', rest', dims', -, divided'⟩ := leads'.shape
    rw [carries.shape, dims] at dims'
    obtain ⟨rfl, rfl⟩ := List.cons.inj dims'
    exact congrArg Shape.mk (divided'.trans divided.symm)
  · rw [leads'.dtype, leads'.elements _ _ read, leads.elements _ _ (carries.elements ▸ read)]

/-- Narrowing looks at the shape alone to see whether it fails. -/
theorem narrow (carries : Carries promoted plain tensor) :
    Result.Agree (Carries promoted) (batch.narrow plain) (batch.narrow tensor) := by
  have refused (cause : Error) : batch.Refuses plain cause ↔ batch.Refuses tensor cause :=
    ⟨(·.of_shape carries.plain_sliceable carries.shape.symm),
      (·.of_shape carries.sliceable carries.shape)⟩
  cases narrowed : batch.narrow plain with
  | error cause =>
      rw [Batch.narrow_eq_error_iff, refused, ← Batch.narrow_eq_error_iff] at narrowed
      rw [narrowed]
      exact .error cause
  | ok part =>
      cases narrowed' : batch.narrow tensor with
      | error cause =>
          rw [Batch.narrow_eq_error_iff, ← refused, ← Batch.narrow_eq_error_iff, narrowed]
            at narrowed'
          exact nomatch narrowed'
      | ok part' => exact .ok (carries.part narrowed narrowed')

end Carries

end Tensor

/-! ## Bindings -/

theorem Result.Agree.mono {α α' : Type} {values weaker : α → α' → Prop} {result : Result α}
    {result' : Result α'} (agree : Result.Agree values result result')
    (weakens : ∀ value value', values value value' → weaker value value') :
    Result.Agree weaker result result' := by
  cases agree with
  | ok related => exact .ok (weakens _ _ related)
  | error cause => exact .error cause

/-- Both results agree with a third one. -/
theorem Result.Agree.fork {α β γ : Type} {left : α → β → Prop} {right : α → γ → Prop}
    {both : β → γ → Prop} {result : Result α} {result' : Result β} {result'' : Result γ}
    (agree : Result.Agree left result result') (agree' : Result.Agree right result result'')
    (meet : ∀ a b c, left a b → right a c → both b c) : Result.Agree both result' result'' := by
  cases agree with
  | ok related =>
      cases agree' with
      | ok related' => exact .ok (meet _ _ _ related related')
  | error cause =>
      cases agree' with
      | error => exact .error cause

namespace Binding

variable {rel rel' : Tensor → Tensor → Prop} {change change' : Tensor → Result Tensor}
  {plain binding other : Binding}

/-- Change the tensors among the leaves, and nothing else. -/
def rewrite (change : Tensor → Result Tensor) (binding : Binding) : Result Binding :=
  (Tree.mapItemsM (fun value => (ofResult (value.onTensor change) : Attempt Unit Value))
    binding.arguments).outcome.map fun arguments => ⟨binding.names, arguments⟩

/-- Related tensors in aligned bindings are changed alike if each is. -/
theorem agree_rewrite (aligned : Aligned (Value.Relates rel) binding other)
    (changes : ∀ tensor tensor', rel tensor tensor' →
      Result.Agree rel' (change tensor) (change' tensor')) :
    Result.Agree (Aligned (Value.Relates rel')) (binding.rewrite change)
      (other.rewrite change') := by
  have traversals : Result.Agree (Tree.AlignedItems (Value.Relates rel')) _ _ :=
    (aligned.arguments.alike_mapItemsM fun _ _ related =>
      alike_of_agree (related.agree_onTensor changes)).outcome
  exact traversals.map fun _ _ changed => ⟨aligned.names, changed⟩

/-- Nothing is changed by a change that leaves every tensor. -/
theorem rewrite_ok (binding : Binding) : binding.rewrite .ok = .ok binding := by
  have stays (value : Value) :
      (ofResult (value.onTensor .ok) : Attempt Unit Value) = pure value := by
    cases value <;> rfl
  have agree := Tree.alike_mapItemsM_leaves (fun value => (pure value : Attempt Unit Value))
    binding.arguments () () rfl
  rw [List.mapM_pure, List.map_id'] at agree
  unfold rewrite outcome
  simp only [stays]
  generalize perform (Tree.mapItemsM (pure : Value → Attempt Unit Value) binding.arguments) () =
    ended at *
  cases agree with
  | ok refilled _ => rw [← refilled.eq]; rfl

/-- Bindings stay aligned if one of them is changed to what is still related. -/
theorem exists_rewrite (aligned : Aligned (Value.Relates rel) plain binding)
    (changes : ∀ tensor tensor', rel tensor tensor' →
      ∃ changed, change tensor' = .ok changed ∧ rel' tensor changed) :
    ∃ changed, binding.rewrite change = .ok changed ∧
      Aligned (Value.Relates rel') plain changed := by
  have agree : Result.Agree (Aligned (Value.Relates rel')) (plain.rewrite .ok)
      (binding.rewrite change) :=
    agree_rewrite aligned fun tensor tensor' related => by
      obtain ⟨changed, made, kept⟩ := changes tensor tensor' related
      exact made ▸ .ok kept
  rw [rewrite_ok] at agree
  generalize binding.rewrite change = result at *
  cases agree with
  | ok kept => exact ⟨_, rfl, kept⟩

/-- Two bindings that are aligned with a third one are aligned. -/
theorem Aligned.fork {both : Tensor → Tensor → Prop}
    (aligned : Aligned (Value.Relates rel) plain binding)
    (aligned' : Aligned (Value.Relates rel') plain other)
    (meet : ∀ tensor left right, rel tensor left → rel' tensor right → both left right) :
    Aligned (Value.Relates both) binding other := by
  obtain ⟨frames, leaves⟩ := Tree.alignedItems_iff.mp aligned.arguments
  obtain ⟨frames', leaves'⟩ := Tree.alignedItems_iff.mp aligned'.arguments
  refine ⟨aligned.names.symm.trans aligned'.names, Tree.alignedItems_iff.mpr
    ⟨frames'.trans frames.symm, forall₂_comp ?_ leaves.flip leaves'⟩⟩
  rintro _ _ _ (⟨related⟩ | ⟨other⟩) related'
  · cases related' with
    | tensor related' => exact .tensor (meet _ _ _ related related')
    | other other => cases other
  · cases related' with
    | tensor _ => cases other
    | other other => exact .other other

/-- A binding holds the tensors of another in their places, perhaps promoted. -/
abbrev Carries (promoted : Bool) : Binding → Binding → Prop :=
  Aligned (Value.Relates (Tensor.Carries promoted))

/-- A binding whose tensors can be sliced and read holds its own tensors. -/
theorem Carries.refl_of_sliceable
    (sliceable : ∀ tensor, .tensor tensor ∈ binding.leaves → tensor.Sliceable) :
    Carries false binding binding := by
  refine ⟨rfl, Tree.alignedItems_iff.mpr ⟨rfl, List.forall₂_same.mpr fun value there => ?_⟩⟩
  cases value with
  | tensor tensor => exact .tensor (sliceable tensor there).carries
  | _ => exact .other rfl

end Binding

/-! ## Preparations -/

/-- What is done to the inputs of a call before they are worked on. -/
inductive Preparation where
  /-- Bring every tensor into one block. -/
  | densify
  /-- Narrow every tensor to the first micro-batch. -/
  | narrow
  /-- Promote every tensor of reduced precision. -/
  | promote
  deriving DecidableEq

namespace Preparation

variable {batch : Batch} {promoted : Bool} {plain binding : Binding}

/-- What a preparation makes of a binding, as an executor does it. -/
def on (batch : Batch) (binding : Binding) : Preparation → Result Binding
  | densify => (withOwn binding Binding.densify).outcome.map Prod.snd
  | narrow => (withOwn binding batch.traceView).outcome.map Prod.snd
  | promote =>
      (withOwn binding (withOwn Promotion.none Promotion.promoteInputs)).outcome.map Prod.snd

/-- What a preparation makes of a tensor. -/
def change (batch : Batch) : Preparation → Tensor → Result Tensor
  | densify => Tensor.contiguous
  | narrow => batch.narrow
  | promote => Tensor.toFullPrecision

/-- What several preparations make of a binding, one after the other. -/
def prepare (batch : Batch) (steps : List Preparation) (binding : Binding) : Result Binding :=
  steps.foldlM (on batch) binding

/-- Selected tensors are changed as all are if the others would stay. -/
private theorem outcome_forEachMatched {selected : Value → Bool} {change : Tensor → Result Tensor}
    (stays : ∀ tensor, selected (.tensor tensor) = false → change tensor = .ok tensor) :
    (withOwn binding (Binding.forEachMatched selected fun value =>
      (ofResult (value.onTensor change) : Attempt Unit Value))).outcome.map Prod.snd =
        binding.rewrite change := by
  have all (value : Value) :
      changeWhere selected (fun value => (ofResult (value.onTensor change) : Attempt Unit Value))
        value = ofResult (value.onTensor change) := by
    unfold changeWhere
    split
    · rfl
    · next spared =>
        cases value with
        | tensor tensor =>
            rw [Value.onTensor, stays tensor (Bool.eq_false_iff.mpr spared)]
            rfl
        | _ => rfl
  have agree := Tree.alike_mapItemsM (fun value => all value ▸ alike_visitMatched value)
    binding.arguments (false, ()) () rfl
  unfold Binding.rewrite outcome
  rw [perform_withOwn, Binding.perform_forEachMatched]
  generalize (Tree.mapItemsM (Tree.visitMatched selected _) binding.arguments).perform
    (false, ()) = ended at *
  generalize perform (Tree.mapItemsM _ binding.arguments) () = ended' at *
  cases agree with
  | ok same _ => rw [same]; rfl
  | error _ => rfl

/-- Every preparation is a change of the tensors. -/
theorem on_eq (step : Preparation) :
    step.on batch binding = binding.rewrite (step.change batch) := by
  cases step with
  | densify =>
      refine outcome_forEachMatched fun tensor dense => ?_
      rw [Tensor.contiguous, if_pos (Value.isStrided_tensor_eq_false.mp dense)]
  | narrow =>
      rw [on, outcome, Batch.traceView, Binding.forEachTensor, perform_withOwn,
        Binding.perform_forEach, Binding.rewrite, outcome, change]
      rcases perform (Tree.mapItemsM _ binding.arguments) () with ⟨_ | _, _⟩ <;> rfl
  | promote =>
      have stays (tensor : Tensor) (whole : (Value.tensor tensor).isHalf = false) :
          tensor.toFullPrecision = .ok tensor := Tensor.toFullPrecision_of_not_half whole
      rw [change, ← outcome_forEachMatched stays, on, outcome, outcome, perform_withOwn,
        perform_withOwn, perform_withOwn, Promotion.promoteInputs, perform_bind, perform_onRest,
        Binding.promote]
      rcases (Binding.forEachMatched _ _).perform (binding, ()) with ⟨_ | _, _⟩ <;> rfl

theorem prepare_cons (step : Preparation) (steps : List Preparation) :
    prepare batch (step :: steps) binding = step.on batch binding >>= prepare batch steps :=
  List.foldlM_cons

theorem prepare_singleton (step : Preparation) :
    prepare batch [step] binding = step.on batch binding := by
  rw [prepare_cons]
  exact bind_pure (step.on batch binding)

/-- An executor makes blocks of what is bound, narrows them and promotes what it has narrowed. -/
theorem prepare_of_views {signature : Signature} {call : CallArguments} {densified : Bool}
    {bound : Binding} {options : Options} {views : Executor.Views}
    (named : Binding.bind signature call = .ok bound)
    (called : Binding.ofCall signature call = .ok (densified, binding))
    (made : Executor.Views.of options binding = .ok views) :
    prepare (.ofOptions options) [densify, narrow, promote] bound = .ok views.promoted := by
  obtain ⟨narrows, promotes⟩ := Executor.Views.of_eq_ok made
  rw [Binding.ofCall, named] at called
  have densifies :
      (withOwn bound (Binding.densify (σ := Unit))).outcome = .ok (densified, binding) := called
  rw [prepare_cons, on, densifies]
  change prepare (.ofOptions options) [narrow, promote] binding = _
  rw [prepare_cons, on, narrows]
  change prepare (.ofOptions options) [promote] views.narrowed = _
  rw [prepare_singleton, on, promotes]
  rfl

theorem exists_densify (batch : Batch) (carries : Binding.Carries promoted plain binding) :
    ∃ dense, densify.on batch binding = .ok dense ∧ Binding.Carries promoted plain dense := by
  rw [on_eq]
  exact Binding.exists_rewrite carries fun _ _ carries => carries.contiguous

theorem exists_promote (batch : Batch) (carries : Binding.Carries promoted plain binding) :
    ∃ full, promote.on batch binding = .ok full ∧ Binding.Carries true plain full := by
  rw [on_eq]
  exact Binding.exists_rewrite carries fun _ _ carries => carries.toFullPrecision

theorem agree_narrow (batch : Batch) (carries : Binding.Carries promoted plain binding) :
    Result.Agree (Binding.Carries promoted) (narrow.on batch plain) (narrow.on batch binding) := by
  rw [on_eq, on_eq]
  exact Binding.agree_rewrite carries fun _ _ carries => carries.narrow

/-- A run of preparations follows the run of those among them that narrow. -/
theorem agree_prepare (batch : Batch) (steps : List Preparation)
    (carries : Binding.Carries promoted plain binding) :
    Result.Agree (Binding.Carries (promoted || steps.contains promote))
      (prepare batch (steps.filter (· == narrow)) plain) (prepare batch steps binding) := by
  induction steps generalizing promoted plain binding with
  | nil =>
      rw [List.contains_nil, Bool.or_false]
      exact .ok carries
  | cons step steps ih =>
      rw [prepare_cons, List.contains_cons, ← Bool.or_assoc]
      -- the other run stands still unless the step narrows
      cases step with
      | densify =>
          obtain ⟨dense, made, carries⟩ := exists_densify batch carries
          rw [List.filter_cons_of_neg (by decide), made, show (promote == densify) = false from rfl,
            Bool.or_false]
          exact ih carries
      | narrow =>
          rw [List.filter_cons_of_pos (by decide), prepare_cons,
            show (promote == narrow) = false from rfl, Bool.or_false]
          exact (agree_narrow batch carries).bind fun _ _ carries => ih carries
      | promote =>
          obtain ⟨full, made, carries⟩ := exists_promote batch carries
          rw [List.filter_cons_of_neg (by decide), made, beq_self_eq_true, Bool.or_true]
          exact ih carries

/-- Inputs can be prepared in any order. -/
structure AnyOrder (batch : Batch) (binding : Binding) : Prop where
  /-- Blocks can be made of all inputs, and can be narrowed if the inputs can. -/
  densified : ∃ dense, densify.on batch binding = .ok dense ∧
    Result.Agree (fun _ _ => True) (narrow.on batch binding) (narrow.on batch dense)
  /-- All inputs can be promoted, and then be narrowed if they could before. -/
  promoted : ∃ full, promote.on batch binding = .ok full ∧
    Result.Agree (fun _ _ => True) (narrow.on batch binding) (narrow.on batch full)
  /-- Whatever else is done before or after, it is narrowing that fails, and for the same cause. -/
  narrowed : ∀ steps, steps.count narrow = 1 →
    Result.Agree (fun _ _ => True) (narrow.on batch binding) (prepare batch steps binding)
  /-- In any two orders the same comes out: names, containers and plain values, and tensors of the
  same types, shapes and elements. -/
  orders : ∀ steps steps', steps.Perm steps' →
    Result.Agree (Binding.Aligned (Value.Relates Tensor.SameContents))
      (prepare batch steps binding) (prepare batch steps' binding)

/-- So it is as long as the inputs can be read and sliced. -/
theorem inputs_prepared_in_any_order (batch : Batch) (binding : Binding)
    (sliceable : ∀ tensor, .tensor tensor ∈ binding.leaves → tensor.Sliceable) :
    AnyOrder batch binding := by
  have carries : Binding.Carries false binding binding := .refl_of_sliceable sliceable
  refine ⟨?_, ?_, fun steps once => ?_, fun steps steps' perm => ?_⟩
  · obtain ⟨dense, made, carries⟩ := exists_densify batch carries
    exact ⟨dense, made, (agree_narrow batch carries).mono fun _ _ _ => trivial⟩
  · obtain ⟨full, made, carries⟩ := exists_promote batch carries
    exact ⟨full, made, (agree_narrow batch carries).mono fun _ _ _ => trivial⟩
  · have agree := agree_prepare batch steps carries
    rw [List.filter_beq, once, List.replicate_one, prepare_singleton] at agree
    exact agree.mono fun _ _ _ => trivial
  · have agree := agree_prepare batch steps carries
    have agree' := agree_prepare batch steps' carries
    -- both orders are compared with the same run, which narrows as often as they do
    rw [List.filter_beq] at agree agree'
    rw [← perm.count_eq, ← perm.contains_eq] at agree'
    exact agree.fork agree' fun _ _ _ carries carries' =>
      carries.fork carries' fun _ _ _ => Tensor.Carries.sameContents

/-- A strided tensor of half precision, beside a number in one argument and under a repeated key in
another. -/
def nestedColumns : Binding :=
  ⟨["pair", "table"], [.sequence [.leaf (.tensor .oddColumns), .leaf (.int 3)],
    .mapping [("rows", .leaf (.tensor .oddColumns)), ("rows", .leaf .none)]]⟩

theorem nestedColumns_prepared :
    (∀ tensor, .tensor tensor ∈ nestedColumns.leaves → tensor.Sliceable) ∧
      AnyOrder (.ofFactors 3 1 1) nestedColumns ∧
        ∃ prepared, prepare (.ofFactors 3 1 1) [promote, narrow, densify] nestedColumns =
          .ok prepared := by
  have sliceable (tensor : Tensor) (there : .tensor tensor ∈ nestedColumns.leaves) :
      tensor.Sliceable := by
    have only : tensor = .oddColumns := by
      simpa [nestedColumns, Binding.leaves, Tree.leavesOfItems, Tree.leaves, Tree.leavesOfEntries]
        using there
    exact only ▸ ⟨Nat.le_refl 2, Tensor.oddColumns_readable⟩
  exact ⟨sliceable, inputs_prepared_in_any_order _ _ sliceable, _, rfl⟩

end Preparation

end Offload
