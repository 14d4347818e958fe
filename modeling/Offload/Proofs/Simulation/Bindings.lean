/-
# Bindings of related arguments

Two calls whose arguments have the same containers, keys and plain values, and related tensors in their
places. What is needed of the relation is that the tensors have the same types and stay related when
they are brought into one block, narrowed and promoted. Then the calls are bound alike: both are
refused for the same cause, or both give related bindings. So do the blocks that tensors are brought
into, the first micro-batches and what is promoted. Whether there was anything to bring into a block
need not be the same.
-/

import Offload.Proofs.Simulation.Related

namespace Offload

open Attempt

/-! ## Leaves -/

namespace Value

/-- Two leaves hold related tensors, or the same value that is none. -/
inductive Relates (rel : Tensor → Tensor → Prop) : Value → Value → Prop where
  | tensor {tensor other : Tensor} (related : rel tensor other) :
      Relates rel (.tensor tensor) (.tensor other)
  | other {value : Value} (other : value.tensor? = Option.none) : Relates rel value value

variable {rel rel' : Tensor → Tensor → Prop} {value value' : Value}

theorem Relates.refl (reflexive : ∀ tensor, rel tensor tensor) (value : Value) :
    Relates rel value value := by
  cases value with
  | tensor tensor => exact .tensor (reflexive tensor)
  | _ => exact .other rfl

theorem Relates.mono (related : Relates rel value value')
    (weaker : ∀ tensor other, rel tensor other → rel' tensor other) : Relates rel' value value' := by
  cases related with
  | tensor related => exact .tensor (weaker _ _ related)
  | other other => exact .other other

theorem Relates.eq (related : Relates Eq value value') : value = value' := by
  cases related with
  | tensor related => rw [related]
  | other _ => rfl

theorem Relates.tensor? (related : Relates rel value value') :
    Option.Rel rel value.tensor? value'.tensor? := by
  cases related with
  | tensor related => exact .some related
  | other other =>
      rw [other]
      exact .none

/-- Related leaves are changed alike if related tensors are. -/
theorem Relates.agree_onTensor {change change' : Tensor → Result Tensor}
    (related : Relates rel value value')
    (changes : ∀ tensor other, rel tensor other → Result.Agree rel' (change tensor) (change' other)) :
    Result.Agree (Relates rel') (value.onTensor change) (value'.onTensor change') := by
  cases related with
  | tensor related => exact (changes _ _ related).map fun _ _ changed => .tensor changed
  | other other =>
      cases value with
      | tensor tensor => cases other
      | _ => exact .ok (.other rfl)

end Value

/-- How far tensors may differ between two runs: those that an executor holds, and those that are
handed to the platform. -/
structure Likeness where
  inner : Tensor → Tensor → Prop
  outer : Tensor → Tensor → Prop
  /-- No tensor is strided in one run only. -/
  strict : Bool
  refl : ∀ tensor, inner tensor tensor
  outer_of_inner : ∀ tensor other, inner tensor other → outer tensor other
  dtype : ∀ {tensor other}, inner tensor other → tensor.dtype = other.dtype
  isContiguous : strict = true → ∀ {tensor other}, inner tensor other →
    tensor.isContiguous = other.isContiguous
  contiguous : ∀ {tensor other}, inner tensor other →
    Result.Agree inner tensor.contiguous other.contiguous
  narrow : ∀ batch : Batch, ∀ {tensor other}, inner tensor other →
    Result.Agree inner (batch.narrow tensor) (batch.narrow other)
  toFullPrecision : ∀ {tensor other}, inner tensor other →
    Result.Agree inner tensor.toFullPrecision other.toFullPrecision

namespace Likeness

variable (like : Likeness) {value value' : Value}

/-- Leaves that an executor may hold in either run. -/
abbrev Held : Value → Value → Prop := Value.Relates like.inner

/-- Leaves that the platform may be handed in either run. -/
abbrev Handed : Value → Value → Prop := Value.Relates like.outer

variable {like}

theorem Held.handed (held : like.Held value value') : like.Handed value value' :=
  held.mono like.outer_of_inner

theorem Held.isHalf (held : like.Held value value') : value.isHalf = value'.isHalf := by
  cases held with
  | tensor inner => exact congrArg DType.isHalf (like.dtype inner)
  | other _ => rfl

theorem Held.isStrided (held : like.Held value value') (strict : like.strict = true) :
    value.isStrided = value'.isStrided := by
  cases held with
  | tensor inner => exact congrArg (!·) (like.isContiguous strict inner)
  | other _ => rfl

/-- What an executor may find in either run when it asks whether a tensor is strided. -/
def Flags (like : Likeness) (flag flag' : Bool) : Prop := like.strict = true → flag = flag'

end Likeness

/-! ## Calls -/

/-- Two calls have the same containers and keys, and related leaves. -/
structure CallArguments.Aligned (rel : Value → Value → Prop) (call other : CallArguments) :
    Prop where
  positional : Tree.AlignedItems rel call.positional other.positional
  keyword : Tree.AlignedEntries rel call.keyword other.keyword

theorem CallArguments.Aligned.refl {rel : Value → Value → Prop}
    (reflexive : ∀ value, rel value value) (call : CallArguments) : Aligned rel call call :=
  ⟨.refl reflexive _, .refl reflexive _⟩

section Aligned

variable {rel : Value → Value → Prop}

namespace CallArguments

variable {call other : CallArguments}

/-- The search for a repeated keyword looks at keys and at the number of positional arguments. -/
theorem firstDuplicate?_congr {signature : Signature}
    (count : call.positional.length = other.positional.length) :
    ∀ {earlier : List String} {later later' : List (String × Tree)},
      later.map Prod.fst = later'.map Prod.fst →
        call.firstDuplicate? signature earlier later = other.firstDuplicate? signature earlier later'
  | _, [], [], _ => rfl
  | earlier, (name, _) :: later, (_, _) :: later', keys => by
      obtain ⟨rfl, rest⟩ := List.cons.inj keys
      rw [firstDuplicate?, firstDuplicate?, firstDuplicate?_congr count rest, suppliedTwice,
        suppliedTwice, count]

/-- The first keyword that is not declared depends on the keywords alone. -/
theorem firstUndeclared?_eq (signature : Signature) (call : CallArguments) :
    call.firstUndeclared? signature =
      (call.keyword.map Prod.fst).find? fun name => (signature.position? name).isNone := by
  rw [firstUndeclared?, List.find?_map]
  rfl

end CallArguments

end Aligned

/-! ## Bindings -/

namespace Binding

variable {rel : Value → Value → Prop} {like : Likeness} {call other : CallArguments}

/-- Aligned calls are collected alike. The induction is on the parameters that are left. -/
theorem agree_collect (reflexive : ∀ value, rel value value)
    (aligned : CallArguments.Aligned rel call other) :
    ∀ (position : Nat) (holes : List (String × Nat)) (parameters : List Parameter),
      Result.Agree (Tree.AlignedEntries rel) (collect call position holes parameters)
        (collect other position holes parameters)
  | _, _, [] => .ok trivial
  | position, holes, parameter :: later => by
      have rest (holes : List (String × Nat)) :=
        agree_collect reflexive aligned (position + 1) holes later
      have bound {argument argument' : Tree} (here : argument.Aligned rel argument')
          (holes : List (String × Nat)) :
          Result.Agree (Tree.AlignedEntries rel)
            ((collect call (position + 1) holes later).map ((parameter.name, argument) :: ·))
            ((collect other (position + 1) holes later).map ((parameter.name, argument') :: ·)) :=
        (rest holes).map fun _ _ others => ⟨rfl, here, others⟩
      have given := aligned.positional.getElem? position
      have named := aligned.keyword.find? parameter.name
      rw [← CallArguments.keyword?, ← CallArguments.keyword?] at named
      rw [collect, collect]
      generalize call.positional[position]? = first? at given ⊢
      generalize other.positional[position]? = first?' at given ⊢
      generalize call.keyword? parameter.name = second? at named ⊢
      generalize other.keyword? parameter.name = second?' at named ⊢
      cases given with
      | some here => exact bound here holes
      | none =>
          cases named with
          | some here =>
              dsimp only
              split
              · exact bound here holes
              · exact .error _
          | none =>
              dsimp only
              cases parameter.default? with
              | none => exact .error _
              | some argument =>
                  dsimp only
                  split
                  · exact rest _
                  · split
                    · exact bound (.refl reflexive argument) holes
                    · exact rest _

/-- Aligned calls are bound alike. -/
theorem agree_bind (reflexive : ∀ value, rel value value)
    (aligned : CallArguments.Aligned rel call other) (signature : Signature) :
    Result.Agree (Aligned rel) (bind signature call) (bind signature other) := by
  have keys := aligned.keyword.keys
  have count := aligned.positional.length
  have size : call.size = other.size := by
    have named := congrArg List.length keys
    rw [List.length_map, List.length_map] at named
    rw [CallArguments.size, CallArguments.size, count, named]
  rw [bind, bind, CallArguments.firstDuplicate?_congr count keys,
    CallArguments.firstUndeclared?_eq, CallArguments.firstUndeclared?_eq, keys, size]
  split
  · exact .error _
  · split
    · exact .error _
    · split
      · exact .error _
      · exact (agree_collect reflexive aligned 0 [] signature.parameters).map
          fun _ _ bound => ⟨bound.keys, bound.values⟩

/-- What bringing one leaf into a block does, whether or not there is something to do. -/
private theorem perform_visit_densify {σ : Type} (value : Value) (state : Bool × σ) :
    (Tree.visitMatched Value.isStrided (fun value => ofResult (value.onTensor Tensor.contiguous))
      value).perform state =
        (value.onTensor Tensor.contiguous, (state.1 || value.isStrided, state.2)) := by
  unfold Tree.visitMatched
  split
  · next strided =>
      rw [perform_bind, perform_modify]
      simp only [perform_onRest, perform_ofResult, strided, Bool.or_true]
  · next dense =>
      have dense : value.isStrided = false := by simpa using dense
      have kept : value.onTensor Tensor.contiguous = .ok value := by
        cases value with
        | tensor tensor =>
            have block := Value.isStrided_tensor_eq_false.mp dense
            rw [Value.onTensor, Tensor.contiguous, if_pos block]
            rfl
        | _ => rfl
      rw [perform_pure, kept, dense, Bool.or_false]

/-- Related bindings are brought into blocks alike, though not both may have needed it. -/
theorem alike_densify_held {σ σ' : Type} {states : σ → σ' → Prop} :
    (densify : Attempt (Binding × σ) Bool).Alike like.Flags (Both (Aligned like.Held) states)
      (densify : Attempt (Binding × σ') Bool) := by
  refine alike_forEachMatched_aligned (fun _ => rfl) fun value value' held => ?_
  intro state state' related
  rw [perform_visit_densify, perform_visit_densify]
  have flags : like.Flags (state.1 || value.isStrided) (state'.1 || value'.isStrided) :=
    fun strict => by rw [related.1 strict, held.isStrided strict]
  have blocks := held.agree_onTensor fun _ _ => like.contiguous
  generalize value.onTensor Tensor.contiguous = block at blocks
  generalize value'.onTensor Tensor.contiguous = block' at blocks
  cases blocks with
  | ok held => exact .ok held ⟨flags, related.2⟩
  | error cause => exact .error ⟨flags, related.2⟩

/-- Related calls are bound alike, and to blocks. -/
theorem agree_ofCall (aligned : CallArguments.Aligned like.Held call other)
    (signature : Signature) :
    Result.Agree (fun called called' => like.Flags called.1 called'.1 ∧
        Aligned like.Held called.2 called'.2)
      (ofCall signature call) (ofCall signature other) := by
  refine (agree_bind (Value.Relates.refl like.refl) aligned signature).bind
    fun bound bound' aligned => ?_
  exact (alike_withOwn_both aligned alike_densify_held).outcome

/-- Related bindings are narrowed alike. -/
theorem alike_traceView_held {σ σ' : Type} {states : σ → σ' → Prop} (batch : Batch) :
    (batch.traceView : Attempt (Binding × σ) Unit).Alike Eq (Both (Aligned like.Held) states)
      (batch.traceView : Attempt (Binding × σ') Unit) :=
  alike_forEach_aligned fun _ _ held =>
    alike_of_agree (held.agree_onTensor fun _ _ => like.narrow batch)

/-- Related bindings are promoted alike, since the same leaves need it. -/
theorem alike_promote_held {σ σ' : Type} {states : σ → σ' → Prop} :
    (promote : Attempt (Binding × σ) Bool).Alike Eq (Both (Aligned like.Held) states)
      (promote : Attempt (Binding × σ') Bool) := by
  apply alike_forEachMatched_aligned rfl
  intro value value' held
  unfold Tree.visitMatched
  rw [held.isHalf]
  split
  · refine alike_bind_eq (alike_modify fun _ _ related => ⟨rfl, related.2⟩) fun _ => ?_
    exact alike_onRest_both (alike_of_agree
      (held.agree_onTensor fun _ _ => like.toFullPrecision))
  · exact alike_pure held

end Binding

theorem Promotion.alike_promoteInputs_held {like : Likeness} {σ σ' : Type}
    {states : σ → σ' → Prop} :
    (promoteInputs : Attempt (Promotion × Binding × σ) Unit).Alike Eq
      (Both Eq (Both (Binding.Aligned like.Held) states))
      (promoteInputs : Attempt (Promotion × Binding × σ') Unit) :=
  alike_bind_eq (alike_onRest_both Binding.alike_promote_held) fun _ =>
    alike_modify fun _ _ related => ⟨by rw [related.1], related.2⟩

/-- The views that compilation works on are related, and record the same promotion. -/
structure Executor.Views.Relates (like : Likeness) (views other : Views) : Prop where
  narrowed : Binding.Aligned like.Held views.narrowed other.narrowed
  promoted : Binding.Aligned like.Held views.promoted other.promoted
  promotion : views.promotion = other.promotion

/-- The views of related bindings can both not be made for the same cause, or they are related. -/
theorem Executor.Views.agree_of {like : Likeness} {binding other : Binding}
    (aligned : Binding.Aligned like.Held binding other) (options : Options) :
    Result.Agree (Views.Relates like) (Views.of options binding) (Views.of options other) := by
  have narrows : Result.Agree (fun ended ended' => ended.1 = ended'.1 ∧
      Binding.Aligned like.Held ended.2 ended'.2)
      (withOwn binding (Batch.ofOptions options).traceView).outcome
      (withOwn other (Batch.ofOptions options).traceView).outcome :=
    (alike_withOwn_both aligned (Binding.alike_traceView_held (Batch.ofOptions options))).outcome
  refine narrows.bind fun ended ended' narrowed => ?_
  have promotes : Result.Agree (fun ended ended' => (ended.1.1 = ended'.1.1 ∧
      ended.1.2 = ended'.1.2) ∧ Binding.Aligned like.Held ended.2 ended'.2)
      (withOwn ended.2 (withOwn Promotion.none Promotion.promoteInputs)).outcome
      (withOwn ended'.2 (withOwn Promotion.none Promotion.promoteInputs)).outcome :=
    (alike_withOwn_both narrowed.2
      (alike_withOwn_both rfl Promotion.alike_promoteInputs_held)).outcome
  exact promotes.bind fun _ _ promoted => .ok ⟨narrowed.2, promoted.2, promoted.1.2⟩

end Offload
