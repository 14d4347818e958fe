/-
# What a tensor holds

The contents of a tensor are its type, its shape and its elements in row-major order; where they
lie is no part of them. Copying the elements to a buffer of their own keeps the contents, and what
is done to a tensor for the device, making it one block, taking its leading part, promoting it,
gives the same contents for tensors of the same contents or fails for the same cause. The last two
need nothing but the contents; the first needs the tensor to lie inside its buffer.
-/

import Offload.Proofs.Layout.Contiguity

namespace Offload

/-- Both results are successes with related values, or failures with one cause. -/
inductive Result.Agree {α α' : Type} (values : α → α' → Prop) : Result α → Result α' → Prop where
  | ok {value : α} {value' : α'} (related : values value value') : Agree values (.ok value) (.ok value')
  | error (cause : Error) : Agree values (.error cause) (.error cause)

theorem Result.Agree.refl {α : Type} {related : α → α → Prop}
    (reflexive : ∀ value, related value value) (result : Result α) :
    Result.Agree related result result := by
  cases result with
  | ok value => exact .ok (reflexive value)
  | error cause => exact .error cause

namespace Buffer

variable {buffer : Buffer}

theorem readAs_self (buffer : Buffer) (position : Nat) :
    buffer.readAs buffer.dtype position = buffer.read position := by
  rw [readAs]
  cases buffer.read position with
  | error cause => rfl
  | ok cell => simp

theorem readAs_eq_of_read {position : Nat} {cell : Cell buffer.dtype}
    (there : buffer.read position = .ok cell) (target : DType) :
    buffer.readAs target position = cell.convertAs target := by
  rw [readAs, there]
  rfl

/-- What is read along some positions in another type is what is read there, converted. -/
theorem mapM_readAs {positions : List Nat} {cells : List (Cell buffer.dtype)}
    (read : positions.mapM (buffer.readAs buffer.dtype) = .ok cells) (target : DType) :
    positions.mapM (buffer.readAs target) = cells.mapM (Cell.convertAs target) := by
  have each := mapM_eq_ok_iff.mp read
  induction each with
  | nil => rfl
  | @cons position cell positions cells first _ ih =>
      rw [readAs_self] at first
      rw [List.mapM_cons, List.mapM_cons, readAs_eq_of_read first, ih (mapM_eq_ok_iff.mpr ‹_›)]

end Buffer

namespace Tensor

/-- The tensor has a stride for every dimension, and its elements have their places in the
buffer. -/
def InBounds (tensor : Tensor) : Prop := tensor.layout.Inside tensor.buffer.size

/-- Every element has its place in the buffer. A tensor without elements needs no strides for that,
and strides beyond its dimensions do no harm. -/
def Readable (tensor : Tensor) : Prop :=
  ∃ positions, tensor.layout.positions = .ok positions ∧
    ∀ position ∈ positions, position < tensor.buffer.size

variable {tensor other : Tensor}

theorem InBounds.readable (inside : tensor.InBounds) : tensor.Readable :=
  have placed := Layout.positions_eq (Layout.not_lacksStrides inside.strides)
  ⟨_, placed, inside.positions _ placed⟩

/-! ## Elements -/

/-- Elements that can be read can be read in any type that can represent them. -/
theorem elementsAs_eq {cells : List (Cell tensor.dtype)}
    (read : tensor.elementsAs tensor.dtype = .ok cells) (target : DType) :
    tensor.elementsAs target = cells.mapM (Cell.convertAs target) := by
  rw [elementsAs, Buffer.gather_eq] at read ⊢
  cases placed : tensor.layout.positions with
  | error cause =>
      rw [placed] at read
      cases read
  | ok positions =>
      rw [placed] at read
      exact Buffer.mapM_readAs read target

/-- There are as many elements as the shape says. -/
theorem length_of_elementsAs {target : DType} {cells : List (Cell target)}
    (read : tensor.elementsAs target = .ok cells) : cells.length = tensor.elementCount := by
  rw [elementsAs, Buffer.gather_eq] at read
  cases placed : tensor.layout.positions with
  | error cause =>
      rw [placed] at read
      cases read
  | ok positions =>
      rw [placed] at read
      have enough : ¬ tensor.layout.lacksStrides := by
        intro lacks
        rw [Layout.positions, Layout.firstPositions, if_pos lacks] at placed
        cases placed
      rw [Layout.positions_eq enough] at placed
      obtain rfl := Except.ok.inj placed
      rw [← (mapM_eq_ok_iff.mp read).length_eq, List.length_map, List.length_range]
      rfl

/-- The elements can be read exactly if each has its place in the buffer. -/
theorem readable_iff : tensor.Readable ↔ ∃ cells, tensor.elementsAs tensor.dtype = .ok cells := by
  have found {position : Nat} :
      (∃ cell, tensor.buffer.readAs tensor.dtype position = .ok cell) ↔
        position < tensor.buffer.size := by
    change (∃ cell, tensor.buffer.readAs tensor.buffer.dtype position = .ok cell) ↔ _
    rw [Buffer.readAs_self, Buffer.read]
    split <;> simp_all
  rw [elementsAs, Buffer.gather_eq, Readable]
  cases tensor.layout.positions with
  | error cause => simp [Except.bind]
  | ok positions =>
      simp only [Except.ok.injEq, exists_eq_left', Except.bind, exists_mapM_ok_iff, found]

/-- The elements of a tensor that lies in its buffer can be read. -/
theorem InBounds.elements (inside : tensor.InBounds) :
    ∃ cells, tensor.elementsAs tensor.dtype = .ok cells :=
  readable_iff.mp inside.readable

/-- The elements of a tensor over a buffer of its own are the cells it was made of. -/
theorem elementsAs_dense {origin : Origin} {dtype : DType} {cells : List (Cell dtype)}
    {shape : Shape} (fits : shape.elementCount = cells.length) :
    (dense origin dtype cells shape).elementsAs dtype = .ok cells := by
  rw [elementsAs, Buffer.gather_eq, dense, Layout.positions_rowMajor]
  refine mapM_eq_ok_iff.mpr (List.forall₂_iff_get.mpr ⟨?_, fun place inside inside' => ?_⟩)
  · rw [List.length_range]
    exact fits
  · rw [List.get_eq_getElem, List.getElem_range]
    refine ((Buffer.ofArray origin dtype cells.toArray).readAs_self place).trans ?_
    exact Buffer.read_ofArray origin dtype cells.toArray (by simpa using inside')

/-- A tensor over a buffer of its own lies in it. -/
theorem inBounds_dense {origin : Origin} {dtype : DType} {cells : List (Cell dtype)} {shape : Shape}
    (fits : shape.elementCount = cells.length) : (dense origin dtype cells shape).InBounds := by
  have inside := Layout.inside_rowMajor shape
  rwa [fits] at inside

/-- A tensor of zeros lies in its buffer. -/
theorem inBounds_zeros {origin : Origin} {shape : Shape} {dtype : DType}
    (made : zeros origin shape dtype = .ok tensor) : tensor.InBounds := by
  obtain ⟨buffer, filled, rfl⟩ := Result.exists_of_map_ok made
  unfold Buffer.tabulate at filled
  split at filled
  · exact nomatch filled
  · obtain rfl := Except.ok.inj filled
    exact Layout.inside_rowMajor shape

/-- Views of a tensor inside its buffer, made one from the other, lie in it. -/
theorem InBounds.views (inside : tensor.InBounds) {steps : List ViewStep}
    (made : steps.foldlM (fun tensor step => tensor.derive (.view step)) tensor = .ok other) :
    other.InBounds := by
  induction steps generalizing tensor with
  | nil =>
      obtain rfl := Except.ok.inj made
      exact inside
  | cons step steps ih =>
      rw [List.foldlM_cons] at made
      cases derived : tensor.derive (.view step) with
      | error cause =>
          rw [derived] at made
          exact nomatch made
      | ok viewed =>
          rw [derived] at made
          obtain ⟨layout, stepped, rfl⟩ := Result.exists_of_map_ok derived
          have inside' : (tensor.view layout).InBounds := Layout.Inside.step inside stepped
          exact ih inside' made

/-! ## Tensors of the same contents -/

/-- Two tensors have the same type, the same shape and the same elements, in whatever type they are
read. -/
structure SameContents (tensor other : Tensor) : Prop where
  dtype : tensor.dtype = other.dtype
  shape : tensor.shape = other.shape
  elements : ∀ target, tensor.elementsAs target = other.elementsAs target

namespace SameContents

theorem refl (tensor : Tensor) : SameContents tensor tensor := ⟨rfl, rfl, fun _ => rfl⟩

theorem symm (same : SameContents tensor other) : SameContents other tensor :=
  ⟨same.dtype.symm, same.shape.symm, fun target => (same.elements target).symm⟩

theorem trans {third : Tensor} (same : SameContents tensor other)
    (same' : SameContents other third) : SameContents tensor third :=
  ⟨same.dtype.trans same'.dtype, same.shape.trans same'.shape, fun target =>
    (same.elements target).trans (same'.elements target)⟩

end SameContents

/-- Elements that can be read need only be the same in their own type. -/
theorem sameContents_of_elements (dtype : tensor.dtype = other.dtype)
    (shape : tensor.shape = other.shape) {cells : List (Cell tensor.dtype)}
    (read : tensor.elementsAs tensor.dtype = .ok cells)
    (read' : other.elementsAs tensor.dtype = .ok cells) : SameContents tensor other := by
  refine ⟨dtype, shape, fun target => ?_⟩
  rw [elementsAs_eq read]
  obtain ⟨⟨type, size, cell, origin⟩, layout⟩ := tensor
  obtain ⟨⟨type', size', cell', origin'⟩, layout'⟩ := other
  obtain rfl : type = type' := dtype
  exact (elementsAs_eq read' target).symm

/-- Tensors inside their buffers whose elements are the same have the same contents. -/
theorem InBounds.sameContents (inside : tensor.InBounds) (dtype : tensor.dtype = other.dtype)
    (shape : tensor.shape = other.shape)
    (elements : tensor.elementsAs tensor.dtype = other.elementsAs tensor.dtype) :
    SameContents tensor other := by
  obtain ⟨cells, read⟩ := inside.elements
  exact sameContents_of_elements dtype shape read (elements ▸ read)

/-! ## Blocks and copies -/

/-- A copy has one block. -/
theorem isContiguous_of_copyAs {target : DType} {copy : Tensor}
    (copied : tensor.copyAs target = .ok copy) : copy.isContiguous = true := by
  obtain ⟨cells, -, rfl⟩ := Result.exists_of_map_ok copied
  exact Layout.isContiguous_rowMajor tensor.shape

/-- What is brought into one block is one. -/
theorem isContiguous_of_contiguous {block : Tensor} (made : tensor.contiguous = .ok block) :
    block.isContiguous = true := by
  unfold contiguous at made
  split at made
  · next already =>
      obtain rfl := Except.ok.inj made
      exact already
  · exact isContiguous_of_copyAs made

/-- What is converted from one block is one. -/
theorem isContiguous_of_toDType {target : DType} {converted : Tensor}
    (made : tensor.toDType target = .ok converted) (block : tensor.isContiguous = true) :
    converted.isContiguous = true := by
  unfold toDType at made
  split at made
  · obtain rfl := Except.ok.inj made
    exact block
  · exact isContiguous_of_copyAs made

/-- A copy lies in its buffer. -/
theorem inBounds_of_copyAs {target : DType} {copy : Tensor}
    (copied : tensor.copyAs target = .ok copy) : copy.InBounds := by
  obtain ⟨cells, read, rfl⟩ := Result.exists_of_map_ok copied
  exact inBounds_dense (length_of_elementsAs read).symm

/-- A copy in the same type has the same contents. -/
theorem sameContents_of_copyAs {copy : Tensor} (copied : tensor.copyAs tensor.dtype = .ok copy) :
    SameContents tensor copy := by
  obtain ⟨cells, read, rfl⟩ := Result.exists_of_map_ok copied
  exact sameContents_of_elements rfl rfl read (elementsAs_dense (length_of_elementsAs read).symm)

/-- What can be read can be copied. -/
theorem Readable.copyAs (readable : tensor.Readable) :
    ∃ copy, tensor.copyAs tensor.dtype = .ok copy := by
  obtain ⟨cells, read⟩ := readable_iff.mp readable
  rw [Tensor.copyAs, read]
  exact ⟨_, rfl⟩

/-- Bringing a tensor that can be read into one block cannot fail, and keeps the contents. -/
theorem Readable.contiguous (readable : tensor.Readable) :
    ∃ block, tensor.contiguous = .ok block ∧ SameContents tensor block := by
  unfold Tensor.contiguous
  split
  · exact ⟨tensor, rfl, .refl tensor⟩
  · obtain ⟨copy, copied⟩ := readable.copyAs
    exact ⟨copy, copied, sameContents_of_copyAs copied⟩

/-- Bringing a tensor inside its buffer into one block leaves it inside its buffer. -/
theorem InBounds.contiguous (inside : tensor.InBounds) :
    ∃ block, tensor.contiguous = .ok block ∧ SameContents tensor block ∧ block.InBounds := by
  obtain ⟨block, made, same⟩ := inside.readable.contiguous
  refine ⟨block, made, same, ?_⟩
  unfold Tensor.contiguous at made
  split at made
  · obtain rfl := Except.ok.inj made
    exact inside
  · exact inBounds_of_copyAs made

/-! ## What is done with tensors of the same contents -/

/-- Copies of the same contents have the same contents. -/
theorem SameContents.copyAs (same : SameContents tensor other) (target : DType) :
    Result.Agree SameContents (tensor.copyAs target) (other.copyAs target) := by
  rw [Tensor.copyAs, Tensor.copyAs, ← same.elements target]
  cases read : tensor.elementsAs target with
  | error cause => exact .error cause
  | ok cells =>
      have fits := (length_of_elementsAs read).symm
      refine .ok (sameContents_of_elements rfl same.shape (elementsAs_dense fits) ?_)
      exact elementsAs_dense ((congrArg Shape.elementCount same.shape).symm.trans fits)

/-- Two tensors are the same, or have the same contents and lie in their buffers in any way. -/
def Agrees (tensor other : Tensor) : Prop :=
  tensor = other ∨ SameContents tensor other ∧ tensor.InBounds ∧ other.InBounds

namespace Agrees

theorem refl (tensor : Tensor) : Agrees tensor tensor := .inl rfl

theorem sameContents (agrees : Agrees tensor other) : SameContents tensor other := by
  rcases agrees with rfl | ⟨same, -, -⟩
  · exact .refl tensor
  · exact same

theorem contiguous (agrees : Agrees tensor other) :
    Result.Agree Agrees tensor.contiguous other.contiguous := by
  rcases agrees with rfl | ⟨same, inside, inside'⟩
  · exact .refl refl _
  · obtain ⟨block, made, kept, there⟩ := inside.contiguous
    obtain ⟨block', made', kept', there'⟩ := inside'.contiguous
    rw [made, made']
    exact .ok (.inr ⟨(kept.symm.trans same).trans kept', there, there'⟩)

theorem toDType (agrees : Agrees tensor other) (target : DType) :
    Result.Agree Agrees (tensor.toDType target) (other.toDType target) := by
  rcases agrees with rfl | ⟨same, inside, inside'⟩
  · exact .refl refl _
  · rw [Tensor.toDType, Tensor.toDType, ← same.dtype]
    split
    · exact .ok (.inr ⟨same, inside, inside'⟩)
    · have copies := same.copyAs target
      cases copied : tensor.copyAs target <;> cases copied' : other.copyAs target <;>
        rw [copied, copied'] at copies
      · cases copies
        exact .error _
      · cases copies
      · cases copies
      · cases copies with
        | ok kept =>
            exact .ok (.inr ⟨kept, inBounds_of_copyAs copied, inBounds_of_copyAs copied'⟩)

theorem toFullPrecision (agrees : Agrees tensor other) :
    Result.Agree Agrees tensor.toFullPrecision other.toFullPrecision := by
  rw [Tensor.toFullPrecision, Tensor.toFullPrecision, ← agrees.sameContents.dtype]
  exact agrees.toDType _

end Agrees

end Tensor

namespace Batch

variable {batch : Batch} {tensor other : Tensor}

/-- What is narrowed from one block is one. -/
theorem isContiguous_of_narrow {narrowed : Tensor} (made : batch.narrow tensor = .ok narrowed)
    (block : tensor.isContiguous = true) : narrowed.isContiguous = true := by
  obtain ⟨size, rest, dims, -, rfl⟩ := eq_of_narrow made
  exact Layout.isContiguous_resize_zero dims (Nat.div_le_self size batch.product) block

/-- Narrowing a tensor inside its buffer depends on its shape alone. -/
theorem narrow_eq (inside : tensor.InBounds) :
    batch.narrow tensor = match tensor.shape.lookup 0 with
      | .error cause => .error cause
      | .ok size => match batch.multiplier with
        | .error cause => .error cause
        | .ok multiplier =>
          if size % multiplier = 0 then
            .ok (tensor.view { tensor.layout with
              shape := tensor.shape.resize 0 (size / multiplier) })
          else .error (.batchDimension tensor.shape size batch.deviceIterations
            batch.replicationFactor batch.gradientAccumulation multiplier) := by
  rw [narrow]
  cases found : tensor.shape.lookup 0 with
  | error cause => rfl
  | ok size =>
      obtain ⟨rest, dims⟩ := Shape.dims_of_lookup_zero found
      cases batch.multiplier with
      | error cause => rfl
      | ok multiplier =>
          dsimp only
          split
          · rw [Tensor.narrow, Layout.narrow_leading inside.strides dims
              (Nat.div_le_self size multiplier)]
            rfl
          · rfl

/-- Tensors that agree are narrowed to tensors that agree. -/
theorem agree_narrow (agrees : tensor.Agrees other) :
    Result.Agree Tensor.Agrees (batch.narrow tensor) (batch.narrow other) := by
  rcases agrees with rfl | ⟨same, inside, inside'⟩
  · exact .refl Tensor.Agrees.refl _
  · rw [narrow_eq inside, narrow_eq inside', ← same.shape]
    cases found : tensor.shape.lookup 0 with
    | error cause => exact .error cause
    | ok size =>
        cases batch.multiplier with
        | error cause => exact .error cause
        | ok multiplier =>
            dsimp only
            split_ifs with divides
            · obtain ⟨rest, dims⟩ := Shape.dims_of_lookup_zero found
              have dims' : other.shape.dims = size :: rest := same.shape ▸ dims
              have shorter := Nat.div_le_self size multiplier
              obtain ⟨cells, read⟩ := inside.elements
              have part := Tensor.elementsAs_leading dims divides read
              have part' := Tensor.elementsAs_leading dims' divides (same.elements _ ▸ read)
              rw [← same.shape] at part'
              exact .ok (.inr ⟨Tensor.sameContents_of_elements same.dtype rfl part part',
                inside.narrow (Layout.narrow_leading inside.strides dims shorter),
                same.shape ▸ inside'.narrow
                  (Layout.narrow_leading inside'.strides dims' shorter)⟩)
            · exact .error _

end Batch

end Offload
