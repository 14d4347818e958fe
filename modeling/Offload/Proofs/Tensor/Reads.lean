/-
# Reads stay inside the buffer

Every tensor that an application can come by is made from data or of zeros and then derived, step by
step. Each way to derive one from another keeps two things: every element has its place in the
buffer, and no two have the same. Only views have to be looked at for that; a copy is written row by
row into a buffer of its own. So whatever reads the elements of such a tensor never leaves the
buffer, and the only way it can fail is that an element has no counterpart in another type.

An empty view may start anywhere, also past the end; what is kept speaks of the positions of
elements and not of where a layout starts.
-/

import Offload.Proofs.Layout.Distinct
import Offload.Proofs.Tensor.Contents

namespace Offload.Tensor

/-- The tensors there are: made from data or of zeros, and derived from others. -/
inductive Made : Tensor → Prop where
  | ofList {origin : Origin} {dtype : DType} {cells : List (Cell dtype)} {shape : Shape}
      {tensor : Tensor} (made : Tensor.ofList origin dtype cells shape = .ok tensor) : Made tensor
  | zeros {origin : Origin} {shape : Shape} {dtype : DType} {tensor : Tensor}
      (made : Tensor.zeros origin shape dtype = .ok tensor) : Made tensor
  | derived {tensor derived : Tensor} (source : Made tensor) {derivation : Derivation}
      (made : tensor.derive derivation = .ok derived) : Made derived

/-- Every element has its place in the buffer, and none shares it. -/
structure Placed (tensor : Tensor) : Prop where
  inside : tensor.InBounds
  distinct : tensor.layout.Distinct

/-! ## What is placed -/

namespace Placed

variable {tensor other : Tensor}

theorem dense {origin : Origin} {dtype : DType} {cells : List (Cell dtype)} {shape : Shape}
    (fits : shape.elementCount = cells.length) : (Tensor.dense origin dtype cells shape).Placed :=
  ⟨inBounds_dense fits, Layout.distinct_rowMajor shape⟩

theorem of_ofList {origin : Origin} {dtype : DType} {cells : List (Cell dtype)} {shape : Shape}
    (made : Tensor.ofList origin dtype cells shape = .ok tensor) : tensor.Placed := by
  unfold Tensor.ofList at made
  split at made
  · next fits =>
      obtain rfl := Except.ok.inj made
      exact .dense fits
  · cases made

theorem of_zeros {origin : Origin} {shape : Shape} {dtype : DType}
    (made : Tensor.zeros origin shape dtype = .ok tensor) : tensor.Placed := by
  refine ⟨inBounds_zeros made, ?_⟩
  obtain ⟨buffer, -, rfl⟩ := Result.exists_of_map_ok made
  exact Layout.distinct_rowMajor shape

theorem of_copyAs {target : DType} (copied : tensor.copyAs target = .ok other) : other.Placed := by
  obtain ⟨cells, read, rfl⟩ := Result.exists_of_map_ok copied
  exact .dense (length_of_elementsAs read).symm

/-- What is derived from a tensor whose elements have places of their own has such elements too. -/
theorem derive (placed : tensor.Placed) {derivation : Derivation}
    (made : tensor.derive derivation = .ok other) : other.Placed := by
  cases derivation with
  | view step =>
      obtain ⟨layout, stepped, rfl⟩ := Result.exists_of_map_ok made
      exact ⟨placed.inside.step stepped, placed.distinct.step placed.inside.strides stepped⟩
  | contiguous =>
      rw [Tensor.derive, Tensor.contiguous] at made
      split at made
      · obtain rfl := Except.ok.inj made
        exact placed
      · exact .of_copyAs made
  | toDType dtype =>
      rw [Tensor.derive, Tensor.toDType] at made
      split at made
      · obtain rfl := Except.ok.inj made
        exact placed
      · exact .of_copyAs made
  | zerosLike => exact .of_zeros made
  | same =>
      obtain rfl := Except.ok.inj made
      exact placed

end Placed

/-- The elements of every tensor there is have places of their own. -/
theorem Made.placed {tensor : Tensor} (made : tensor.Made) : tensor.Placed := by
  induction made with
  | ofList made => exact .of_ofList made
  | zeros made => exact .of_zeros made
  | derived _ made placed => exact placed.derive made

/-! ## What is read -/

/-- A traversal fails for the cause for which it failed at an element. -/
theorem exists_of_mapM_error {ε α β : Type} {read : α → Except ε β} {cause : ε} :
    ∀ {list : List α}, list.mapM read = .error cause →
      ∃ element ∈ list, read element = .error cause
  | [], failed => by cases failed
  | element :: list, failed => by
      rw [List.mapM_cons] at failed
      cases first : read element with
      | error other =>
          rw [first] at failed
          obtain rfl := Except.error.inj failed
          exact ⟨element, List.mem_cons_self, first⟩
      | ok value =>
          rw [first] at failed
          cases others : list.mapM read with
          | error other =>
              replace failed : Except.error (ε := ε) (α := List β) other = .error cause := by
                simpa [others, bind, Except.bind] using failed
              obtain rfl := Except.error.inj failed
              obtain ⟨element, there, failed⟩ := exists_of_mapM_error others
              exact ⟨element, List.mem_cons_of_mem _ there, failed⟩
          | ok values => simp [others, bind, Except.bind, pure, Except.pure] at failed

section Readable

variable {tensor other : Tensor}

/-- Elements that have their places can be read in any type that can represent them. -/
theorem Readable.cause_of_elementsAs (readable : tensor.Readable) {target : DType} {cause : Error}
    (failed : tensor.elementsAs target = .error cause) : cause = .unrepresentable target := by
  obtain ⟨cells, read⟩ := readable_iff.mp readable
  rw [elementsAs_eq read] at failed
  obtain ⟨cell, -, failed⟩ := exists_of_mapM_error failed
  unfold Cell.convertAs at failed
  split at failed
  · cases failed
  · exact (Except.error.inj failed).symm

theorem Readable.cause_of_toDType (readable : tensor.Readable) {target : DType} {cause : Error}
    (failed : tensor.toDType target = .error cause) : cause = .unrepresentable target := by
  unfold Tensor.toDType at failed
  split at failed
  · cases failed
  · cases read : tensor.elementsAs target with
    | error other =>
        rw [Tensor.copyAs, read] at failed
        obtain rfl := Except.error.inj failed
        exact readable.cause_of_elementsAs read
    | ok cells =>
        rw [Tensor.copyAs, read] at failed
        cases failed

/-- Tensors that can be read can be compared. -/
theorem Readable.equal (readable : tensor.Readable) (readable' : other.Readable) :
    ∃ same, tensor.equal other = .ok same := by
  obtain ⟨cells, read⟩ := readable_iff.mp readable
  obtain ⟨cells', read'⟩ := readable_iff.mp readable'
  unfold Tensor.equal
  split
  · rw [Tensor.elements, Tensor.elements, read, read']
    exact ⟨_, rfl⟩
  · exact ⟨false, rfl⟩

end Readable

namespace InBounds

variable {tensor other : Tensor}

theorem cause_of_elementsAs (inside : tensor.InBounds) {target : DType} {cause : Error}
    (failed : tensor.elementsAs target = .error cause) : cause = .unrepresentable target :=
  inside.readable.cause_of_elementsAs failed

theorem cause_of_toDType (inside : tensor.InBounds) {target : DType} {cause : Error}
    (failed : tensor.toDType target = .error cause) : cause = .unrepresentable target :=
  inside.readable.cause_of_toDType failed

theorem equal (inside : tensor.InBounds) (inside' : other.InBounds) :
    ∃ same, tensor.equal other = .ok same :=
  inside.readable.equal inside'.readable

end InBounds

/-- Whatever reads the elements of a tensor stays inside its buffer and comes to each position at
most once. -/
structure ReadsInside (tensor : Tensor) : Prop where
  strides : tensor.layout.strides.length = tensor.rank
  /-- The positions of the first elements, however many of them are asked for. -/
  positions : ∀ count, ∃ positions, tensor.layout.firstPositions count = .ok positions ∧
    (∀ position ∈ positions, position < tensor.buffer.size) ∧ positions.Nodup
  elements : ∃ cells, tensor.elements = .ok cells ∧ cells.length = tensor.elementCount
  /-- Converting fails for an element that the type cannot represent, and for nothing else. -/
  elementsAs : ∀ target cause, tensor.elementsAs target = .error cause →
    cause = .unrepresentable target
  toDType : ∀ target cause, tensor.toDType target = .error cause → cause = .unrepresentable target
  contiguous : ∃ block, tensor.contiguous = .ok block
  equal : ∀ other : Tensor, other.Made → ∃ same, tensor.equal other = .ok same

/-- However a tensor was made, its elements have places of their own inside its buffer: they can be
read, densified and compared with those of any other tensor. -/
theorem reads_inside_once {tensor : Tensor} (made : tensor.Made) : tensor.ReadsInside := by
  obtain ⟨inside, distinct⟩ := made.placed
  refine ⟨inside.strides, fun count => ?_, ?_, fun target cause => inside.cause_of_elementsAs,
    fun target cause => inside.cause_of_toDType, ?_, fun other made' => ?_⟩
  · have placed := Layout.positions_eq (Layout.not_lacksStrides inside.strides)
    refine ⟨_, Layout.firstPositions_of_positions placed count, fun position there => ?_,
      (distinct _ placed).sublist (List.take_sublist count _)⟩
    exact inside.positions _ placed position (List.mem_of_mem_take there)
  · obtain ⟨cells, read⟩ := inside.elements
    exact ⟨cells, read, length_of_elementsAs read⟩
  · obtain ⟨block, densified, -⟩ := inside.contiguous
    exact ⟨block, densified⟩
  · exact inside.equal made'.placed.inside

/-- A block of two rows and three columns. -/
def twoRows : Tensor := dense (.made 0) .u8 [10, 11, 12, 20, 21, 22] ⟨[2, 3]⟩

/-- Its last two columns, as rows. -/
def lastColumns : Tensor := twoRows.view ⟨⟨[2, 2]⟩, [1, 3], 1⟩

/-- A slice of a transposed block starts inside the block and steps across its rows. -/
theorem lastColumns_reads_inside :
    lastColumns.Made ∧ lastColumns.layout.positions = .ok [1, 4, 2, 5] ∧ lastColumns.ReadsInside := by
  have block : twoRows.Made :=
    .ofList (show ofList (.made 0) .u8 [10, 11, 12, 20, 21, 22] ⟨[2, 3]⟩ = .ok twoRows from rfl)
  have turned : twoRows.derive (.view (.transpose 0 1)) =
      .ok (twoRows.view ⟨⟨[3, 2]⟩, [1, 3], 0⟩) := rfl
  have columns : lastColumns.Made :=
    .derived (.derived block turned)
      (show (twoRows.view _).derive (.view (.narrow 0 1 2)) = .ok lastColumns from rfl)
  exact ⟨columns, rfl, reads_inside_once columns⟩

end Offload.Tensor
