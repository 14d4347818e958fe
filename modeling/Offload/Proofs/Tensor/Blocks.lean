/-
# Blocks are what can be read straight

A tensor of one block may stay in its buffer when it is densified: its elements are the cells from
where it starts on. Whether that is so cannot be told from the tensor alone, since cells may be the
same by chance; so straight reads are judged in every buffer that the layout lies in, and among
these are buffers with a single marked cell, in which no two positions are confused. A layout that
is read straight there runs through its positions one after the other, and if it has an element at
all, then it is one block for the test that decides about copying. Layouts without elements are read
straight whatever their strides; the test may still refuse them.
-/

import Offload.Proofs.Tensor.Contents

namespace Offload

/-- What two traversals with the same values read of their elements is the same, place by place. -/
theorem forall₂_of_mapM_eq {ε α β : Type} {read : α → Except ε β} {first second : List α}
    {values : List β} (firstRead : first.mapM read = .ok values)
    (secondRead : second.mapM read = .ok values) :
    List.Forall₂ (fun element other => read element = read other) first second :=
  forall₂_comp (fun _ _ _ one other => one.trans other.symm) (mapM_eq_ok_iff.mp firstRead)
    (mapM_eq_ok_iff.mp secondRead).flip

namespace Buffer

/-- A buffer of which one cell is marked. -/
def marked (size mark : Nat) : Buffer :=
  ⟨.u8, size, fun position => if position.val = mark then 1 else 0, .made 0⟩

/-- Only the marked cell reads as it does. -/
theorem eq_of_readAs_marked {size mark position : Nat} (inside : mark < size)
    (same : (marked size mark).readAs .u8 position = (marked size mark).readAs .u8 mark) :
    position = mark := by
  have marks : (marked size mark).readAs .u8 mark = .ok 1 := by
    refine (readAs_self (marked size mark) mark).trans ((dif_pos inside).trans ?_)
    exact congrArg Except.ok (if_pos rfl)
  have reads := (readAs_self (marked size mark) position).symm.trans (same.trans marks)
  by_contra other
  unfold Buffer.read at reads
  split at reads
  · have blank : (0 : Cell .u8) = 1 := (if_neg other).symm.trans (Except.ok.inj reads)
    exact absurd blank (by decide)
  · cases reads

end Buffer

namespace Layout

open Odometer

variable {layout : Layout}

/-- However many positions are asked for, they are the first of the list, and after it there are no
more. -/
def Yields (layout : Layout) (positions : List Nat) : Prop :=
  ∀ count, layout.firstPositions count = .ok (positions.take count)

/-- The positions of all elements are all there are. -/
theorem yields_iff {positions : List Nat} :
    layout.Yields positions ↔ layout.positions = .ok positions := by
  constructor
  · intro yields
    have placed : layout.positions = .ok (positions.take layout.elementCount) :=
      yields layout.elementCount
    have same := Except.ok.inj
      ((firstPositions_of_positions placed positions.length).symm.trans (yields positions.length))
    rw [List.take_of_length_le (List.length_take_le' _ _), List.take_length] at same
    rwa [same] at placed
  · exact firstPositions_of_positions

/-- In every buffer that the layout lies in, its elements are as many cells from where it starts
on. -/
def StraightRead (layout : Layout) : Prop :=
  ∀ buffer : Buffer, layout.Inside buffer.size → ∀ target,
    buffer.gather layout target =
      (List.range' layout.offset layout.elementCount).mapM (buffer.readAs target)

/-- There are buffers with room for the elements and for a straight read. -/
theorem exists_inside (strides : layout.strides.length = layout.rank) :
    ∃ size, layout.Inside size ∧ layout.offset + layout.elementCount ≤ size :=
  ⟨layout.offset + reach (wheels layout.shape.dims layout.strides) + layout.elementCount + 1,
    inside_iff.mpr ⟨strides, fun _ => by omega⟩, by omega⟩

/-- A straight read comes to the same cells, place by place. -/
theorem StraightRead.forall₂ (straight : layout.StraightRead) {buffer : Buffer}
    (inside : layout.Inside buffer.size) {positions : List Nat}
    (placed : layout.positions = .ok positions) :
    List.Forall₂
      (fun position other =>
        buffer.readAs buffer.dtype position = buffer.readAs buffer.dtype other)
      positions (List.range' layout.offset layout.elementCount) := by
  obtain ⟨cells, read⟩ :=
    Tensor.InBounds.elements (show Tensor.InBounds ⟨buffer, layout⟩ from inside)
  replace read : buffer.gather layout buffer.dtype = .ok cells := read
  have straightly := (straight buffer inside _).symm.trans read
  rw [Buffer.gather_eq, placed] at read
  exact forall₂_of_mapM_eq read straightly

/-- A layout is read straight exactly if its positions follow each other. To learn one position, the
cell is marked that a straight read comes to in its place. -/
theorem straightRead_iff (strides : layout.strides.length = layout.rank) :
    layout.StraightRead ↔
      layout.positions = .ok (List.range' layout.offset layout.elementCount) := by
  constructor
  · intro straight
    obtain ⟨size, inside, room⟩ := exists_inside strides
    have placed := positions_eq (not_lacksStrides strides)
    refine placed.trans (congrArg Except.ok (List.ext_getElem (by simp) fun place there there' => ?_))
    rw [List.getElem_range', Nat.one_mul]
    have known : layout.offset + place < size := by
      rw [List.length_range'] at there'
      omega
    have marked : layout.Inside (Buffer.marked size (layout.offset + place)).size := inside
    have same := (straight.forall₂ marked placed).get there there'
    rw [List.get_eq_getElem, List.get_eq_getElem, List.getElem_range', Nat.one_mul] at same
    exact Buffer.eq_of_readAs_marked known same
  · intro follow buffer _ target
    rw [Buffer.gather_eq, follow]
    rfl

end Layout

namespace Tensor

variable {tensor : Tensor}

/-- Densifying leaves the tensor in its buffer. -/
def StaysInBuffer (tensor : Tensor) : Prop :=
  ∃ block, tensor.contiguous = .ok block ∧ block.sharesStorage tensor = true

/-- No buffer is gathered from itself. -/
theorem not_sharesStorage_of_copyAs {target : DType} {copy : Tensor}
    (copied : tensor.copyAs target = .ok copy) : copy.sharesStorage tensor = false := by
  obtain ⟨cells, -, rfl⟩ := Result.exists_of_map_ok copied
  refine beq_eq_false_iff_ne.mpr fun same => ?_
  have sizes : sizeOf (Origin.gathered tensor.buffer.origin tensor.layout target) =
      sizeOf tensor.buffer.origin := congrArg sizeOf same
  rw [Origin.gathered.sizeOf_spec] at sizes
  omega

/-- Exactly the tensors of one block stay in their buffers. -/
theorem staysInBuffer_iff : tensor.StaysInBuffer ↔ tensor.isContiguous = true := by
  rw [StaysInBuffer, contiguous]
  split
  · next block => exact ⟨fun _ => block, fun _ => ⟨tensor, rfl, beq_self_eq_true _⟩⟩
  · next scattered =>
      refine ⟨?_, fun block => absurd block scattered⟩
      rintro ⟨copy, copied, shares⟩
      rw [not_sharesStorage_of_copyAs copied] at shares
      cases shares

end Tensor

namespace Layout

/-- What the test for one block tells of a layout, and of the tensors that have it. -/
structure BlockTested (layout : Layout) : Prop where
  yields : layout.isContiguous = true →
    layout.Yields (List.range' layout.offset layout.elementCount)
  isContiguous : layout.elementCount ≠ 0 →
    layout.Yields (List.range' layout.offset layout.elementCount) → layout.isContiguous = true
  straightRead : ∀ tensor : Tensor, tensor.layout = layout → tensor.StaysInBuffer →
    layout.StraightRead
  staysInBuffer_iff : layout.elementCount ≠ 0 → ∀ tensor : Tensor, tensor.layout = layout →
    (tensor.StaysInBuffer ↔ layout.StraightRead)

/-- The positions of what passes for one block follow each other, and what has an element and positions
that follow each other passes for one block. So densifying leaves a tensor in its buffer only if its
layout can be read straight and, if there is an element, whenever it can. -/
theorem isContiguous_tells_blocks {layout : Layout}
    (strides : layout.strides.length = layout.rank) : layout.BlockTested where
  yields block := yields_iff.mpr (positions_of_isContiguous strides block)
  isContiguous some_element yields :=
    isContiguous_of_positions strides some_element (yields_iff.mp yields)
  straightRead := by
    rintro tensor rfl stays
    exact (straightRead_iff strides).mpr
      (positions_of_isContiguous strides (Tensor.staysInBuffer_iff.mp stays))
  staysInBuffer_iff := by
    rintro some_element tensor rfl
    rw [Tensor.staysInBuffer_iff, straightRead_iff strides]
    exact ⟨positions_of_isContiguous strides, isContiguous_of_positions strides some_element⟩

/-- The second row of a block of three columns, with a stride between rows that nothing uses. -/
def secondRow : Layout := ⟨⟨[1, 3]⟩, [7, 1], 3⟩

theorem secondRow_blockTested :
    secondRow.strides.length = secondRow.rank ∧ secondRow.isContiguous = true ∧
      secondRow.positions = .ok [3, 4, 5] ∧ secondRow.BlockTested :=
  ⟨rfl, rfl, rfl, isContiguous_tells_blocks rfl⟩

/-- Without elements there is nothing to be read and yet no block. -/
example : (⟨⟨[0, 3]⟩, [3, 2], 0⟩ : Layout).positions = .ok [] ∧
    (⟨⟨[0, 3]⟩, [3, 2], 0⟩ : Layout).isContiguous = false := ⟨rfl, rfl⟩

end Layout

end Offload
