/-
# Layouts of one block

A layout whose strides are the row-major ones, up to dimensions that have at most one entry, runs
through its buffer position by position: its odometer shows the number of turns itself. The other
way round, if it does so and there is an element at all, then the strides are these: each dimension
of more than one entry comes to its second entry when the inner dimensions have gone round, and its
stride is the number of elements they went through. Making the leading dimension smaller leaves the
distances between neighbours what they were, so the leading part of a block is a block.
-/

import Offload.Proofs.Layout.Bounds

namespace Offload.Layout

open Odometer

/-- Every stride is the row-major one, except that of a dimension with at most one entry. -/
def Blocked : List Nat → List Nat → Prop
  | size :: dims, stride :: strides =>
      (size ≤ 1 ∨ stride = dims.foldr (· * ·) 1) ∧ Blocked dims strides
  | _, _ => True

theorem isContiguous_iff {layout : Layout} :
    layout.isContiguous = true ↔ Blocked layout.shape.dims layout.strides := by
  have goes : ∀ dims strides : List Nat,
      ((dims.zip (strides.zip (Shape.rowMajorStridesOf dims))).all
        fun entry => entry.1 ≤ 1 || entry.2.1 == entry.2.2) = true ↔
          Blocked dims strides := by
    intro dims
    induction dims with
    | nil => intro strides; simp [Blocked]
    | cons size dims ih =>
        intro strides
        cases strides with
        | nil => simp [Blocked]
        | cons stride strides => simp [Blocked, Shape.rowMajorStridesOf, ← ih]
  exact goes layout.shape.dims layout.strides

/-- Elements written row by row are one block. -/
theorem isContiguous_rowMajor (shape : Shape) : (rowMajor shape).isContiguous = true := by
  have goes : ∀ dims : List Nat, Blocked dims (Shape.rowMajorStridesOf dims) := by
    intro dims
    induction dims with
    | nil => trivial
    | cons size dims ih => exact ⟨.inr rfl, ih⟩
  exact isContiguous_iff.mpr (goes shape.dims)

/-- The leading part of a block is a block. -/
theorem isContiguous_resize_zero {layout : Layout} {size length : Nat} {rest : List Nat}
    (dims : layout.shape.dims = size :: rest) (shorter : length ≤ size)
    (block : layout.isContiguous = true) :
    { layout with shape := layout.shape.resize 0 length }.isContiguous = true := by
  rw [isContiguous_iff] at block ⊢
  rw [Shape.resize, dims, List.set_cons_zero]
  rw [dims] at block
  dsimp only
  cases strides : layout.strides with
  | nil => trivial
  | cons stride others =>
      rw [strides] at block
      exact ⟨block.1.imp_left shorter.trans, block.2⟩

/-- The odometer over one block shows the number of its turns. -/
theorem displacement_of_blocked : ∀ {dims strides : List Nat}, strides.length = dims.length →
    Blocked dims strides → dims.foldr (· * ·) 1 ≠ 0 → ∀ turns,
      displacement (wheels dims strides) turns = turns % dims.foldr (· * ·) 1
  | [], _, _, _, _, turns => by simp [wheels, displacement, Nat.mod_one]
  | size :: dims, stride :: strides, same, ⟨outer, inner⟩, some_element, turns => by
      have same : strides.length = dims.length := Nat.succ.inj same
      obtain ⟨some_size, some_inner⟩ := Nat.mul_ne_zero_iff.mp some_element
      rw [displacement_wheels_cons same, displacement_of_blocked same inner some_inner,
        List.foldr_cons, Nat.mul_comm size, Nat.mod_mul]
      rcases outer with small | rfl
      · have single : size = 1 := by omega
        rw [single, Nat.mod_one, Nat.zero_mul, Nat.mul_zero]
      · rw [Nat.mul_comm]

/-- The positions of one block follow each other. -/
theorem positions_of_isContiguous {layout : Layout} (strides : layout.strides.length = layout.rank)
    (block : layout.isContiguous = true) :
    layout.positions = .ok (List.range' layout.offset layout.elementCount) := by
  rw [positions_eq (not_lacksStrides strides), List.range'_eq_map_range]
  refine congrArg Except.ok (List.map_congr_left fun number there => ?_)
  have inside : number < layout.elementCount := List.mem_range.mp there
  rw [displacement_of_blocked strides (isContiguous_iff.mp block) (Nat.ne_zero_of_lt inside)]
  exact congrArg _ (Nat.mod_eq_of_lt inside)

/-- An odometer that shows the number of its turns runs over one block. The first turn after the
inner wheels have gone round tells the stride of the outermost one, if it has such a turn. -/
theorem blocked_of_displacement : ∀ {dims strides : List Nat}, strides.length = dims.length →
    (∀ number < dims.foldr (· * ·) 1, displacement (wheels dims strides) number = number) →
      dims.foldr (· * ·) 1 ≠ 0 → Blocked dims strides
  | [], _, _, _, _ => trivial
  | size :: dims, stride :: strides, same, shows, some_element => by
      have same : strides.length = dims.length := Nat.succ.inj same
      have all := capacity_wheels (Nat.le_of_eq same.symm)
      rw [List.foldr_cons] at shows some_element
      obtain ⟨some_size, some_inner⟩ := Nat.mul_ne_zero_iff.mp some_element
      constructor
      · refine or_iff_not_imp_left.mpr fun several => ?_
        have inside : dims.foldr (· * ·) 1 < size * dims.foldr (· * ·) 1 :=
          (Nat.lt_mul_iff_one_lt_left (Nat.pos_of_ne_zero some_inner)).mpr (Nat.not_le.mp several)
        have next := shows _ inside
        rwa [displacement_wheels_cons same, ← displacement_mod, all, Nat.mod_self, displacement_zero, Nat.zero_add,
          Nat.div_self (Nat.pos_of_ne_zero some_inner), Nat.mod_eq_of_lt (Nat.not_le.mp several),
          Nat.one_mul] at next
      · refine blocked_of_displacement same (fun number inside => ?_) some_inner
        have first := shows number
          (Nat.lt_of_lt_of_le inside (Nat.le_mul_of_pos_left _ (Nat.pos_of_ne_zero some_size)))
        rwa [displacement_wheels_cons same, Nat.div_eq_of_lt inside, Nat.zero_mod, Nat.zero_mul, Nat.add_zero] at first

/-- Elements whose positions follow each other are one block. -/
theorem isContiguous_of_positions {layout : Layout} (strides : layout.strides.length = layout.rank)
    (some_element : layout.elementCount ≠ 0)
    (follow : layout.positions = .ok (List.range' layout.offset layout.elementCount)) :
    layout.isContiguous = true := by
  rw [positions_eq (not_lacksStrides strides), List.range'_eq_map_range] at follow
  refine isContiguous_iff.mpr (blocked_of_displacement strides (fun number inside => ?_) some_element)
  have same := List.map_inj_left.mp (Except.ok.inj follow) number (List.mem_range.mpr inside)
  exact Nat.add_left_cancel same

/-- Elements written row by row have the positions from the start of the buffer on. -/
theorem positions_rowMajor (shape : Shape) :
    (rowMajor shape).positions = .ok (List.range shape.elementCount) := by
  rw [positions_of_isContiguous shape.length_rowMajorStrides (isContiguous_rowMajor shape),
    List.range_eq_range']
  rfl

/-- Elements written row by row lie in a buffer of their number. -/
theorem inside_rowMajor (shape : Shape) : (rowMajor shape).Inside shape.elementCount := by
  refine ⟨shape.length_rowMajorStrides, fun positions placed position there => ?_⟩
  rw [positions_rowMajor] at placed
  obtain rfl := Except.ok.inj placed
  exact List.mem_range.mp there

end Offload.Layout
