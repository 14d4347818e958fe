/-
# Layouts inside their buffer

A layout lies inside a buffer when every dimension has a stride and no element has a position
beyond the buffer. The position that lies furthest out is the one of the last element, where every
digit is the largest of its dimension; so the whole can be told from one sum over the dimensions,
the reach. Slicing makes the reach smaller and exchanging dimensions only puts its terms in another
order, so whatever views are made of a layout inside a buffer lie inside it too. Layouts without
elements are inside any buffer, wherever they start.
-/

import Mathlib.Algebra.BigOperators.Ring.List
import Mathlib.Data.List.GetD
import Offload.Proofs.Batch
import Offload.Tensor.Derivation

namespace Offload

namespace Odometer

/-- How far the wheels move when every one of them shows its last digit. -/
def reach (wheels : List Wheel) : Nat := (wheels.map fun wheel => (wheel.size - 1) * wheel.stride).sum

@[simp]
theorem reach_cons (wheel : Wheel) (outer : List Wheel) :
    reach (wheel :: outer) = (wheel.size - 1) * wheel.stride + reach outer := rfl

theorem reach_append (inner outer : List Wheel) :
    reach (inner ++ outer) = reach inner + reach outer := by
  rw [reach, List.map_append, List.sum_append]
  rfl

/-- No number of turns moves further than the reach. -/
theorem displacement_le_reach : ∀ (wheels : List Wheel) {turns : Nat}, turns < capacity wheels →
    displacement wheels turns ≤ reach wheels
  | [], _, _ => Nat.zero_le _
  | wheel :: outer, turns, inside => by
      rw [capacity] at inside
      have some_digit : 0 < wheel.size := Nat.pos_of_mul_pos_left (Nat.zero_lt_of_lt inside)
      have outer_inside : turns / wheel.size < capacity outer :=
        (Nat.div_lt_iff_lt_mul some_digit).mpr inside
      rw [displacement, reach_cons]
      exact Nat.add_le_add (Nat.mul_le_mul_right _ (Nat.le_sub_one_of_lt (Nat.mod_lt _ some_digit)))
        (displacement_le_reach outer outer_inside)

/-- The last number of turns moves as far as the reach. -/
theorem displacement_last : ∀ (wheels : List Wheel), capacity wheels ≠ 0 →
    displacement wheels (capacity wheels - 1) = reach wheels
  | [], _ => rfl
  | wheel :: outer, some_turns => by
      rw [capacity] at some_turns ⊢
      obtain ⟨outer_turns, some_digit⟩ := Nat.mul_ne_zero_iff.mp some_turns
      have split : capacity outer * wheel.size - 1 =
          (wheel.size - 1) + wheel.size * (capacity outer - 1) := by
        obtain ⟨before, many⟩ := Nat.exists_eq_succ_of_ne_zero outer_turns
        rw [many, Nat.succ_eq_add_one, Nat.add_sub_cancel, Nat.add_mul, Nat.one_mul,
          Nat.mul_comm before]
        omega
      have digit : wheel.size - 1 < wheel.size := by omega
      rw [displacement, reach_cons, split, Nat.add_mul_mod_self_left, Nat.mod_eq_of_lt digit,
        Nat.add_mul_div_left _ _ (Nat.pos_of_ne_zero some_digit), Nat.div_eq_of_lt digit,
        Nat.zero_add, displacement_last outer outer_turns]

end Odometer

namespace Layout

open Odometer

/-- Every dimension has a stride, and every element has its position in a buffer of a size. -/
structure Inside (layout : Layout) (size : Nat) : Prop where
  strides : layout.strides.length = layout.rank
  positions : ∀ positions, layout.positions = .ok positions → ∀ position ∈ positions,
    position < size

variable {layout : Layout} {size : Nat}

theorem not_lacksStrides (strides : layout.strides.length = layout.rank) :
    ¬ layout.lacksStrides :=
  fun lacks => Nat.lt_irrefl _ (strides ▸ lacks.2)

theorem capacity_eq_elementCount (strides : layout.strides.length = layout.rank) :
    capacity (wheels layout.shape.dims layout.strides) = layout.elementCount :=
  capacity_wheels (Nat.le_of_eq strides.symm)

/-- A layout is inside a buffer exactly if the position of its last element is. -/
theorem inside_iff : layout.Inside size ↔ layout.strides.length = layout.rank ∧
    (layout.elementCount ≠ 0 →
      layout.offset + reach (wheels layout.shape.dims layout.strides) < size) := by
  constructor
  · rintro ⟨strides, inside⟩
    refine ⟨strides, fun some_element => ?_⟩
    have all := capacity_eq_elementCount strides
    refine inside _ (positions_eq (not_lacksStrides strides)) _
      (List.mem_map.mpr ⟨layout.elementCount - 1, List.mem_range.mpr (by omega), ?_⟩)
    rw [← all, displacement_last _ (all ▸ some_element)]
  · rintro ⟨strides, inside⟩
    refine ⟨strides, fun positions placed position there => ?_⟩
    rw [positions_eq (not_lacksStrides strides)] at placed
    obtain rfl := Except.ok.inj placed
    obtain ⟨number, known, rfl⟩ := List.mem_map.mp there
    have known : number < layout.elementCount := List.mem_range.mp known
    have near := displacement_le_reach (wheels layout.shape.dims layout.strides)
      (capacity_eq_elementCount strides ▸ known)
    exact Nat.lt_of_le_of_lt (Nat.add_le_add_left near _) (inside (Nat.ne_zero_of_lt known))

/-- The reach is a sum over the dimensions in any order. -/
theorem reach_wheels (dims strides : List Nat) :
    reach (wheels dims strides) =
      ((dims.zip strides).map fun entry => (entry.1 - 1) * entry.2).sum := by
  simp [reach, wheels, List.sum_reverse, List.map_reverse, Function.comp_def]

theorem elementCount_ne_zero_iff : layout.elementCount ≠ 0 ↔ 0 ∉ layout.shape.dims := by
  rw [elementCount, Shape.elementCount, ← List.prod_eq_foldr, Ne, List.prod_eq_zero_iff]

/-! ## Slices -/

/-- The reach changes by what one dimension adds to it. -/
theorem reach_set : ∀ {dims strides : List Nat} {dimension old stride : Nat} (new : Nat),
    dims[dimension]? = some old → strides[dimension]? = some stride →
      reach (wheels (dims.set dimension new) strides) + (old - 1) * stride =
        reach (wheels dims strides) + (new - 1) * stride
  | size :: dims, step :: strides, 0, old, stride, new, there, there' => by
      obtain rfl : size = old := Option.some.inj there
      obtain rfl : step = stride := Option.some.inj there'
      rw [List.set_cons_zero, wheels_cons, wheels_cons, reach_append, reach_append]
      simp only [reach_cons]
      omega
  | size :: dims, step :: strides, dimension + 1, old, stride, new, there, there' => by
      have rest := @reach_set dims strides dimension old stride new there there'
      rw [List.set_cons_succ, wheels_cons, wheels_cons, reach_append, reach_append]
      omega

/-- What a slice was made of: the dimension is there, and the slice is part of it. -/
theorem narrow_eq_ok_iff {narrowed : Layout} {dimension start length : Nat} :
    layout.narrow dimension start length = .ok narrowed ↔
      ∃ size stride, layout.shape.dims[dimension]? = some size ∧ start + length ≤ size ∧
        layout.strides[dimension]? = some stride ∧
        narrowed = ⟨layout.shape.resize dimension length, layout.strides,
          layout.offset + start * stride⟩ := by
  rw [narrow, Shape.lookup, Shape.size?]
  cases layout.shape.dims[dimension]? with
  | none => simp
  | some size =>
      dsimp only
      split
      · next beyond => simpa using fun within => absurd beyond (Nat.not_lt.mpr within)
      · next within =>
          cases layout.strides[dimension]? with
          | none => simp
          | some stride => simp [Nat.not_lt.mp within, eq_comm]

/-- A slice of a layout inside a buffer is inside it. -/
theorem Inside.narrow (inside : layout.Inside size) {dimension start length : Nat}
    {narrowed : Layout} (made : layout.narrow dimension start length = .ok narrowed) :
    narrowed.Inside size := by
  obtain ⟨strides, within⟩ := inside_iff.mp inside
  obtain ⟨old, stride, there, part, there', rfl⟩ := narrow_eq_ok_iff.mp made
  rw [inside_iff]
  refine ⟨strides.trans (by simp [rank]), fun some_element => ?_⟩
  rw [elementCount_ne_zero_iff] at some_element
  have some_length : length ≠ 0 := by
    rintro rfl
    exact some_element (List.mem_set (List.getElem?_eq_some_iff.mp there).1 0)
  have whole : layout.elementCount ≠ 0 := by
    rw [elementCount_ne_zero_iff]
    intro empty
    obtain ⟨place, here⟩ := List.mem_iff_getElem?.mp empty
    refine some_element (List.mem_iff_getElem?.mpr ⟨place, ?_⟩)
    have apart : dimension ≠ place := by
      rintro rfl
      rw [there] at here
      have := Option.some.inj here
      omega
    rw [← here]
    exact List.getElem?_set_ne apart
  have changed := reach_set length there there'
  have longer : start * stride + (length - 1) * stride ≤ (old - 1) * stride := by
    rw [← Nat.add_mul]
    exact Nat.mul_le_mul_right _ (by omega)
  have bound := within whole
  rw [Shape.resize]
  dsimp only at *
  omega

/-- Slicing off the leading entries of a layout cannot fail. -/
theorem narrow_leading (strides : layout.strides.length = layout.rank) {old length : Nat}
    {rest : List Nat} (dims : layout.shape.dims = old :: rest) (shorter : length ≤ old) :
    layout.narrow 0 0 length = .ok { layout with shape := layout.shape.resize 0 length } := by
  have strided : 0 < layout.strides.length := by
    rw [strides, rank, Shape.rank, dims]
    exact Nat.succ_pos _
  rw [narrow_eq_ok_iff]
  refine ⟨old, _, by rw [dims]; rfl, by rwa [Nat.zero_add], List.getElem?_eq_getElem strided, ?_⟩
  rw [Nat.zero_mul, Nat.add_zero]

/-! ## Exchanged dimensions -/

/-- Exchanging two entries of a list puts them in another order. -/
theorem exchanged_perm {entries : List Nat} {first second : Nat} (inside : first < entries.length)
    (inside' : second < entries.length) :
    (Shape.exchanged entries first second).Perm entries := by
  have swapped := List.set_set_perm inside inside'
  rwa [← List.getD_eq_getElem entries 0 inside, ← List.getD_eq_getElem entries 0 inside'] at swapped

/-- The pairs of two lists in both of which two entries are exchanged. -/
theorem zip_exchanged {dims strides : List Nat} (same : strides.length = dims.length)
    {first second : Nat} (inside : first < dims.length) (inside' : second < dims.length) :
    ((Shape.exchanged dims first second).zip (Shape.exchanged strides first second)).Perm
      (dims.zip strides) := by
  have whole : (dims.zip strides).length = dims.length := by simp [same]
  have bounded : first < (dims.zip strides).length := whole ▸ inside
  have bounded' : second < (dims.zip strides).length := whole ▸ inside'
  refine .trans (.of_eq ?_) (List.set_set_perm bounded bounded')
  refine List.ext_getElem (by simp [Shape.exchanged]) fun place _ _ => ?_
  simp only [Shape.exchanged, List.getElem_zip, List.getElem_set, List.getD_eq_getElem,
    inside, inside', same]
  grind

/-- What a layout with exchanged dimensions was made of. -/
theorem transpose_eq_ok_iff {transposed : Layout} {first second : Nat} :
    layout.transpose first second = .ok transposed ↔
      first < layout.rank ∧ second < layout.rank ∧ first < layout.strides.length ∧
        second < layout.strides.length ∧
        transposed = ⟨layout.shape.exchange first second,
          Shape.exchanged layout.strides first second, layout.offset⟩ := by
  rw [transpose]
  split_ifs with beyond lacking
  · exact ⟨nofun, fun there => absurd beyond (by omega)⟩
  · exact ⟨nofun, fun there => absurd lacking (by omega)⟩
  · rw [not_or, Nat.not_le, Nat.not_le] at beyond lacking
    simp [beyond, lacking, eq_comm]

/-- Exchanging dimensions of a layout inside a buffer leaves it inside. -/
theorem Inside.transpose (inside : layout.Inside size) {first second : Nat} {transposed : Layout}
    (made : layout.transpose first second = .ok transposed) : transposed.Inside size := by
  obtain ⟨strides, within⟩ := inside_iff.mp inside
  obtain ⟨there, there', -, -, rfl⟩ := transpose_eq_ok_iff.mp made
  rw [inside_iff]
  refine ⟨by simpa [rank] using strides, fun some_element => ?_⟩
  have whole : layout.elementCount ≠ 0 := by
    rw [elementCount_ne_zero_iff] at some_element ⊢
    exact fun empty => some_element ((exchanged_perm there there').mem_iff.mpr empty)
  rw [reach_wheels]
  dsimp only [Shape.exchange]
  rw [((zip_exchanged strides there there').map _).sum_eq, ← reach_wheels]
  exact within whole

/-- A view of a layout inside a buffer is inside it. -/
theorem Inside.step (inside : layout.Inside size) {step : ViewStep} {viewed : Layout}
    (made : layout.step step = .ok viewed) : viewed.Inside size := by
  cases step with
  | narrow dimension start length => exact inside.narrow made
  | transpose first second => exact inside.transpose made

end Layout

end Offload
