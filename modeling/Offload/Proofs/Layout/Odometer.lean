/-
# What an odometer shows

After some turns from zero an odometer shows their number, digit by digit in the mixed radix of the
sizes of its wheels; and its position is where it started from, moved by each digit times the
stride of its wheel. So every position of a layout follows from its number alone. It also follows
that a layout with fewer entries in its outermost dimension has the first of the positions.
-/

import Mathlib.Tactic.Ring
import Offload.Layout.Basic

namespace Offload

namespace Odometer

/-- How many positions the wheels run through. -/
def capacity : List Wheel → Nat
  | [] => 1
  | wheel :: outer => capacity outer * wheel.size

/-- How far a number of turns from zero moves. -/
def displacement : List Wheel → Nat → Nat
  | [], _ => 0
  | wheel :: outer, turns =>
      turns % wheel.size * wheel.stride + displacement outer (turns / wheel.size)

/-- The wheels after a number of turns from zero. -/
def showing : List Wheel → Nat → List Wheel
  | [], _ => []
  | wheel :: outer, turns =>
      { wheel with digit := turns % wheel.size } :: showing outer (turns / wheel.size)

/-- A wheel that comes to its next digit holds what all its steps added, beside where the position
started and what the wheels outside of it added. -/
theorem held_eq (start digit stride further : Nat) :
    start + (digit * stride + further) + stride = start + further + stride * (digit + 1) := by
  ring

/-- One turn shows the next number, until all are through. The induction carries outwards; a wheel
that has gone round takes back exactly what its steps added. -/
theorem turn_showing (start : Nat) : ∀ (wheels : List Wheel) (turns : Nat),
    turns < capacity wheels →
      turn (showing wheels turns) (start + displacement wheels turns) =
        (showing wheels (turns + 1),
          if turns + 1 < capacity wheels then some (start + displacement wheels (turns + 1))
          else none)
  | [], turns, inside => by
      have first : turns = 0 := Nat.lt_one_iff.mp inside
      rw [if_neg (by rw [first]; decide)]
      rfl
  | wheel :: outer, turns, inside => by
      have some_digit : 0 < wheel.size := Nat.pos_of_mul_pos_left (Nat.zero_lt_of_lt inside)
      have split := Nat.mod_add_div turns wheel.size
      rw [capacity] at inside ⊢
      have outer_inside : turns / wheel.size < capacity outer :=
        (Nat.div_lt_iff_lt_mul some_digit).mpr inside
      simp only [showing, turn, displacement]
      -- either this wheel steps, or it goes round and the wheels outside of it turn
      by_cases stays : turns % wheel.size + 1 < wheel.size
      · have next : (turns + 1) / wheel.size = turns / wheel.size ∧
            (turns + 1) % wheel.size = turns % wheel.size + 1 :=
          (Nat.div_mod_unique some_digit).mpr ⟨by omega, stays⟩
        have next_inside : turns + 1 < capacity outer * wheel.size := by
          rw [← Nat.div_lt_iff_lt_mul some_digit, next.1]
          exact outer_inside
        rw [if_pos stays, if_pos next_inside, next.1, next.2]
        congr 2
        ring
      · have last : turns % wheel.size + 1 = wheel.size := by
          have := Nat.mod_lt turns some_digit
          omega
        have next : (turns + 1) / wheel.size = turns / wheel.size + 1 ∧
            (turns + 1) % wheel.size = 0 :=
          (Nat.div_mod_unique some_digit).mpr ⟨by rw [Nat.mul_add]; omega, some_digit⟩
        have back : start + (turns % wheel.size * wheel.stride +
            displacement outer (turns / wheel.size)) + wheel.stride -
              wheel.stride * (turns % wheel.size + 1) =
            start + displacement outer (turns / wheel.size) := by
          rw [held_eq, Nat.add_sub_cancel]
        have inside_iff : turns + 1 < capacity outer * wheel.size ↔
            turns / wheel.size + 1 < capacity outer := by
          rw [← Nat.div_lt_iff_lt_mul some_digit, next.1]
        rw [if_neg stays, back, turn_showing start outer _ outer_inside]
        simp [inside_iff, next.1, next.2]

theorem take_stopped (wheels : List Wheel) : ∀ count, take count ⟨wheels, none⟩ = []
  | 0 => rfl
  | _ + 1 => rfl

/-- From any number on, the positions of the numbers that follow come in turn. -/
theorem take_showing (wheels : List Wheel) (start count : Nat) {turns : Nat}
    (inside : turns < capacity wheels) :
    take count ⟨showing wheels turns, some (start + displacement wheels turns)⟩ =
      (List.range' turns (min count (capacity wheels - turns))).map
        fun turns => start + displacement wheels turns := by
  induction count generalizing turns with
  | zero => simp [take]
  | succ count ih =>
      simp only [take, next?, turn_showing start wheels turns inside]
      split
      · next more =>
          have length : min (count + 1) (capacity wheels - turns) =
              min count (capacity wheels - (turns + 1)) + 1 := by omega
          rw [ih more, length, List.range'_succ, List.map_cons]
      · next last =>
          have length : min (count + 1) (capacity wheels - turns) = 1 := by omega
          rw [take_stopped, length]
          rfl

@[simp]
theorem displacement_zero (wheels : List Wheel) : displacement wheels 0 = 0 := by
  induction wheels with
  | nil => rfl
  | cons wheel outer ih => simp [displacement, ih]

/-- An odometer whose wheels all show zero shows the number zero. -/
theorem showing_zero {wheels : List Wheel} (zeros : ∀ wheel ∈ wheels, wheel.digit = 0) :
    showing wheels 0 = wheels := by
  induction wheels with
  | nil => rfl
  | cons wheel outer ih =>
      obtain ⟨zero, others⟩ := List.forall_mem_cons.mp zeros
      rw [showing, Nat.zero_div, Nat.zero_mod, ih others, ← zero]

theorem capacity_append (inner outer : List Wheel) :
    capacity (inner ++ outer) = capacity outer * capacity inner := by
  induction inner with
  | nil => simp [capacity]
  | cons wheel inner ih => rw [List.cons_append, capacity, ih, capacity, Nat.mul_assoc]

/-- The outer wheels count how often the inner ones have gone round. -/
theorem displacement_append (inner outer : List Wheel) (turns : Nat) :
    displacement (inner ++ outer) turns =
      displacement inner turns + displacement outer (turns / capacity inner) := by
  induction inner generalizing turns with
  | nil => simp [displacement, capacity]
  | cons wheel inner ih =>
      rw [List.cons_append, displacement, ih, displacement, capacity, Nat.add_assoc,
        Nat.div_div_eq_div_mul, Nat.mul_comm wheel.size]

/-- After all its wheels have gone round an odometer starts anew. -/
theorem displacement_mod : ∀ (wheels : List Wheel) (turns : Nat),
    displacement wheels (turns % capacity wheels) = displacement wheels turns
  | [], _ => rfl
  | wheel :: outer, turns => by
      rw [displacement, displacement, capacity, Nat.mod_mul_left_mod, Nat.mod_mul_left_div_self,
        displacement_mod outer]

/-- Wheels that differ in the size of the outermost one only move alike while the smaller runs. -/
theorem displacement_resized (inner : List Wheel) (wheel : Wheel) {size turns : Nat}
    (smaller : size ≤ wheel.size) (inside : turns < size * capacity inner) :
    displacement (inner ++ [{ wheel with size := size }]) turns =
      displacement (inner ++ [wheel]) turns := by
  have digit : turns / capacity inner < size :=
    (Nat.div_lt_iff_lt_mul (Nat.pos_of_mul_pos_left (Nat.zero_lt_of_lt inside))).mpr inside
  rw [displacement_append, displacement_append]
  simp only [displacement, Nat.mod_eq_of_lt digit,
    Nat.mod_eq_of_lt (Nat.lt_of_lt_of_le digit smaller)]

end Odometer

namespace Layout

open Odometer

/-- The wheels for some dimensions, the innermost first. -/
def wheels (dims strides : List Nat) : List Wheel :=
  ((dims.zip strides).map fun (size, stride) => ⟨size, stride, 0⟩).reverse

theorem wheels_cons (size stride : Nat) (dims strides : List Nat) :
    wheels (size :: dims) (stride :: strides) = wheels dims strides ++ [⟨size, stride, 0⟩] := by
  simp [wheels]

theorem showing_wheels (dims strides : List Nat) :
    showing (wheels dims strides) 0 = wheels dims strides :=
  showing_zero fun wheel there => by
    simp only [wheels, List.mem_reverse, List.mem_map] at there
    obtain ⟨_, -, rfl⟩ := there
    rfl

/-- With a stride for every dimension the wheels run through all elements. -/
theorem capacity_wheels : ∀ {dims strides : List Nat}, dims.length ≤ strides.length →
    capacity (wheels dims strides) = dims.foldr (· * ·) 1
  | [], _, _ => by simp [wheels, capacity]
  | size :: dims, stride :: strides, enough => by
      rw [wheels_cons, capacity_append, capacity_wheels (Nat.le_of_succ_le_succ enough)]
      simp [capacity]

/-- The wheel of the outermost dimension counts how often those of the inner ones have gone round. -/
theorem displacement_wheels_cons {size stride : Nat} {dims strides : List Nat}
    (same : strides.length = dims.length) (number : Nat) :
    displacement (wheels (size :: dims) (stride :: strides)) number =
      displacement (wheels dims strides) number +
        number / dims.foldr (· * ·) 1 % size * stride := by
  rw [wheels_cons, displacement_append, capacity_wheels (Nat.le_of_eq same.symm)]
  rfl

/-- The odometer of a layout starts with its wheels at zero, if there is an element. -/
theorem odometer_eq {layout : Layout} (some_element : layout.elementCount ≠ 0) :
    layout.odometer = ⟨showing (wheels layout.shape.dims layout.strides) 0, some layout.offset⟩ := by
  rw [showing_wheels, odometer, if_neg some_element]
  rfl

/-- The first positions of a layout, each from its number. There are no more than there are
elements. -/
theorem firstPositions_eq {layout : Layout} (enough : ¬ layout.lacksStrides) (count : Nat) :
    layout.firstPositions count =
      .ok ((List.range (min count layout.elementCount)).map fun number =>
        layout.offset + displacement (wheels layout.shape.dims layout.strides) number) := by
  rw [firstPositions, if_neg enough]
  by_cases none : layout.elementCount = 0
  · rw [none, Nat.min_zero, List.range_zero, List.map_nil, odometer, if_pos none, take_stopped]
  · have enough : layout.rank ≤ layout.strides.length :=
      Nat.le_of_not_lt fun lacks => enough ⟨none, lacks⟩
    have all : capacity (wheels layout.shape.dims layout.strides) = layout.elementCount :=
      capacity_wheels enough
    have taken := take_showing (wheels layout.shape.dims layout.strides) layout.offset count
      (all ▸ Nat.pos_of_ne_zero none)
    rw [displacement_zero, Nat.add_zero] at taken
    rw [odometer_eq none, taken, all, List.range_eq_range', Nat.sub_zero]

/-- The positions of a layout, each from its number. -/
theorem positions_eq {layout : Layout} (enough : ¬ layout.lacksStrides) :
    layout.positions = .ok ((List.range layout.elementCount).map fun number =>
      layout.offset + displacement (wheels layout.shape.dims layout.strides) number) := by
  rw [positions, firstPositions_eq enough, Nat.min_self]

/-- However many positions are asked for, they are the first of all. -/
theorem firstPositions_of_positions {layout : Layout} {positions : List Nat}
    (placed : layout.positions = .ok positions) (count : Nat) :
    layout.firstPositions count = .ok (positions.take count) := by
  have enough : ¬ layout.lacksStrides := fun lacks => by
    rw [Layout.positions, firstPositions, if_pos lacks] at placed
    cases placed
  rw [positions_eq enough] at placed
  obtain rfl := Except.ok.inj placed
  rw [firstPositions_eq enough, ← List.map_take, List.take_range]

/-- The first entries of the outermost dimension come first. -/
theorem positions_leading {layout : Layout} {size count : Nat} {rest : List Nat}
    (dims : layout.shape.dims = size :: rest) (divides : size % count = 0) {positions : List Nat}
    (succeeded : layout.positions = .ok positions) :
    { layout with shape := layout.shape.resize 0 (size / count) }.positions =
      .ok (positions.take (positions.length / count)) := by
  have dims' : (layout.shape.resize 0 (size / count)).dims = size / count :: rest := by
    rw [Shape.resize, dims]
    rfl
  generalize inner : rest.foldr (· * ·) 1 = step
  have all : layout.elementCount = size * step := by
    rw [elementCount, Shape.elementCount, dims, ← inner]
    rfl
  have fewer : size / count * step ≤ size * step :=
    Nat.mul_le_mul_right _ (Nat.div_le_self size count)
  have enough : ¬ layout.lacksStrides := fun lacks => by
    rw [Layout.positions, firstPositions, if_pos lacks] at succeeded
    cases succeeded
  have strides (some_element : layout.elementCount ≠ 0) :
      rest.length + 1 ≤ layout.strides.length := by
    have ranked := Nat.le_of_not_lt fun lacks => enough ⟨some_element, lacks⟩
    rwa [rank, Shape.rank, dims, List.length_cons] at ranked
  have part : { layout with shape := layout.shape.resize 0 (size / count) }.elementCount =
      size / count * step := by
    rw [elementCount, Shape.elementCount, dims', ← inner]
    rfl
  rw [positions_eq enough] at succeeded
  obtain rfl := Except.ok.inj succeeded
  rw [positions_eq, part, List.length_map, List.length_range, all,
    ← Nat.div_mul_right_comm (Nat.dvd_of_mod_eq_zero divides), ← List.map_take,
    List.take_range, Nat.min_eq_left fewer]
  · refine congrArg Except.ok (List.map_congr_left fun number there => ?_)
    have inside : number < size / count * step := List.mem_range.mp there
    have enough := strides (by omega)
    rw [dims, dims']
    cases same : layout.strides with
    | nil => rfl
    | cons stride others =>
        rw [same] at enough
        rw [wheels_cons, wheels_cons]
        refine congrArg _ (displacement_resized _ ⟨size, stride, 0⟩ (Nat.div_le_self size count) ?_)
        rwa [capacity_wheels (Nat.le_of_succ_le_succ enough), inner]
  · rintro ⟨some_element, lacks⟩
    have enough := strides (by omega)
    rw [rank, Shape.rank, dims', List.length_cons] at lacks
    exact absurd lacks (Nat.not_lt.mpr enough)

end Layout

end Offload
