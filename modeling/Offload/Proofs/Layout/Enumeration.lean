/-
# The run of an odometer

An odometer is asked for one position after the other. What a call gives follows from the number of
the call: read as an index, one digit for each dimension in row-major order, the number has its
place in the layout. So the odometer goes through the indices of the shape, all of them and in
order, and stops after the last one. It never counts anew: it adds the stride of each wheel that
steps and takes back what the steps of a wheel that has gone round added. What is taken back is part
of the position it is taken from, whatever the strides are and wherever the layout starts.
-/

import Offload.Proofs.Layout.Indices

namespace Offload

namespace Odometer

/-- The odometer after one call. Once it has stopped it stays as it is. -/
def advance (odometer : Odometer) : Odometer :=
  match odometer.next? with
  | none => odometer
  | some (_, rest) => rest

/-- The odometer after some calls. -/
def after (odometer : Odometer) : Nat → Odometer
  | 0 => odometer
  | calls + 1 => (odometer.after calls).advance

/-- What a call gives that comes after some others. -/
def item? (odometer : Odometer) (calls : Nat) : Option Nat :=
  (odometer.after calls).next?.map Prod.fst

/-- What a wheel takes back, and the position that it is taken from. -/
structure Subtraction where
  held : Nat
  taken : Nat
  deriving DecidableEq, Repr

/-- The subtractions of one turn, one for each wheel that goes round. -/
def subtractionsOf : List Wheel → Nat → List Subtraction
  | [], _ => []
  | wheel :: outer, position =>
      let digit := wheel.digit + 1
      let moved := position + wheel.stride
      if digit < wheel.size then []
      else
        ⟨moved, wheel.stride * digit⟩ :: subtractionsOf outer (moved - wheel.stride * digit)

/-- The subtractions of the next call; none once the odometer has stopped. -/
def subtractions (odometer : Odometer) : List Subtraction :=
  match odometer.position with
  | none => []
  | some position => subtractionsOf odometer.wheels position

theorem item?_eq_position (odometer : Odometer) (calls : Nat) :
    odometer.item? calls = (odometer.after calls).position := by
  rw [item?, next?]
  cases (odometer.after calls).position with
  | none => rfl
  | some position => rfl

theorem after_stopped {odometer : Odometer} (stopped : odometer.position = none) (calls : Nat) :
    odometer.after calls = odometer := by
  induction calls with
  | zero => rfl
  | succ calls ih =>
      rw [after, ih, advance, next?, stopped]

variable {wheels : List Wheel} {start calls : Nat}

/-- One call makes the wheels show the next number, if there is one. -/
theorem advance_showing (inside : calls < capacity wheels) :
    advance ⟨showing wheels calls, some (start + displacement wheels calls)⟩ =
      ⟨showing wheels (calls + 1),
        if calls + 1 < capacity wheels then some (start + displacement wheels (calls + 1))
        else none⟩ := by
  simp only [advance, next?, turn_showing start wheels calls inside]

/-- The wheels show the number of the calls, as long as there are positions left. -/
theorem after_showing (inside : calls < capacity wheels) :
    after ⟨showing wheels 0, some start⟩ calls =
      ⟨showing wheels calls, some (start + displacement wheels calls)⟩ := by
  induction calls with
  | zero => rw [displacement_zero, Nat.add_zero, after]
  | succ calls ih =>
      have before : calls < capacity wheels := Nat.lt_of_succ_lt inside
      rw [after, ih before, advance_showing before, if_pos inside]

/-- When the wheels have gone through all their positions the odometer has stopped for good. -/
theorem after_stops (some_position : 0 < capacity wheels) (through : capacity wheels ≤ calls) :
    after ⟨showing wheels 0, some start⟩ calls = ⟨showing wheels (capacity wheels), none⟩ := by
  induction calls, through using Nat.le_induction with
  | base =>
      obtain ⟨last, same⟩ := Nat.exists_eq_succ_of_ne_zero some_position.ne'
      have inside : last < capacity wheels := by
        rw [same]
        exact Nat.lt_succ_self last
      have through : ¬ last + 1 < capacity wheels := by
        rw [same]
        exact Nat.lt_irrefl _
      rw [same, after, after_showing inside, advance_showing inside, if_neg through]
  | succ calls _ ih =>
      rw [after, ih]
      rfl

/-- No wheel takes back more than it holds. The induction carries outwards: what is left is the
position that the outer wheels alone have made. -/
theorem taken_le_held (start : Nat) : ∀ (wheels : List Wheel) (turns : Nat),
    ∀ subtraction ∈ subtractionsOf (showing wheels turns) (start + displacement wheels turns),
      subtraction.taken ≤ subtraction.held
  | [], _, _, there => nomatch there
  | wheel :: outer, turns, subtraction, there => by
      simp only [showing, subtractionsOf, displacement, held_eq, Nat.add_sub_cancel] at there
      by_cases stays : turns % wheel.size + 1 < wheel.size
      · rw [if_pos stays] at there
        cases there
      · rw [if_neg stays] at there
        cases there with
        | head => exact Nat.le_add_left _ _
        | tail _ there => exact taken_le_held start outer _ subtraction there

end Odometer

/-! ## Numbers as indices -/

namespace Shape

/-- The digits of a number in row-major order: for each dimension how often the elements inside of
one of its entries have been gone through, and after all entries anew. -/
def digitsOf (dims : List Nat) (number : Nat) : List Nat :=
  (dims.zip (rowMajorStridesOf dims)).map fun (size, step) => number / step % size

/-- The index of the element of a number. -/
def digits (shape : Shape) (number : Nat) : List Nat := digitsOf shape.dims number

theorem digitsOf_cons (size : Nat) (inner : List Nat) (number : Nat) :
    digitsOf (size :: inner) number =
      number / inner.foldr (· * ·) 1 % size :: digitsOf inner number := rfl

/-- After all elements the digits come anew. -/
theorem digitsOf_mod (dims : List Nat) (number : Nat) :
    digitsOf dims (number % dims.foldr (· * ·) 1) = digitsOf dims number := by
  induction dims generalizing number with
  | nil => rfl
  | cons size inner ih =>
      rw [digitsOf_cons, digitsOf_cons, List.foldr_cons]
      congr 1
      · rw [Nat.mod_mul_left_div_self, Nat.mod_mod]
      · rw [← ih, Nat.mod_mul_left_mod, ih]

/-- The indices of a shape are the digits of the numbers of its elements. -/
theorem indices_eq_map_digits (shape : Shape) :
    shape.indices = (List.range shape.elementCount).map shape.digits := by
  have goes : ∀ dims : List Nat,
      indicesOf dims = (List.range (dims.foldr (· * ·) 1)).map (digitsOf dims) := by
    intro dims
    induction dims with
    | nil => rfl
    | cons size inner ih =>
        rw [indicesOf, List.foldr_cons, range_mul, List.map_flatMap, ih]
        refine List.flatMap_congr fun major there => ?_
        rw [List.map_map, List.map_map]
        refine List.map_congr_left fun minor there' => ?_
        have digit : major < size := List.mem_range.mp there
        have inside : minor < inner.foldr (· * ·) 1 := List.mem_range.mp there'
        rw [Function.comp_apply, Function.comp_apply, digitsOf_cons, quotient_of_lt inside,
          Nat.mod_eq_of_lt digit, ← digitsOf_mod inner (_ + _), Nat.mul_add_mod', digitsOf_mod]
  exact goes shape.dims

end Shape

namespace Layout

open Odometer

variable {layout : Layout}

/-- How far the turns of the wheels move is how far the digits of their number lead. -/
theorem displacement_eq_distance : ∀ {dims strides : List Nat}, strides.length = dims.length →
    ∀ number, displacement (wheels dims strides) number =
      distance (Shape.digitsOf dims number) strides
  | [], _, _, _ => rfl
  | size :: dims, stride :: strides, same, number => by
      have same : strides.length = dims.length := Nat.succ.inj same
      rw [displacement_wheels_cons same, displacement_eq_distance same, Nat.add_comm]
      rfl

/-- As long as there are elements left the odometer is at the place of the number of the calls; after
that it has stopped. -/
theorem after_eq (strides : layout.strides.length = layout.rank) {calls : Nat} :
    (calls < layout.elementCount ∧
        layout.odometer.after calls = ⟨showing (wheels layout.shape.dims layout.strides) calls,
          some (layout.place (layout.shape.digits calls))⟩) ∨
      (layout.elementCount ≤ calls ∧ (layout.odometer.after calls).position = none) := by
  have all := capacity_eq_elementCount strides
  by_cases empty : layout.elementCount = 0
  · right
    have stopped : layout.odometer.position = none := if_pos empty
    refine ⟨empty ▸ Nat.zero_le calls, ?_⟩
    rw [after_stopped stopped, stopped]
  · rw [odometer_eq empty]
    by_cases inside : calls < layout.elementCount
    · left
      refine ⟨inside, ?_⟩
      rw [after_showing (all ▸ inside), displacement_eq_distance strides]
      rfl
    · right
      have through : layout.elementCount ≤ calls := Nat.le_of_not_lt inside
      refine ⟨through, ?_⟩
      rw [after_stops (all ▸ Nat.pos_of_ne_zero empty) (all ▸ through)]

/-- The odometer goes through the indices of the shape in row-major order: there is a call for each,
which gives its place, and no call after these gives anything, however many positions are asked for.
No call takes more from a position than it has. -/
structure GoesThrough (layout : Layout) : Prop where
  rowMajor : layout.shape.RowMajor ((List.range layout.elementCount).map layout.shape.digits)
  items : ∀ calls, layout.odometer.item? calls =
    if calls < layout.elementCount then some (layout.place (layout.shape.digits calls)) else none
  firstPositions : ∀ count, layout.firstPositions count =
    .ok ((List.range (min count layout.elementCount)).map fun calls =>
      layout.place (layout.shape.digits calls))
  covered : ∀ calls, ∀ subtraction ∈ (layout.odometer.after calls).subtractions,
    subtraction.taken ≤ subtraction.held

/-- Whatever the sizes and strides are and wherever the layout starts, its odometer goes through the
indices of its shape. -/
theorem odometer_goes_through (strides : layout.strides.length = layout.rank) :
    layout.GoesThrough where
  rowMajor := by
    rw [elementCount, ← Shape.indices_eq_map_digits]
    exact layout.shape.rowMajor_indices
  items calls := by
    rw [item?_eq_position]
    rcases after_eq strides with ⟨inside, shows⟩ | ⟨through, stopped⟩
    · rw [if_pos inside, shows]
    · rw [if_neg (Nat.not_lt.mpr through), stopped]
  firstPositions count := by
    rw [firstPositions_eq (not_lacksStrides strides)]
    simp only [displacement_eq_distance strides]
    rfl
  covered calls subtraction there := by
    rcases after_eq strides with ⟨-, shows⟩ | ⟨-, stopped⟩
    · rw [shows, subtractions, place, Shape.digits, ← displacement_eq_distance strides] at there
      exact taken_le_held _ _ _ subtraction there
    · rw [subtractions, stopped] at there
      cases there

/-- Two rows that hold one column of three entries each, with strides in no order. -/
def thinBlock : Layout := ⟨⟨[2, 1, 3]⟩, [5, 4, 7], 0⟩

/-- Between the rows two wheels go round, and each takes back all that it holds. -/
theorem thinBlock_goes_through :
    thinBlock.strides.length = thinBlock.rank ∧
      (List.range 7).map thinBlock.odometer.item? =
        [some 0, some 7, some 14, some 5, some 12, some 19, none] ∧
      (thinBlock.odometer.after 2).subtractions = [⟨21, 21⟩, ⟨4, 4⟩] ∧ thinBlock.GoesThrough :=
  ⟨rfl, rfl, rfl, odometer_goes_through rfl⟩

/-- A scalar has one position, wherever it lies, and a block without elements has none. -/
example : (List.range 2).map (⟨⟨[]⟩, [], 5⟩ : Layout).odometer.item? = [some 5, none] ∧
    (⟨⟨[3, 0]⟩, [1, 1], 5⟩ : Layout).odometer.item? 0 = none := ⟨rfl, rfl⟩

end Layout

end Offload
