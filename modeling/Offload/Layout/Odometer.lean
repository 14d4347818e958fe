/-
# Odometers

An odometer runs through the cells of a strided block in row-major order. It has one wheel for
each dimension and keeps the position of the current cell as it turns: a step of a wheel adds
its stride, and a wheel that has gone round takes back what its steps added and moves the next
wheel outwards. When the outermost wheel goes round the odometer stops. Cells can be read while
it turns, so that a block of any size costs no more than the cells before its first bad one.
-/

namespace Offload

/-- One wheel: how many digits it has, how far one step moves, and the digit it shows. -/
structure Wheel where
  size : Nat
  stride : Nat
  digit : Nat
  deriving DecidableEq, Repr

/-- The wheels, innermost first, and the position they stand for; none once it has stopped. -/
structure Odometer where
  wheels : List Wheel
  position : Option Nat
  deriving DecidableEq, Repr

namespace Odometer

/-- Turn the innermost wheel by one and carry outwards. -/
def turn : List Wheel → Nat → List Wheel × Option Nat
  | [], _ => ([], none)
  | wheel :: outer, position =>
      let digit := wheel.digit + 1
      let moved := position + wheel.stride
      if digit < wheel.size then ({ wheel with digit := digit } :: outer, some moved)
      else
        let (carried, reached) := turn outer (moved - wheel.stride * digit)
        ({ wheel with digit := 0 } :: carried, reached)

/-- The current position and the odometer after it; none once it has stopped. -/
def next? (odometer : Odometer) : Option (Nat × Odometer) :=
  match odometer.position with
  | none => none
  | some position =>
      let (wheels, reached) := turn odometer.wheels position
      some (position, ⟨wheels, reached⟩)

/-- At most `count` positions from the current one on. -/
def take : Nat → Odometer → List Nat
  | 0, _ => []
  | count + 1, odometer =>
      match odometer.next? with
      | none => []
      | some (position, rest) => position :: take count rest

variable {ε α : Type}

/-- Read at most `count` positions from the current one on. What they give is put in front of
`found`, so that the last comes first. -/
def collectOnto (read : Nat → Except ε α) : Nat → Odometer → List α → Except ε (List α)
  | 0, _, found => .ok found.reverse
  | count + 1, odometer, found =>
      match odometer.next? with
      | none => .ok found.reverse
      | some (position, rest) =>
          match read position with
          | .error cause => .error cause
          | .ok value => collectOnto read count rest (value :: found)

/-- What at most `count` positions from the current one on give. The odometer stops at the first
position that cannot be read and never turns past it. -/
def collect (read : Nat → Except ε α) (count : Nat) (odometer : Odometer) : Except ε (List α) :=
  odometer.collectOnto read count []

theorem collectOnto_eq (read : Nat → Except ε α) (count : Nat) (odometer : Odometer)
    (found : List α) :
    odometer.collectOnto read count found =
      ((odometer.take count).mapM read).map (found.reverse ++ ·) := by
  induction count generalizing odometer found with
  | zero => simp [collectOnto, take, Except.map, pure, Except.pure]
  | succ count ih =>
      rw [collectOnto, take]
      cases odometer.next? with
      | none => simp [Except.map, pure, Except.pure]
      | some step =>
          obtain ⟨position, rest⟩ := step
          simp only [List.mapM_cons]
          cases read position with
          | error cause => rfl
          | ok value =>
              simp only [ih, List.reverse_cons, List.append_assoc]
              cases (rest.take count).mapM read <;> rfl

/-- Reading on the way gives what reading all positions afterwards would give. -/
theorem collect_eq (read : Nat → Except ε α) (count : Nat) (odometer : Odometer) :
    odometer.collect read count = (odometer.take count).mapM read := by
  rw [collect, collectOnto_eq]
  cases (odometer.take count).mapM read <;> rfl

end Odometer

end Offload
