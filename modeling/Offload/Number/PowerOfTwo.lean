/-
# Powers of two

Powers of two that are looked up as long as they are small. Every scale between two binary
formats is one of these, so they are asked for at each cell of a conversion. Main statement:
looking one up gives the power.
-/

namespace Offload

/-- The powers of two of one machine word. -/
def smallPowersOfTwo : Array Nat := Array.ofFn fun exponent : Fin 64 => Nat.pow 2 exponent

/-- Two to a power. -/
def twoPow (exponent : Nat) : Nat :=
  if small : exponent < smallPowersOfTwo.size then smallPowersOfTwo[exponent]
  else Nat.pow 2 exponent

@[simp]
theorem twoPow_eq (exponent : Nat) : twoPow exponent = Nat.pow 2 exponent := by
  rw [twoPow]
  split
  · simp [smallPowersOfTwo]
  · rfl

end Offload
