/-
# Stores

Numbered cells. Every number names a cell; those that were never put hold the default. A new
cell gets a number that was not given out before.
-/

namespace Offload

/-- Cells by number, and the next number to give out. -/
structure Store (α : Type) where
  next : Nat
  cells : List (Nat × α)
  deriving Inhabited

namespace Store

variable {α : Type}

/-- The store in which every cell holds the default. -/
def empty : Store α := ⟨0, []⟩

/-- The cell of a number in a list, the default if it is not there. -/
def find [Inhabited α] (number : Nat) : List (Nat × α) → α
  | [] => default
  | (other, cell) :: rest => if other = number then cell else find number rest

/-- Put a cell over the one of its number, or at the end. -/
def put (number : Nat) (cell : α) : List (Nat × α) → List (Nat × α)
  | [] => [(number, cell)]
  | (other, old) :: rest =>
      if other = number then (number, cell) :: rest else (other, old) :: put number cell rest

/-- The cell of a number. -/
def get [Inhabited α] (store : Store α) (number : Nat) : α := find number store.cells

/-- Replace the cell of a number. -/
def set (store : Store α) (number : Nat) (cell : α) : Store α :=
  { store with cells := put number cell store.cells }

/-- Change the cell of a number. -/
def update [Inhabited α] (store : Store α) (number : Nat) (change : α → α) : Store α :=
  store.set number (change (store.get number))

/-- Put a cell under a new number. -/
def add (store : Store α) (cell : α) : Nat × Store α :=
  (store.next, { store.set store.next cell with next := store.next + 1 })

variable [Inhabited α]

theorem find_put (number other : Nat) (cell : α) (cells : List (Nat × α)) :
    find other (put number cell cells) = if other = number then cell else find other cells := by
  induction cells with
  | nil => by_cases same : number = other <;> simp [put, find, same, eq_comm]
  | cons first rest ih =>
      by_cases here : first.1 = number
      · by_cases same : number = other
        · simp [put, find, here, same]
        · simp [put, find, here, same, Ne.symm same]
      · by_cases found : first.1 = other
        · have different : other ≠ number := fun same => here (found.trans same)
          simp [put, find, found, different]
        · simp [put, find, here, found, ih]

/-- Replacing one cell changes no other. -/
@[simp]
theorem get_set (store : Store α) (number other : Nat) (cell : α) :
    (store.set number cell).get other = if other = number then cell else store.get other :=
  find_put number other cell store.cells

/-- Changing one cell changes no other. -/
@[simp]
theorem get_update (store : Store α) (number other : Nat) (change : α → α) :
    (store.update number change).get other =
      if other = number then change (store.get number) else store.get other :=
  get_set store number other _

/-- A new cell changes no cell but its own. -/
@[simp]
theorem get_add (store : Store α) (other : Nat) (cell : α) :
    (store.add cell).2.get other = if other = store.next then cell else store.get other :=
  get_set store store.next other cell

end Store

end Offload
