/-
# Indices

An element is known by its index, one digit for each dimension. The indices of a shape rise
lexicographically in row-major order, and none is left out. The position of an index is where the
layout starts, moved by each digit times the stride of its dimension; what an odometer runs through
are the positions of all indices in this order. Slicing and exchanging dimensions keep the position
of an element and give it another index: a slice takes away where it starts, an exchange of
dimensions exchanges digits.
-/

import Mathlib.Logic.Equiv.Basic
import Offload.Proofs.Layout.Distinct

namespace Offload

namespace Shape

/-- The list of digits is an index of the shape: it has one digit for each dimension, and the digit
is below the size. -/
def Holds (shape : Shape) (index : List Nat) : Prop := List.Forall₂ (· < ·) index shape.dims

/-- The indices for some sizes. The last digit turns first. -/
def indicesOf : List Nat → List (List Nat)
  | [] => [[]]
  | size :: inner =>
      (List.range size).flatMap fun digit => (indicesOf inner).map (digit :: ·)

/-- The indices of a shape in row-major order. -/
def indices (shape : Shape) : List (List Nat) := indicesOf shape.dims

/-- Every index is there. -/
theorem mem_indices_iff {shape : Shape} {index : List Nat} :
    index ∈ shape.indices ↔ shape.Holds index := by
  have goes : ∀ (dims : List Nat) (index : List Nat),
      index ∈ indicesOf dims ↔ List.Forall₂ (· < ·) index dims := by
    intro dims
    induction dims with
    | nil => simp [indicesOf]
    | cons size inner ih =>
        intro index
        simp only [indicesOf, List.mem_flatMap, List.mem_map, List.mem_range, ih]
        constructor
        · rintro ⟨digit, inside, digits, others, rfl⟩
          exact .cons inside others
        · rintro (_ | ⟨inside, others⟩)
          exact ⟨_, inside, _, others, rfl⟩
  exact goes shape.dims index

/-- The indices rise from each to the next. -/
theorem indices_pairwise (shape : Shape) : shape.indices.Pairwise (· < ·) := by
  have goes : ∀ dims : List Nat, (indicesOf dims).Pairwise (· < ·) := by
    intro dims
    induction dims with
    | nil => exact List.pairwise_singleton _ _
    | cons size inner ih =>
        rw [indicesOf, List.pairwise_flatMap]
        constructor
        · intro digit _
          exact List.pairwise_map.mpr (ih.imp fun later => List.Lex.cons later)
        · refine List.pairwise_lt_range.imp fun less => ?_
          rintro _ there _ there'
          obtain ⟨digits, -, rfl⟩ := List.mem_map.mp there
          obtain ⟨digits', -, rfl⟩ := List.mem_map.mp there'
          exact List.Lex.rel less
  exact goes shape.dims

/-- The list goes through the indices of a shape in row-major order: they rise lexicographically,
and none is left out. -/
structure RowMajor (shape : Shape) (indices : List (List Nat)) : Prop where
  rising : indices.Pairwise (· < ·)
  complete : ∀ index, index ∈ indices ↔ shape.Holds index

theorem rowMajor_indices (shape : Shape) : shape.RowMajor shape.indices :=
  ⟨shape.indices_pairwise, fun _ => mem_indices_iff⟩

end Shape

namespace Layout

/-- How far the digits of an index lead. -/
def distance (index strides : List Nat) : Nat :=
  ((index.zip strides).map fun entry => entry.1 * entry.2).sum

/-- The position of an index. -/
def place (layout : Layout) (index : List Nat) : Nat :=
  layout.offset + distance index layout.strides

variable {layout : Layout}

/-- A block spread out has the distances of its indices. -/
theorem spread_eq_map_distance : ∀ {dims strides : List Nat}, strides.length = dims.length →
    spread (dims.zip strides) = (Shape.indicesOf dims).map (distance · strides)
  | [], _, _ => rfl
  | size :: inner, stride :: strides, same => by
      have same : strides.length = inner.length := Nat.succ.inj same
      rw [List.zip_cons_cons, spread, Shape.indicesOf, List.map_flatMap, spread_eq_map_distance same]
      refine List.flatMap_congr fun digit _ => ?_
      rw [List.map_map, List.map_map]
      rfl

/-- The positions of a layout are those of its indices in row-major order. -/
theorem positions_eq_map_place (strides : layout.strides.length = layout.rank) :
    layout.positions = .ok (layout.shape.indices.map layout.place) := by
  rw [positions_eq_spread strides, spread_eq_map_distance strides, List.map_map]
  rfl

end Layout

/-! ## Slices -/

namespace Shape

/-- An index of a slice, moved by where the slice starts, is an index of the whole. -/
theorem forall₂_modify {start length size : Nat} (part : start + length ≤ size) :
    ∀ {dims index : List Nat} {dimension : Nat}, dims[dimension]? = some size →
      List.Forall₂ (· < ·) index (dims.set dimension length) →
        List.Forall₂ (· < ·) (index.modify dimension (start + ·)) dims
  | _ :: _, _, 0, there, .cons inside others => by
      obtain rfl := Option.some.inj there
      exact .cons (Nat.lt_of_lt_of_le (Nat.add_lt_add_left inside start) part) others
  | _ :: _, _, _ + 1, there, .cons inside others =>
      .cons inside (forall₂_modify part there others)

end Shape

namespace Layout

/-- Moving one digit leads further by as many strides of its dimension. -/
theorem distance_modify (start : Nat) : ∀ {index strides : List Nat} {dimension stride : Nat},
    dimension < index.length → strides[dimension]? = some stride →
      distance (index.modify dimension (start + ·)) strides =
        start * stride + distance index strides
  | digit :: digits, step :: strides, 0, _, _, there => by
      obtain rfl := Option.some.inj there
      simp [distance, Nat.add_mul, Nat.add_assoc]
  | digit :: digits, step :: strides, dimension + 1, stride, inside, there => by
      have rest := distance_modify start (Nat.lt_of_succ_lt_succ inside) there
      simp only [distance, List.modify_succ_cons, List.zip_cons_cons, List.map_cons,
        List.sum_cons] at rest ⊢
      rw [rest, Nat.add_left_comm]

end Layout

/-! ## Exchanged dimensions -/

namespace Shape

/-- An exchanged list has at each place what was at the place that is exchanged with it. -/
theorem getElem?_exchanged {entries : List Nat} {first second : Nat}
    (inside : first < entries.length) (inside' : second < entries.length) (place : Nat) :
    (exchanged entries first second)[place]? = entries[Equiv.swap first second place]? := by
  rw [exchanged, List.getElem?_set, List.getElem?_set, Equiv.swap_apply_def]
  grind

/-- Exchanging the same entries again undoes it. -/
theorem exchanged_exchanged {entries : List Nat} {first second : Nat}
    (inside : first < entries.length) (inside' : second < entries.length) :
    exchanged (exchanged entries first second) first second = entries := by
  refine List.ext_getElem? fun place => ?_
  rw [getElem?_exchanged (by simpa) (by simpa), getElem?_exchanged inside inside',
    Equiv.swap_apply_self]

/-- An entry that is replaced and then exchanged is the other one, replaced after the exchange. -/
theorem exchanged_set {entries : List Nat} {first second : Nat} (inside : first < entries.length)
    (inside' : second < entries.length) {entry : Nat} :
    exchanged (entries.set first entry) first second =
      (exchanged entries first second).set second entry := by
  refine List.ext_getElem? fun place => ?_
  rw [getElem?_exchanged (by simpa) (by simpa), List.getElem?_set, List.getElem?_set,
    getElem?_exchanged inside inside', length_exchanged, Equiv.swap_apply_def]
  grind

/-- Exchanging digits makes an index of a shape with exchanged dimensions one of the shape. -/
theorem forall₂_exchanged {index dims : List Nat} {first second : Nat}
    (inside : first < dims.length) (inside' : second < dims.length)
    (holds : List.Forall₂ (· < ·) index (exchanged dims first second)) :
    List.Forall₂ (· < ·) (exchanged index first second) dims := by
  have same : index.length = dims.length := by simpa using holds.length_eq
  refine List.forall₂_iff_get.mpr ⟨by simpa using same, fun place within within' => ?_⟩
  have digit := getElem?_exchanged (same ▸ inside) (same ▸ inside') place
  have size := getElem?_exchanged inside inside' (Equiv.swap first second place)
  rw [List.getElem?_eq_getElem within, eq_comm] at digit
  rw [Equiv.swap_apply_self, List.getElem?_eq_getElem within'] at size
  obtain ⟨known, digit⟩ := List.getElem?_eq_some_iff.mp digit
  obtain ⟨known', size⟩ := List.getElem?_eq_some_iff.mp size
  rw [List.get_eq_getElem, List.get_eq_getElem, ← digit, ← size]
  exact holds.get known known'

end Shape

namespace Layout

/-- Exchanging digits and strides alike leads as far. -/
theorem distance_exchanged {index strides : List Nat} (same : strides.length = index.length)
    {first second : Nat} (inside : first < index.length) (inside' : second < index.length) :
    distance (Shape.exchanged index first second) strides =
      distance index (Shape.exchanged strides first second) := by
  have strided : first < strides.length := same ▸ inside
  have strided' : second < strides.length := same ▸ inside'
  have both : ((Shape.exchanged index first second).zip
      (Shape.exchanged (Shape.exchanged strides first second) first second)).Perm
        (index.zip (Shape.exchanged strides first second)) :=
    zip_exchanged (by simpa using same) inside inside'
  rw [Shape.exchanged_exchanged strided strided'] at both
  exact (both.map _).sum_eq

end Layout

end Offload
