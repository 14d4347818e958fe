/-
# Layouts without overlap

A layout has no overlap when no two of its elements have one position. Numbers of elements are not
what views keep: exchanging dimensions numbers the same positions anew, and a slice leaves numbers
out. So the positions are spread out by dimension, outermost first, as a list that follows from the
sizes and strides in pairs. Exchanging dimensions only puts the pairs in another order, which gives
the same positions in another order; a slice gives, up to where it starts, some of the positions.
Nothing is said about the strides themselves, whose order of size is lost with the first exchange.
-/

import Mathlib.Data.Multiset.Bind
import Offload.Proofs.Layout.Contiguity

namespace Offload

/-- The numbers below a product, by quotient and remainder. -/
theorem range_mul (count size : Nat) :
    List.range (count * size) =
      (List.range count).flatMap fun major => (List.range size).map (major * size + ·) := by
  induction count with
  | zero => rw [Nat.zero_mul, List.range_zero, List.flatMap_nil]
  | succ count ih =>
      rw [Nat.succ_mul, List.range_add, ih, List.range_succ, List.flatMap_append,
        List.flatMap_singleton]

/-- A number has the quotient that it was made with. -/
theorem quotient_of_lt {major minor size : Nat} (inside : minor < size) :
    (major * size + minor) / size = major := by
  rw [Nat.add_comm, Nat.add_mul_div_right _ _ (Nat.zero_lt_of_lt inside), Nat.div_eq_of_lt inside,
    Nat.zero_add]

namespace Layout

open Odometer

/-- The positions of a block from its start, by the size and the stride of each dimension. -/
def spread : List (Nat × Nat) → List Nat
  | [] => [0]
  | (size, stride) :: inner =>
      (List.range size).flatMap fun digit => (spread inner).map (digit * stride + ·)

/-- What the wheels run through is the block spread out. -/
theorem map_displacement : ∀ {dims strides : List Nat}, strides.length = dims.length →
    (List.range (dims.foldr (· * ·) 1)).map (displacement (wheels dims strides)) =
      spread (dims.zip strides)
  | [], _, _ => rfl
  | size :: dims, stride :: strides, same => by
      have same : strides.length = dims.length := Nat.succ.inj same
      have all := capacity_wheels (Nat.le_of_eq same.symm)
      rw [List.foldr_cons, range_mul, List.map_flatMap, List.zip_cons_cons, spread,
        ← map_displacement same]
      refine List.flatMap_congr fun major there => ?_
      rw [List.map_map, List.map_map]
      refine List.map_congr_left fun minor there' => ?_
      have digit : major < size := List.mem_range.mp there
      have inside : minor < dims.foldr (· * ·) 1 := List.mem_range.mp there'
      rw [Function.comp_apply, Function.comp_apply, displacement_wheels_cons same,
        quotient_of_lt inside, Nat.mod_eq_of_lt digit, ← displacement_mod, all, Nat.mul_add_mod', Nat.mod_eq_of_lt inside]
      exact Nat.add_comm _ _

variable {layout : Layout}

/-- The positions of a layout are its block spread out from where it starts. -/
theorem positions_eq_spread (strides : layout.strides.length = layout.rank) :
    layout.positions =
      .ok ((spread (layout.shape.dims.zip layout.strides)).map (layout.offset + ·)) := by
  rw [positions_eq (not_lacksStrides strides), ← map_displacement strides, List.map_map]
  rfl

/-- No two elements have one position. -/
def Distinct (layout : Layout) : Prop :=
  ∀ positions, layout.positions = .ok positions → positions.Nodup

/-- Where a layout starts makes no difference. -/
theorem distinct_iff (strides : layout.strides.length = layout.rank) :
    layout.Distinct ↔ (spread (layout.shape.dims.zip layout.strides)).Nodup := by
  rw [Distinct, positions_eq_spread strides]
  constructor
  · intro distinct
    exact (distinct _ rfl).of_map _
  · rintro nodup _ ⟨⟩
    exact nodup.map fun first second same => Nat.add_left_cancel same

/-- Elements written row by row do not overlap. -/
theorem distinct_rowMajor (shape : Shape) : (rowMajor shape).Distinct := by
  intro positions placed
  rw [positions_rowMajor] at placed
  obtain rfl := Except.ok.inj placed
  exact List.nodup_range

/-! ## Exchanged dimensions -/

/-- Two nested runs may be exchanged. -/
theorem flatMap_perm {α β γ : Type} (first : List α) (second : List β) (value : α → β → List γ) :
    (first.flatMap fun a => second.flatMap fun b => value a b).Perm
      (second.flatMap fun b => first.flatMap fun a => value a b) := by
  rw [← Multiset.coe_eq_coe]
  simp only [← Multiset.coe_bind]
  exact Multiset.bind_bind _ _

/-- The order of the dimensions makes no difference to which positions there are. -/
theorem spread_perm {entries others : List (Nat × Nat)} (perm : entries.Perm others) :
    (spread entries).Perm (spread others) := by
  induction perm with
  | nil => exact .refl _
  | cons entry _ ih => exact List.Perm.flatMap_left _ fun digit _ => ih.map _
  | swap entry entry' inner =>
      simp only [spread, List.map_flatMap, List.map_map]
      refine (flatMap_perm _ _ _).trans (.of_eq ?_)
      refine List.flatMap_congr fun digit _ => List.flatMap_congr fun digit' _ => ?_
      exact List.map_congr_left fun position _ => Nat.add_left_comm _ _ _
  | trans _ _ ih ih' => exact ih.trans ih'

/-- Exchanging dimensions makes no overlap. -/
theorem Distinct.transpose (strides : layout.strides.length = layout.rank)
    (distinct : layout.Distinct) {first second : Nat} {transposed : Layout}
    (made : layout.transpose first second = .ok transposed) : transposed.Distinct := by
  obtain ⟨there, there', -, -, rfl⟩ := transpose_eq_ok_iff.mp made
  rw [distinct_iff strides] at distinct
  rw [distinct_iff (by simpa [rank] using strides)]
  exact (spread_perm (zip_exchanged strides there there')).nodup_iff.mpr distinct

/-! ## Slices -/

/-- The numbers of a part are among those of the whole. -/
theorem range'_sublist_range {start length size : Nat} (part : start + length ≤ size) :
    (List.range' start length).Sublist (List.range size) := by
  obtain ⟨rest, rfl⟩ := Nat.exists_eq_add_of_le part
  rw [List.range_eq_range', Nat.add_assoc, ← List.range'_append, Nat.zero_add, Nat.one_mul,
    ← List.range'_append]
  exact (List.sublist_append_left _ _).trans (List.sublist_append_right _ _)

/-- Moved to where it starts, a slice gives some of the positions, in their order. -/
theorem spread_slice {start length size stride : Nat} (part : start + length ≤ size) :
    ∀ {entries : List (Nat × Nat)} {dimension : Nat}, entries[dimension]? = some (size, stride) →
      ((spread (entries.set dimension (length, stride))).map (start * stride + ·)).Sublist
        (spread entries)
  | _ :: inner, 0, there => by
      obtain rfl := Option.some.inj there
      have moved : ((spread ((length, stride) :: inner)).map (start * stride + ·)) =
          (List.range' start length).flatMap fun digit =>
            (spread inner).map (digit * stride + ·) := by
        rw [spread, List.map_flatMap, List.range'_eq_map_range, List.flatMap_map]
        refine List.flatMap_congr fun digit _ => ?_
        rw [List.map_map]
        exact List.map_congr_left fun position _ => by simp [Nat.add_mul, Nat.add_assoc]
      rw [List.set_cons_zero, moved, spread]
      exact (range'_sublist_range part).flatMap _
  | (outer, step) :: inner, dimension + 1, there => by
      have rest := @spread_slice start length size stride part inner dimension there
      rw [List.set_cons_succ, spread, spread, List.map_flatMap]
      refine List.Sublist.flatMap_right _ fun digit _ => ?_
      have moved : ((spread (inner.set dimension (length, stride))).map (digit * step + ·)).map
            (start * stride + ·) =
          ((spread (inner.set dimension (length, stride))).map (start * stride + ·)).map
            (digit * step + ·) := by
        rw [List.map_map, List.map_map]
        exact List.map_congr_left fun position _ => Nat.add_left_comm _ _ _
      rw [moved]
      exact rest.map _

/-- The pairs of two lists in the first of which an entry is replaced. -/
theorem zip_set : ∀ {dims strides : List Nat} {dimension stride : Nat} (size : Nat),
    strides[dimension]? = some stride →
      (dims.set dimension size).zip strides = (dims.zip strides).set dimension (size, stride)
  | [], _, _, _, _, _ => rfl
  | _ :: _, _ :: _, 0, _, _, there => by
      obtain rfl := Option.some.inj there
      rfl
  | first :: dims, step :: strides, dimension + 1, stride, size, there => by
      have rest := @zip_set dims strides dimension stride size there
      rw [List.set_cons_succ, List.zip_cons_cons, List.zip_cons_cons, List.set_cons_succ, rest]

/-- A slice makes no overlap. -/
theorem Distinct.narrow (strides : layout.strides.length = layout.rank)
    (distinct : layout.Distinct) {dimension start length : Nat} {narrowed : Layout}
    (made : layout.narrow dimension start length = .ok narrowed) : narrowed.Distinct := by
  obtain ⟨size, stride, there, part, there', rfl⟩ := narrow_eq_ok_iff.mp made
  have entry : (layout.shape.dims.zip layout.strides)[dimension]? = some (size, stride) :=
    List.getElem?_zip_eq_some.mpr ⟨there, there'⟩
  rw [distinct_iff strides] at distinct
  rw [distinct_iff (by simpa [rank] using strides)]
  dsimp only [Shape.resize]
  rw [zip_set length there']
  exact (distinct.sublist (spread_slice part entry)).of_map _

/-- A view makes no overlap. -/
theorem Distinct.step (strides : layout.strides.length = layout.rank) (distinct : layout.Distinct)
    {step : ViewStep} {viewed : Layout} (made : layout.step step = .ok viewed) :
    viewed.Distinct := by
  cases step with
  | narrow dimension start length => exact distinct.narrow strides made
  | transpose first second => exact distinct.transpose strides made

end Layout

end Offload
