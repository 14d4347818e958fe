/-
# Views

A layout that is sliced or in which dimensions are exchanged is found out about by its indices: each
leads to an index of the layout it comes from, with the same position. From this it could be read
off how views of views fit together, but only up to positions; so the laws of one view after the
other are stated of the layouts themselves. Where both orders of two views succeed they end in the
same layout, and if one order succeeds so does the other. Failures are not compared, since each order
reports the first dimension that it cannot have.
-/

import Offload.Proofs.Layout.Indices

namespace Offload

/-- What comes out of two computations in a row comes out of the second. -/
theorem Result.bind_eq_ok_iff {α β : Type} {result : Result α} {next : α → Result β} {value : β} :
    result.bind next = .ok value ↔ ∃ first, result = .ok first ∧ next first = .ok value := by
  cases result with
  | ok first => simp [Except.bind]
  | error cause => simp [Except.bind]

namespace Layout

variable {layout narrowed transposed : Layout}

/-! ## When there is a view -/

/-- A part of a dimension can be had exactly if it lies in the dimension. -/
theorem exists_narrow_iff (strides : layout.strides.length = layout.rank)
    {dimension start length : Nat} :
    (∃ narrowed, layout.narrow dimension start length = .ok narrowed) ↔
      ∃ size, layout.shape.size? dimension = some size ∧ start + length ≤ size := by
  constructor
  · rintro ⟨narrowed, made⟩
    obtain ⟨size, _, there, part, -⟩ := narrow_eq_ok_iff.mp made
    exact ⟨size, there, part⟩
  · rintro ⟨size, there, part⟩
    have inside : dimension < layout.rank := (List.getElem?_eq_some_iff.mp there).1
    exact ⟨_, narrow_eq_ok_iff.mpr
      ⟨size, _, there, part, List.getElem?_eq_getElem (strides ▸ inside), rfl⟩⟩

/-- Dimensions can be exchanged exactly if both are there. -/
theorem exists_transpose_iff (strides : layout.strides.length = layout.rank) {first second : Nat} :
    (∃ transposed, layout.transpose first second = .ok transposed) ↔
      first < layout.rank ∧ second < layout.rank := by
  constructor
  · rintro ⟨transposed, made⟩
    obtain ⟨inside, inside', -⟩ := transpose_eq_ok_iff.mp made
    exact ⟨inside, inside'⟩
  · rintro ⟨inside, inside'⟩
    exact ⟨_, transpose_eq_ok_iff.mpr ⟨inside, inside', strides ▸ inside, strides ▸ inside', rfl⟩⟩

/-! ## Where the elements of a view are -/

/-- The index of a slice, moved by where the slice starts, is an index of the whole. -/
theorem holds_of_narrow {dimension start length : Nat}
    (made : layout.narrow dimension start length = .ok narrowed) {index : List Nat}
    (holds : narrowed.shape.Holds index) :
    layout.shape.Holds (index.modify dimension (start + ·)) := by
  obtain ⟨size, stride, there, part, -, rfl⟩ := narrow_eq_ok_iff.mp made
  exact Shape.forall₂_modify part there holds

/-- Both indices have the same position. -/
theorem place_narrow {dimension start length : Nat}
    (made : layout.narrow dimension start length = .ok narrowed) {index : List Nat}
    (holds : narrowed.shape.Holds index) :
    narrowed.place index = layout.place (index.modify dimension (start + ·)) := by
  have ranked := (holds_of_narrow made holds).length_eq
  obtain ⟨size, stride, there, -, strided, rfl⟩ := narrow_eq_ok_iff.mp made
  have inside : dimension < index.length := by
    rw [List.length_modify] at ranked
    exact ranked ▸ (List.getElem?_eq_some_iff.mp there).1
  rw [place, place, distance_modify start inside strided, Nat.add_assoc]

/-- The index of a layout with exchanged dimensions, its digits exchanged, is one of the layout. -/
theorem holds_of_transpose {first second : Nat}
    (made : layout.transpose first second = .ok transposed) {index : List Nat}
    (holds : transposed.shape.Holds index) :
    layout.shape.Holds (Shape.exchanged index first second) := by
  obtain ⟨inside, inside', -, -, rfl⟩ := transpose_eq_ok_iff.mp made
  exact Shape.forall₂_exchanged inside inside' holds

/-- Both indices have the same position. -/
theorem place_transpose (strides : layout.strides.length = layout.rank) {first second : Nat}
    (made : layout.transpose first second = .ok transposed) {index : List Nat}
    (holds : transposed.shape.Holds index) :
    transposed.place index = layout.place (Shape.exchanged index first second) := by
  have ranked := (holds_of_transpose made holds).length_eq
  obtain ⟨inside, inside', -, -, rfl⟩ := transpose_eq_ok_iff.mp made
  rw [Shape.length_exchanged] at ranked
  rw [place, place, distance_exchanged (strides.trans ranked.symm) (ranked ▸ inside)
    (ranked ▸ inside')]

/-! ## One view after the other -/

/-- Exchanging the same dimensions again leads back. -/
theorem transpose_transpose {first second : Nat}
    (made : layout.transpose first second = .ok transposed) :
    transposed.transpose first second = .ok layout := by
  obtain ⟨inside, inside', strided, strided', rfl⟩ := transpose_eq_ok_iff.mp made
  rw [transpose_eq_ok_iff]
  refine ⟨by simpa [rank] using inside, by simpa [rank] using inside', by simpa, by simpa, ?_⟩
  rw [Shape.exchange, Shape.exchange, Shape.exchanged_exchanged inside inside',
    Shape.exchanged_exchanged strided strided']

/-- A slice of a slice of one dimension starts at the sum of where the two start. -/
theorem narrow_narrow {dimension start length start' length' : Nat}
    (made : layout.narrow dimension start length = .ok narrowed) (part : start' + length' ≤ length) :
    narrowed.narrow dimension start' length' = layout.narrow dimension (start + start') length' := by
  obtain ⟨size, stride, there, whole, strided, rfl⟩ := narrow_eq_ok_iff.mp made
  have inside : dimension < layout.shape.dims.length := (List.getElem?_eq_some_iff.mp there).1
  have nested : layout.narrow dimension (start + start') length' = .ok
      ⟨layout.shape.resize dimension length', layout.strides,
        layout.offset + (start + start') * stride⟩ :=
    narrow_eq_ok_iff.mpr ⟨size, stride, there, by omega, strided, rfl⟩
  rw [nested, narrow_eq_ok_iff]
  refine ⟨length, stride, List.getElem?_set_self inside, part, strided, ?_⟩
  simp only [Shape.resize, List.set_set, Nat.add_mul, Nat.add_assoc]

/-- Slices of different dimensions may be made in any order. -/
theorem narrow_comm {dimension start length dimension' start' length' : Nat}
    (apart : dimension ≠ dimension') (viewed : Layout) :
    (layout.narrow dimension start length).bind (·.narrow dimension' start' length') = .ok viewed ↔
      (layout.narrow dimension' start' length').bind (·.narrow dimension start length) =
        .ok viewed := by
  have goes {dimension start length dimension' start' length' : Nat} (apart : dimension ≠ dimension')
      (made : (layout.narrow dimension start length).bind (·.narrow dimension' start' length') =
        .ok viewed) :
      (layout.narrow dimension' start' length').bind (·.narrow dimension start length) =
        .ok viewed := by
    obtain ⟨_, made, made'⟩ := Result.bind_eq_ok_iff.mp made
    obtain ⟨size, stride, there, part, strided, rfl⟩ := narrow_eq_ok_iff.mp made
    obtain ⟨size', stride', there', part', strided', rfl⟩ := narrow_eq_ok_iff.mp made'
    rw [Shape.resize, List.getElem?_set_ne apart] at there'
    refine Result.bind_eq_ok_iff.mpr
      ⟨_, narrow_eq_ok_iff.mpr ⟨size', stride', there', part', strided', rfl⟩,
        narrow_eq_ok_iff.mpr ⟨size, stride, ?_, part, strided, ?_⟩⟩
    · exact (List.getElem?_set_ne apart.symm).trans there
    · simp only [Shape.resize, mk.injEq, Shape.mk.injEq, true_and]
      exact ⟨List.set_comm _ _ apart, Nat.add_right_comm _ _ _⟩
  exact ⟨goes apart, goes apart.symm⟩

/-- After an exchange of dimensions the second is sliced as the first was before. -/
theorem transpose_narrow {first second start length : Nat} (viewed : Layout) :
    (layout.transpose first second).bind (·.narrow second start length) = .ok viewed ↔
      (layout.narrow first start length).bind (·.transpose first second) = .ok viewed := by
  simp only [Result.bind_eq_ok_iff, narrow_eq_ok_iff, transpose_eq_ok_iff]
  constructor
  · rintro ⟨_, ⟨inside, inside', strided, strided', rfl⟩, size, stride, there, part, step, rfl⟩
    rw [Shape.exchange, Shape.getElem?_exchanged inside inside', Equiv.swap_apply_right] at there
    rw [Shape.getElem?_exchanged strided strided', Equiv.swap_apply_right] at step
    refine ⟨_, ⟨size, stride, there, part, step, rfl⟩, ?_, ?_, strided, strided', ?_⟩
    · simpa [rank] using inside
    · simpa [rank] using inside'
    · simp only [Shape.exchange, Shape.resize, Shape.exchanged_set inside inside']
  · rintro ⟨_, ⟨size, stride, there, part, step, rfl⟩, inside, inside', strided, strided', rfl⟩
    rw [rank, Shape.rank_resize] at inside inside'
    refine ⟨_, ⟨inside, inside', strided, strided', rfl⟩, size, stride, ?_, part, ?_, ?_⟩
    · rwa [Shape.exchange, Shape.getElem?_exchanged inside inside', Equiv.swap_apply_right]
    · rwa [Shape.getElem?_exchanged strided strided', Equiv.swap_apply_right]
    · simp only [Shape.exchange, Shape.resize, Shape.exchanged_set inside inside']

end Layout

end Offload
