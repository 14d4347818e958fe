/-
# Frames

The frame of an argument is what every traversal keeps: its containers with their lengths and keys,
and nothing in the place of each leaf. An argument is made of its frame and its leaves: two
arguments are aligned exactly if they have one frame and their leaves, from left to right,
correspond. So what holds of correspondences of lists, that they can be composed and turned round,
holds of aligned arguments.
-/

import Offload.Proofs.Aligned
import Offload.Proofs.Lists

namespace Offload

mutual

/-- The containers of an argument, with nothing in the place of each leaf. -/
def Tree.frame : Tree → Tree
  | .leaf _ => absent
  | .sequence items => .sequence (framesOfItems items)
  | .mapping entries => .mapping (framesOfEntries entries)

/-- The frames of several arguments in a row. -/
def Tree.framesOfItems : List Tree → List Tree
  | [] => []
  | item :: items => frame item :: framesOfItems items

/-- The frames of the entries of a mapping, under the same keys. -/
def Tree.framesOfEntries : List (String × Tree) → List (String × Tree)
  | [] => []
  | (key, item) :: entries => (key, frame item) :: framesOfEntries entries

end

mutual

theorem Tree.length_leaves_frame : ∀ tree : Tree, tree.frame.leaves.length = tree.leaves.length
  | .leaf _ => rfl
  | .sequence items => length_leaves_framesOfItems items
  | .mapping entries => length_leaves_framesOfEntries entries

/-- A frame has a place for every leaf. -/
theorem Tree.length_leaves_framesOfItems : ∀ items : List Tree,
    (leavesOfItems (framesOfItems items)).length = (leavesOfItems items).length
  | [] => rfl
  | item :: items => by
      rw [framesOfItems, leavesOfItems, leavesOfItems, List.length_append, List.length_append,
        length_leaves_frame item, length_leaves_framesOfItems items]

theorem Tree.length_leaves_framesOfEntries : ∀ entries : List (String × Tree),
    (leavesOfEntries (framesOfEntries entries)).length = (leavesOfEntries entries).length
  | [] => rfl
  | (_, item) :: entries => by
      rw [framesOfEntries, leavesOfEntries, leavesOfEntries, List.length_append,
        List.length_append, length_leaves_frame item, length_leaves_framesOfEntries entries]

end

/-- Every argument has a frame. -/
theorem Tree.length_framesOfItems : ∀ items : List Tree,
    (framesOfItems items).length = items.length
  | [] => rfl
  | _ :: items => congrArg Nat.succ (length_framesOfItems items)

/-- Arguments of one frame have the same number of leaves. -/
theorem Tree.length_leaves_of_frame {tree changed : Tree} (same : changed.frame = tree.frame) :
    tree.leaves.length = changed.leaves.length := by
  rw [← length_leaves_frame tree, ← same, length_leaves_frame]

section Aligned

variable {rel : Value → Value → Prop}

mutual

/-- Two arguments are aligned exactly if they have one frame and their leaves correspond. -/
theorem Tree.aligned_iff : ∀ {tree changed : Tree}, tree.Aligned rel changed ↔
    changed.frame = tree.frame ∧ List.Forall₂ rel tree.leaves changed.leaves
  | .leaf _, .leaf _ => by simp [Aligned, frame, leaves]
  | .sequence _, .sequence _ => by
      rw [Aligned, alignedItems_iff, frame, frame, sequence.injEq, leaves, leaves]
  | .mapping _, .mapping _ => by
      rw [Aligned, alignedEntries_iff, frame, frame, mapping.injEq, leaves, leaves]
  | .leaf _, .sequence _ | .leaf _, .mapping _ | .sequence _, .leaf _ | .sequence _, .mapping _
  | .mapping _, .leaf _ | .mapping _, .sequence _ => by simp [Aligned, frame, absent]

theorem Tree.alignedItems_iff : ∀ {items changed : List Tree}, AlignedItems rel items changed ↔
    framesOfItems changed = framesOfItems items ∧
      List.Forall₂ rel (leavesOfItems items) (leavesOfItems changed)
  | [], [] => by simp [AlignedItems, framesOfItems, leavesOfItems]
  | [], _ :: _ | _ :: _, [] => by simp [AlignedItems, framesOfItems]
  | item :: items, first :: others => by
      rw [AlignedItems, aligned_iff, alignedItems_iff, framesOfItems, framesOfItems,
        List.cons.injEq, leavesOfItems, leavesOfItems]
      constructor
      · rintro ⟨⟨frame, leaves⟩, frames, rest⟩
        exact ⟨⟨frame, frames⟩, List.rel_append leaves rest⟩
      · rintro ⟨⟨frame, frames⟩, all⟩
        obtain ⟨leaves, rest⟩ := (forall₂_append_iff (length_leaves_of_frame frame)).mp all
        exact ⟨⟨frame, leaves⟩, frames, rest⟩

theorem Tree.alignedEntries_iff : ∀ {entries changed : List (String × Tree)},
    AlignedEntries rel entries changed ↔
      framesOfEntries changed = framesOfEntries entries ∧
        List.Forall₂ rel (leavesOfEntries entries) (leavesOfEntries changed)
  | [], [] => by simp [AlignedEntries, framesOfEntries, leavesOfEntries]
  | [], (_, _) :: _ | (_, _) :: _, [] => by simp [AlignedEntries, framesOfEntries]
  | (key, item) :: entries, (key', first) :: others => by
      rw [AlignedEntries, aligned_iff, alignedEntries_iff, framesOfEntries, framesOfEntries,
        List.cons.injEq, Prod.mk.injEq, leavesOfEntries, leavesOfEntries]
      constructor
      · rintro ⟨same, ⟨frame, leaves⟩, frames, rest⟩
        exact ⟨⟨⟨same, frame⟩, frames⟩, List.rel_append leaves rest⟩
      · rintro ⟨⟨⟨same, frame⟩, frames⟩, all⟩
        obtain ⟨leaves, rest⟩ := (forall₂_append_iff (length_leaves_of_frame frame)).mp all
        exact ⟨same, ⟨frame, leaves⟩, frames, rest⟩

end

end Aligned

end Offload
