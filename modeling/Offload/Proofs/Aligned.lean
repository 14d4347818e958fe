/-
# Aligned arguments

Two arguments are aligned when they have the same containers with the same keys, and related leaves
in the same places. Alignment follows the relation: it is reflexive if the relation is, weaker for a
weaker one, and equality for equality. Aligned arguments agree in all that is no leaf, in the number of
items and in the keys, and what stands in one place of both is aligned.
-/

import Mathlib.Data.List.Forall2
import Mathlib.Data.Option.Basic
import Offload.Tree

namespace Offload

variable (rel : Value → Value → Prop)

mutual

/-- Two arguments have the same containers with the same keys, and related leaves. -/
def Tree.Aligned : Tree → Tree → Prop
  | .leaf value, .leaf changed => rel value changed
  | .sequence items, .sequence changed => AlignedItems items changed
  | .mapping entries, .mapping changed => AlignedEntries entries changed
  | _, _ => False

/-- The items of two sequences are aligned one by one. -/
def Tree.AlignedItems : List Tree → List Tree → Prop
  | [], [] => True
  | item :: items, changed :: others => Aligned item changed ∧ AlignedItems items others
  | _, _ => False

/-- The entries of two mappings have the same keys and are aligned one by one. -/
def Tree.AlignedEntries : List (String × Tree) → List (String × Tree) → Prop
  | [], [] => True
  | (key, item) :: entries, (changedKey, changed) :: others =>
      changedKey = key ∧ Aligned item changed ∧ AlignedEntries entries others
  | _, _ => False

end

variable {rel} {rel' : Value → Value → Prop}

mutual

/-- The leaves of aligned arguments correspond. -/
theorem Tree.Aligned.leaves : ∀ {tree changed : Tree}, Aligned rel tree changed →
    List.Forall₂ rel tree.leaves changed.leaves
  | .leaf _, .leaf _, related => .cons related .nil
  | .sequence _, .sequence _, aligned => AlignedItems.leaves aligned
  | .mapping _, .mapping _, aligned => AlignedEntries.leaves aligned

theorem Tree.AlignedItems.leaves : ∀ {items changed : List Tree}, AlignedItems rel items changed →
    List.Forall₂ rel (leavesOfItems items) (leavesOfItems changed)
  | [], [], _ => .nil
  | _ :: _, _ :: _, ⟨first, others⟩ => List.rel_append first.leaves (AlignedItems.leaves others)

theorem Tree.AlignedEntries.leaves : ∀ {entries changed : List (String × Tree)},
    AlignedEntries rel entries changed →
      List.Forall₂ rel (leavesOfEntries entries) (leavesOfEntries changed)
  | [], [], _ => .nil
  | (_, _) :: _, (_, _) :: _, ⟨_, first, others⟩ =>
      List.rel_append first.leaves (AlignedEntries.leaves others)

end

mutual

theorem Tree.Aligned.mono (weaker : ∀ value value', rel value value' → rel' value value') :
    ∀ {tree tree' : Tree}, tree.Aligned rel tree' → tree.Aligned rel' tree'
  | .leaf _, .leaf _, related => weaker _ _ related
  | .sequence _, .sequence _, aligned => AlignedItems.mono weaker aligned
  | .mapping _, .mapping _, aligned => AlignedEntries.mono weaker aligned

/-- Arguments that are aligned by one relation are aligned by a weaker one. -/
theorem Tree.AlignedItems.mono (weaker : ∀ value value', rel value value' → rel' value value') :
    ∀ {items items' : List Tree}, AlignedItems rel items items' → AlignedItems rel' items items'
  | [], [], _ => trivial
  | _ :: _, _ :: _, ⟨first, others⟩ => ⟨first.mono weaker, AlignedItems.mono weaker others⟩

theorem Tree.AlignedEntries.mono (weaker : ∀ value value', rel value value' → rel' value value') :
    ∀ {entries entries' : List (String × Tree)}, AlignedEntries rel entries entries' →
      AlignedEntries rel' entries entries'
  | [], [], _ => trivial
  | (_, _) :: _, (_, _) :: _, ⟨key, first, others⟩ =>
      ⟨key, first.mono weaker, AlignedEntries.mono weaker others⟩

end

mutual

theorem Tree.Aligned.refl (reflexive : ∀ value, rel value value) :
    ∀ tree : Tree, tree.Aligned rel tree
  | .leaf value => reflexive value
  | .sequence items => AlignedItems.refl reflexive items
  | .mapping entries => AlignedEntries.refl reflexive entries

/-- Arguments are aligned with themselves. -/
theorem Tree.AlignedItems.refl (reflexive : ∀ value, rel value value) :
    ∀ items : List Tree, AlignedItems rel items items
  | [] => trivial
  | item :: items => ⟨Aligned.refl reflexive item, AlignedItems.refl reflexive items⟩

theorem Tree.AlignedEntries.refl (reflexive : ∀ value, rel value value) :
    ∀ entries : List (String × Tree), AlignedEntries rel entries entries
  | [] => trivial
  | (_, item) :: entries => ⟨rfl, Aligned.refl reflexive item, AlignedEntries.refl reflexive entries⟩

end

mutual

theorem Tree.Aligned.eq (equal : ∀ value value', rel value value' → value = value') :
    ∀ {tree tree' : Tree}, tree.Aligned rel tree' → tree = tree'
  | .leaf _, .leaf _, related => congrArg Tree.leaf (equal _ _ related)
  | .sequence _, .sequence _, aligned => congrArg Tree.sequence (AlignedItems.eq equal aligned)
  | .mapping _, .mapping _, aligned => congrArg Tree.mapping (AlignedEntries.eq equal aligned)

/-- Arguments that are aligned by equality are equal. -/
theorem Tree.AlignedItems.eq (equal : ∀ value value', rel value value' → value = value') :
    ∀ {items items' : List Tree}, AlignedItems rel items items' → items = items'
  | [], [], _ => rfl
  | _ :: _, _ :: _, ⟨first, others⟩ =>
      congrArg₂ List.cons (first.eq equal) (AlignedItems.eq equal others)

theorem Tree.AlignedEntries.eq (equal : ∀ value value', rel value value' → value = value') :
    ∀ {entries entries' : List (String × Tree)}, AlignedEntries rel entries entries' →
      entries = entries'
  | [], [], _ => rfl
  | (_, _) :: _, (_, _) :: _, ⟨key, first, others⟩ =>
      congrArg₂ List.cons (Prod.ext key.symm (first.eq equal)) (AlignedEntries.eq equal others)

end

theorem Tree.AlignedItems.getElem? : ∀ {items items' : List Tree}, AlignedItems rel items items' →
    ∀ position : Nat, Option.Rel (Tree.Aligned rel) items[position]? items'[position]?
  | [], [], _, _ => .none
  | _ :: _, _ :: _, ⟨first, _⟩, 0 => .some first
  | _ :: _, _ :: _, ⟨_, others⟩, position + 1 => AlignedItems.getElem? others position

theorem Tree.AlignedItems.length : ∀ {items items' : List Tree}, AlignedItems rel items items' →
    items.length = items'.length
  | [], [], _ => rfl
  | _ :: _, _ :: _, ⟨_, others⟩ => congrArg Nat.succ (AlignedItems.length others)

theorem Tree.AlignedEntries.keys : ∀ {entries entries' : List (String × Tree)},
    AlignedEntries rel entries entries' → entries.map Prod.fst = entries'.map Prod.fst
  | [], [], _ => rfl
  | (_, _) :: _, (_, _) :: _, ⟨key, _, others⟩ =>
      congrArg₂ List.cons key.symm (AlignedEntries.keys others)

theorem Tree.AlignedEntries.values : ∀ {entries entries' : List (String × Tree)},
    AlignedEntries rel entries entries' →
      AlignedItems rel (entries.map Prod.snd) (entries'.map Prod.snd)
  | [], [], _ => trivial
  | (_, _) :: _, (_, _) :: _, ⟨_, first, others⟩ => ⟨first, AlignedEntries.values others⟩

/-- What stands under a key is aligned. -/
theorem Tree.AlignedEntries.find? (name : String) : ∀ {entries entries' : List (String × Tree)},
    AlignedEntries rel entries entries' →
      Option.Rel (Tree.Aligned rel) ((entries.find? fun entry => entry.1 == name).map Prod.snd)
        ((entries'.find? fun entry => entry.1 == name).map Prod.snd)
  | [], [], _ => .none
  | (key, _) :: _, (_, _) :: _, ⟨same, first, others⟩ => by
      simp only [List.find?_cons, same]
      cases key == name
      · exact AlignedEntries.find? name others
      · exact .some first

end Offload
