/-
# Lists

General facts that several modules need: correspondences of lists compose place by place and can be
followed up place by place, a traversal succeeds if every visit does and gives what each element
gives, an element of a longer list is an old one or the last, replacing an element by one with the
same image changes no image, of elements that exclude each other a list has at most one, and a list
is made up of the elements with each key.
-/

import Mathlib.Data.List.Forall2
import Mathlib.Data.List.Nodup

namespace Offload

/-- Correspondences of lists compose. -/
theorem forall₂_comp {α β γ : Type} {first : α → β → Prop} {second : β → γ → Prop}
    {both : α → γ → Prop} (compose : ∀ a b c, first a b → second b c → both a c) :
    ∀ {as : List α} {bs : List β} {cs : List γ}, List.Forall₂ first as bs →
      List.Forall₂ second bs cs → List.Forall₂ both as cs
  | _, _, _, .nil, .nil => .nil
  | _, _, _, .cons one others, .cons one' others' =>
      .cons (compose _ _ _ one one') (forall₂_comp compose others others')

/-- A correspondence that can be followed up at each place can be followed up as a whole. -/
theorem exists_forall₂_of_forall₂ {α β γ : Type} {first : α → β → Prop} {second : β → γ → Prop}
    {both : α → γ → Prop} (follow : ∀ a b, first a b → ∃ c, second b c ∧ both a c) :
    ∀ {as : List α} {bs : List β}, List.Forall₂ first as bs →
      ∃ cs, List.Forall₂ second bs cs ∧ List.Forall₂ both as cs
  | _, _, .nil => ⟨[], .nil, .nil⟩
  | _, _, .cons one others => by
      obtain ⟨c, next, last⟩ := follow _ _ one
      obtain ⟨cs, nexts, lasts⟩ := exists_forall₂_of_forall₂ follow others
      exact ⟨c :: cs, .cons next nexts, .cons last lasts⟩

/-- Correspondences of two lists in a row are told apart by the length of the first. -/
theorem forall₂_append_iff {α β : Type} {rel : α → β → Prop} {as as' : List α} {bs bs' : List β}
    (length : as.length = bs.length) :
    List.Forall₂ rel (as ++ as') (bs ++ bs') ↔ List.Forall₂ rel as bs ∧ List.Forall₂ rel as' bs' := by
  constructor
  · intro both
    have first := List.forall₂_take as.length both
    have second := List.forall₂_drop as.length both
    rw [List.take_left' rfl, List.take_left' length.symm] at first
    rw [List.drop_left' rfl, List.drop_left' length.symm] at second
    exact ⟨first, second⟩
  · rintro ⟨first, second⟩
    exact List.rel_append first second

/-- A traversal succeeds with what every element succeeds with. -/
theorem mapM_eq_ok_iff {ε α β : Type} {read : α → Except ε β} {list : List α} {values : List β} :
    list.mapM read = .ok values ↔
      List.Forall₂ (fun element value => read element = .ok value) list values := by
  induction list generalizing values with
  | nil => cases values <;> simp [pure, Except.pure]
  | cons element list ih =>
      rw [List.mapM_cons]
      cases head : read element with
      | error cause => cases values <;> simp [bind, Except.bind, head]
      | ok value =>
          cases rest : list.mapM read with
          | error cause => cases values <;> simp [bind, Except.bind, head, ← ih, rest]
          | ok others =>
              cases values <;>
                simp [bind, Except.bind, pure, Except.pure, head, ← ih, rest]

/-- A traversal succeeds exactly if every visit does. -/
theorem exists_mapM_ok_iff {ε α β : Type} {read : α → Except ε β} {list : List α} :
    (∃ values, list.mapM read = .ok values) ↔
      ∀ element ∈ list, ∃ value, read element = .ok value := by
  simp only [mapM_eq_ok_iff]
  induction list with
  | nil => simp
  | cons element list ih =>
      rw [List.forall_mem_cons, ← ih]
      constructor
      · rintro ⟨_, _ | ⟨first, others⟩⟩
        exact ⟨⟨_, first⟩, ⟨_, others⟩⟩
      · rintro ⟨⟨_, first⟩, ⟨_, others⟩⟩
        exact ⟨_, .cons first others⟩

/-- A traversal of the first elements gives the first of the values. -/
theorem mapM_take {ε α β : Type} {read : α → Except ε β} {list : List α} {values : List β}
    (succeeded : list.mapM read = .ok values) (count : Nat) :
    (list.take count).mapM read = .ok (values.take count) :=
  mapM_eq_ok_iff.mpr (List.forall₂_take count (mapM_eq_ok_iff.mp succeeded))

/-- What is in a list with one more element was in the list or is the last. -/
theorem getElem?_concat_eq_some_iff {α : Type} {list : List α} {last value : α} {index : Nat} :
    (list ++ [last])[index]? = some value ↔
      list[index]? = some value ∨ index = list.length ∧ value = last := by
  rcases Nat.lt_or_ge index list.length with inside | beyond
  · rw [List.getElem?_append_left inside, or_iff_left fun ended => Nat.ne_of_lt inside ended.1]
  · rw [List.getElem?_append_right beyond, List.getElem?_eq_none beyond, List.getElem?_singleton]
    split
    · next here => simp [Nat.le_antisymm (Nat.le_of_sub_eq_zero here) beyond, eq_comm]
    · next apart => simpa using fun last => absurd (by rw [last, Nat.sub_self]) apart

/-- Replacing an element by one with the same image changes no image. -/
theorem map_set_of_eq {α β : Type} {image : α → β} {list : List α} {index : Nat} {old new : α}
    (there : list[index]? = some old) (same : image new = image old) :
    (list.set index new).map image = list.map image := by
  obtain ⟨inside, rfl⟩ := List.getElem?_eq_some_iff.mp there
  rw [List.map_set, same, ← List.map_set, List.set_getElem_self]

/-- Of elements that exclude each other there is at most one in a list. -/
theorem countP_le_one {α : Type} {rel : α → α → Prop} {kind : α → Bool} {list : List α}
    (pairwise : list.Pairwise rel)
    (excludes : ∀ a b, kind a = true → kind b = true → ¬ rel a b) : list.countP kind ≤ 1 := by
  induction pairwise with
  | nil => exact Nat.zero_le 1
  | @cons first others related _ ih =>
      rw [List.countP_cons]
      split
      · next chosen =>
          have none : others.countP kind = 0 := List.countP_eq_zero.mpr fun other there same =>
            excludes first other chosen same (related other there)
          omega
      · exact ih

/-- Sorting a list by keys, none of them twice, loses no element and doubles none. -/
theorem flatMap_filter_perm {α κ : Type} [DecidableEq κ] (key : α → κ) {keys : List κ}
    {list : List α} (distinct : keys.Nodup) (covers : ∀ element ∈ list, key element ∈ keys) :
    (keys.flatMap fun found => list.filter fun element => key element = found).Perm list := by
  induction list with
  | nil => simp
  | cons element rest ih =>
      have later := ih fun other there => covers other (List.mem_cons_of_mem _ there)
      obtain ⟨before, after, rfl⟩ := List.append_of_mem (covers element List.mem_cons_self)
      -- only one of the keys is that of the first element
      have others (keys : List κ) (absent : key element ∉ keys) :
          (keys.flatMap fun found => (element :: rest).filter fun other => key other = found) =
            keys.flatMap fun found => rest.filter fun other => key other = found := by
        refine List.flatMap_congr fun found there => ?_
        have apart : key element ≠ found := fun same => absent (same ▸ there)
        rw [List.filter_cons_of_neg (by simpa using apart)]
      obtain ⟨absent, -⟩ := List.nodup_cons.mp (List.nodup_middle.mp distinct)
      rw [List.mem_append, not_or] at absent
      rw [List.flatMap_append, List.flatMap_cons] at later ⊢
      rw [others before absent.1, others after absent.2, List.filter_cons_of_pos (by simp)]
      exact List.perm_middle.trans (later.cons element)

end Offload
