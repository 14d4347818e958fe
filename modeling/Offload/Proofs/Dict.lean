/-
# Looking up in dictionaries

A dictionary is known by what its keys give. Inserting changes that for one key, and since the
keys are sorted, an entry is listed exactly if its key gives its value. Entries with keys that are
not there yet are added to those that are: nothing is replaced, and nothing else comes in.
Dictionaries that give the same for every key list the same entries in the same order.
-/

import Mathlib.Data.List.Basic
import Mathlib.Data.List.Forall2
import Offload.Dict

namespace Offload.Dict

open scoped List

variable {α : Type}

@[simp]
theorem get?_empty (key : String) : (empty : Dict α).get? key = none := rfl

private theorem find?_insertEntry_self (key : String) (value : α) (entries : List (String × α)) :
    (insertEntry key value entries).find? (fun entry => entry.1 == key) = some (key, value) := by
  induction entries with
  | nil => simp [insertEntry]
  | cons first rest ih =>
      simp only [insertEntry]
      split
      · simp
      · split
        · simp
        · next different =>
            have apart : first.1 ≠ key := fun same => different same.symm
            simp [apart, ih]

private theorem find?_insertEntry_of_ne {key other : String} (apart : other ≠ key) (value : α)
    (entries : List (String × α)) :
    (insertEntry key value entries).find? (fun entry => entry.1 == other) =
      entries.find? fun entry => entry.1 == other := by
  induction entries with
  | nil => simp [insertEntry, Ne.symm apart]
  | cons first rest ih =>
      simp only [insertEntry]
      split
      · simp [Ne.symm apart]
      · split
        · next here => simp [← here, Ne.symm apart]
        · simp [List.find?_cons, ih]

/-- Inserting changes what one key gives. -/
@[simp]
theorem get?_insert (dict : Dict α) (key other : String) (value : α) :
    (dict.insert key value).get? other = if other = key then some value else dict.get? other := by
  by_cases same : other = key
  · rw [if_pos same, same, get?, insert, find?_insertEntry_self, Option.map_some]
  · rw [if_neg same, get?, insert, find?_insertEntry_of_ne same, get?]

@[simp]
theorem get?_ofList_singleton (key : String) (value : α) :
    (ofList [(key, value)]).get? key = some value := by
  simp [ofList, insertAll]

/-- Replacing the only entry leaves nothing of it. -/
@[simp]
theorem insert_ofList_singleton (key : String) (value other : α) :
    (ofList [(key, value)]).insert key other = ofList [(key, other)] := by
  simp [ofList, insertAll, insert, insertEntry, empty]

/-- An entry is listed exactly if its key gives its value. -/
theorem mem_entries_iff (dict : Dict α) (key : String) (value : α) :
    (key, value) ∈ dict.entries ↔ dict.get? key = some value := by
  obtain ⟨entries, sorted⟩ := dict
  change (key, value) ∈ entries ↔
    (entries.find? fun entry => entry.1 == key).map Prod.snd = some value
  induction entries with
  | nil => simp
  | cons first rest ih =>
      obtain ⟨below, sortedRest⟩ := List.pairwise_cons.1 sorted
      by_cases here : first.1 = key
      · have absent : (key, value) ∉ rest := fun later =>
          absurd (below _ later) (here ▸ String.lt_irrefl _)
        obtain ⟨name, first_value⟩ := first
        obtain rfl : name = key := here
        simp [absent, eq_comm]
      · have apart : (key, value) ≠ first := fun same => here (same ▸ rfl)
        simp [here, apart, ih sortedRest]

/-- The keys are listed in rising order. -/
theorem keys_pairwise (dict : Dict α) : dict.keys.Pairwise (· < ·) :=
  List.pairwise_map.mpr dict.sorted

theorem nodup_keys (dict : Dict α) : dict.keys.Nodup :=
  dict.keys_pairwise.imp fun below => String.ne_of_lt below

theorem contains_iff_mem_keys {dict : Dict α} {key : String} :
    dict.contains key = true ↔ key ∈ dict.keys := by
  rw [contains, Option.isSome_iff_exists, keys, List.mem_map]
  constructor
  · rintro ⟨value, there⟩
    exact ⟨(key, value), (mem_entries_iff dict key value).mpr there, rfl⟩
  · rintro ⟨⟨_, value⟩, there, rfl⟩
    exact ⟨value, (mem_entries_iff dict _ value).mp there⟩

theorem contains_insert (dict : Dict α) (key other : String) (value : α) :
    (dict.insert key value).contains other = (dict.contains other || other == key) := by
  rw [contains, get?_insert, contains]
  by_cases same : other = key <;> simp [same]

/-- A key is there after some entries were added if it was there before, or one of them has it. -/
theorem contains_insertAll (dict : Dict α) (entries : List (String × α)) (key : String) :
    (dict.insertAll entries).contains key =
      (dict.contains key || (entries.map Prod.fst).contains key) := by
  induction entries generalizing dict with
  | nil => simp [insertAll]
  | cons entry later ih =>
      have rest := ih (dict.insert entry.1 entry.2)
      rw [contains_insert] at rest
      rw [insertAll, List.foldl_cons, ← insertAll, rest, List.map_cons, List.contains_cons,
        Bool.or_assoc]

private theorem insertEntry_perm {key : String} (value : α) :
    ∀ {entries : List (String × α)}, key ∉ entries.map Prod.fst →
      (insertEntry key value entries).Perm ((key, value) :: entries)
  | [], _ => .refl _
  | first :: rest, absent => by
      obtain ⟨apart, absent⟩ := not_or.mp fun there => absent (List.mem_cons.mpr there)
      rw [insertEntry, if_neg apart]
      split
      · exact .refl _
      · exact ((insertEntry_perm value absent).cons first).trans (.swap _ _ _)

/-- A new key adds its entry to those that are there. -/
theorem insert_perm {dict : Dict α} {key : String} (value : α) (absent : key ∉ dict.keys) :
    (dict.insert key value).entries.Perm ((key, value) :: dict.entries) :=
  insertEntry_perm value absent

/-- New keys, none of them twice, add their entries to those that are there. -/
theorem insertAll_perm {dict : Dict α} {entries : List (String × α)}
    (distinct : (entries.map Prod.fst).Nodup) (apart : dict.keys.Disjoint (entries.map Prod.fst)) :
    (dict.insertAll entries).entries.Perm (dict.entries ++ entries) := by
  induction entries generalizing dict with
  | nil => rw [List.append_nil]; exact .refl _
  | cons entry later ih =>
      obtain ⟨once, distinct⟩ := List.nodup_cons.mp distinct
      obtain ⟨absent, apart⟩ := List.disjoint_cons_right.mp apart
      have added := insert_perm entry.2 absent
      have apart : (dict.insert entry.1 entry.2).keys.Disjoint (later.map Prod.fst) := by
        refine List.disjoint_of_subset_left (added.map Prod.fst).subset ?_
        exact List.disjoint_cons_left.mpr ⟨once, apart⟩
      calc (dict.insertAll (entry :: later)).entries
          = ((dict.insert entry.1 entry.2).insertAll later).entries := rfl
        _ ~ (dict.insert entry.1 entry.2).entries ++ later := ih distinct apart
        _ ~ entry :: (dict.entries ++ later) := added.append_right later
        _ ~ dict.entries ++ entry :: later := List.perm_middle.symm

/-- Dictionaries that list the same entries are the same. -/
theorem eq_of_entries {left right : Dict α} (entries : left.entries = right.entries) :
    left = right := by
  cases left
  cases right
  cases entries
  rfl

/-- Dictionaries that give the same for every key are the same: what they list is sorted. -/
theorem eq_of_get? {left right : Dict α} (same : ∀ key, left.get? key = right.get? key) :
    left = right := by
  have members : ∀ entry, entry ∈ left.entries ↔ entry ∈ right.entries := fun entry => by
    rw [← Prod.eta entry, mem_entries_iff, mem_entries_iff, same]
  have once : ∀ dict : Dict α, dict.entries.Nodup := fun dict =>
    dict.sorted.imp fun below twice => String.ne_of_lt below (congrArg Prod.fst twice)
  have perm : left.entries.Perm right.entries :=
    (List.perm_ext_iff_of_nodup (once left) (once right)).mpr members
  exact eq_of_entries <| perm.eq_of_pairwise
    (fun _ _ _ _ below above => absurd (String.lt_trans below above) (String.lt_irrefl _))
    left.sorted right.sorted

/-- Dictionaries agree if their entries do, one by one. -/
theorem agrees_iff {same : α → α → Bool} (left right : Dict α) : left.agrees same right = true ↔
    List.Forall₂ (fun entry entry' => entry.1 = entry'.1 ∧ same entry.2 entry'.2 = true)
      left.entries right.entries := by
  simp only [agrees, keys, Bool.and_eq_true, beq_iff_eq]
  generalize left.entries = entries
  generalize right.entries = entries'
  induction entries generalizing entries' with
  | nil => cases entries' <;> simp
  | cons entry entries ih =>
      cases entries' with
      | nil => simp
      | cons entry' entries' =>
          simp only [List.map_cons, List.cons.injEq, List.zip_cons_cons, List.all_cons,
            Bool.and_eq_true, List.forall₂_cons, ← ih]
          tauto

end Offload.Dict
