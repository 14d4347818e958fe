/-
# Sorted dictionaries

A finite map from texts to values, listed by key in rising order of code points. The order is
part of the type, so two dictionaries are the same exactly when they hold the same entries.
-/

namespace Offload

/-- Entries in strictly rising order of their keys. -/
structure Dict (α : Type) where
  entries : List (String × α)
  sorted : entries.Pairwise fun earlier later => earlier.1 < later.1

namespace Dict

variable {α β : Type}

/-- The dictionary without entries. -/
def empty : Dict α := ⟨[], .nil⟩

instance : Inhabited (Dict α) := ⟨empty⟩

instance [DecidableEq α] : DecidableEq (Dict α) := fun left right =>
  decidable_of_iff (left.entries = right.entries)
    ⟨fun same => by cases left; cases right; cases same; rfl, fun same => by rw [same]⟩

/-- Put an entry at its place in a sorted list, over an entry with the same key. -/
def insertEntry (key : String) (value : α) : List (String × α) → List (String × α)
  | [] => [(key, value)]
  | entry :: rest =>
      if key < entry.1 then (key, value) :: entry :: rest
      else if key = entry.1 then (key, value) :: rest
      else entry :: insertEntry key value rest

theorem mem_insertEntry {key : String} {value : α} {entries : List (String × α)}
    {entry : String × α} (present : entry ∈ insertEntry key value entries) :
    entry = (key, value) ∨ entry ∈ entries := by
  induction entries with
  | nil => simpa [insertEntry] using present
  | cons first rest ih =>
      simp only [insertEntry] at present
      split at present
      · simpa using present
      · split at present
        · rcases List.mem_cons.1 present with same | later
          · exact .inl same
          · exact .inr (List.mem_cons_of_mem _ later)
        · rcases List.mem_cons.1 present with same | later
          · exact .inr (by simp [same])
          · rcases ih later with same | old
            · exact .inl same
            · exact .inr (List.mem_cons_of_mem _ old)

theorem sorted_insertEntry (key : String) (value : α) {entries : List (String × α)}
    (sorted : entries.Pairwise fun earlier later => earlier.1 < later.1) :
    (insertEntry key value entries).Pairwise fun earlier later => earlier.1 < later.1 := by
  induction entries with
  | nil => simp [insertEntry]
  | cons first rest ih =>
      obtain ⟨below, sortedRest⟩ := List.pairwise_cons.1 sorted
      simp only [insertEntry]
      split
      · rename_i before
        refine List.pairwise_cons.2 ⟨fun entry present => ?_, sorted⟩
        rcases List.mem_cons.1 present with same | later
        · exact same ▸ before
        · exact String.lt_trans before (below entry later)
      · split
        · rename_i same
          exact List.pairwise_cons.2 ⟨fun entry later => same ▸ below entry later, sortedRest⟩
        · rename_i notBefore different
          have after : first.1 < key := String.not_le.1 fun atMost =>
            different (String.le_antisymm atMost (String.not_lt.1 notBefore))
          refine List.pairwise_cons.2 ⟨fun entry present => ?_, ih sortedRest⟩
          rcases mem_insertEntry present with same | old
          · exact same ▸ after
          · exact below entry old

/-- Add an entry, or replace the value of a key. -/
def insert (dict : Dict α) (key : String) (value : α) : Dict α :=
  ⟨insertEntry key value dict.entries, sorted_insertEntry key value dict.sorted⟩

/-- The value of a key. -/
def get? (dict : Dict α) (key : String) : Option α :=
  (dict.entries.find? fun entry => entry.1 == key).map Prod.snd

/-- A key has a value. -/
def contains (dict : Dict α) (key : String) : Bool := (dict.get? key).isSome

/-- The keys in rising order. -/
def keys (dict : Dict α) : List String := dict.entries.map Prod.fst

/-- The number of entries. -/
def size (dict : Dict α) : Nat := dict.entries.length

/-- Add entries one after the other; a later entry replaces an earlier one of its key. -/
def insertAll (dict : Dict α) (entries : List (String × α)) : Dict α :=
  entries.foldl (fun dict entry => dict.insert entry.1 entry.2) dict

/-- The dictionary of some entries; of two entries with one key the later counts. -/
def ofList (entries : List (String × α)) : Dict α := empty.insertAll entries

/-- Agreement of two dictionaries up to a comparison of values: the same keys, and values that
agree. -/
def agrees (same : α → α → Bool) (left right : Dict α) : Bool :=
  left.keys == right.keys &&
    (left.entries.zip right.entries).all fun (entry, entry') => same entry.2 entry'.2

end Dict

end Offload
