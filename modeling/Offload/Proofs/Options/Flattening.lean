/-
# Flattened options

Options of three groups go into one table. The groups are compared by their keys on the way, those
of the back end with those at the top level first, and what is left with those of training; so
flattening fails for a mode that was not picked or for keys declared twice, and for nothing else.
Otherwise the table holds the entries of the groups side by side: none is replaced, and there is
room for no other.
-/

import Mathlib.Algebra.GroupWithZero.Nat
import Mathlib.Data.List.Nodup
import Offload.Proofs.Options.Locked

namespace Offload

/-! ## What is refused -/

/-- Merging fails for the keys that two tables have in common, and for nothing else. -/
theorem OptionTable.merge_eq_error_iff {table group : OptionTable} {cause : Error} :
    table.merge group = .error cause ↔
      group.keys.filter table.contains ≠ [] ∧
        cause = .optionKeyConflict (group.keys.filter table.contains) := by
  simp only [merge]
  split
  · next apart => simp [List.isEmpty_iff.mp apart]
  · next common =>
      have common : group.keys.filter table.contains ≠ [] := by simpa using common
      simp [common, eq_comm]

theorem OptionTable.merge_eq_ok_iff {table group merged : OptionTable} :
    table.merge group = .ok merged ↔
      group.keys.filter table.contains = [] ∧ merged = table.insertAll group.entries := by
  simp only [merge]
  split
  · next apart => simp [List.isEmpty_iff.mp apart, eq_comm]
  · next common =>
      have common : group.keys.filter table.contains ≠ [] := by simpa using common
      simp [common]

/-- Why options do not go into one table. The options of the back end are compared with those at the
top level first, and what is left with those of training. -/
inductive Options.Refuses (options : Options) : Error → Prop where
  | unresolved (default : options.isDefaultAnchorMode = true) :
      Refuses options .unresolvedAnchorMode
  | conflict {keys : List String} (resolved : options.isDefaultAnchorMode = false)
      (common : options.table.keys.filter options.backend.contains = keys) (some : keys ≠ []) :
      Refuses options (.optionKeyConflict keys)
  | training (resolved : options.isDefaultAnchorMode = false)
      (apart : options.table.keys.filter options.backend.contains = [])
      (taken : options.backend.contains "gradient_accumulation" = true ∨
        "gradient_accumulation" ∈ options.table.keys) :
      Refuses options (.optionKeyConflict ["gradient_accumulation"])

/-- The options of training meet those of a table in the one key that they have. -/
private theorem training_common (options : Options) (table : OptionTable) :
    options.trainingTable.keys.filter table.contains =
      if table.contains "gradient_accumulation" then ["gradient_accumulation"] else [] := by
  have keys : options.trainingTable.keys = ["gradient_accumulation"] := rfl
  rw [keys, List.filter_cons, List.filter_nil]

theorem Options.flatten_of_default {options : Options} (unpicked : options.isDefaultAnchorMode = true) :
    options.flatten = .error .unresolvedAnchorMode := by
  simp only [flatten, unpicked, if_true]
  rfl

theorem Options.flatten_of_resolved {options : Options}
    (resolved : options.isDefaultAnchorMode = false) :
    options.flatten = (OptionTable.merge options.backend options.table).bind fun general =>
      general.merge options.trainingTable := by
  simp only [flatten, resolved]
  rfl

/-- Options are flattened unless they are refused. -/
theorem Options.flatten_eq_error_iff {options : Options} {cause : Error} :
    options.flatten = .error cause ↔ options.Refuses cause := by
  cases default : options.isDefaultAnchorMode with
  | true =>
      rw [flatten_of_default default]
      constructor
      · rintro ⟨⟩
        exact .unresolved default
      · rintro (_ | ⟨resolved, -, -⟩ | ⟨resolved, -, -⟩)
        · rfl
        all_goals rw [default] at resolved; cases resolved
  | false =>
      rw [flatten_of_resolved default]
      by_cases apart : options.table.keys.filter options.backend.contains = []
      · rw [OptionTable.merge_eq_ok_iff.mpr ⟨apart, rfl⟩]
        change OptionTable.merge _ _ = _ ↔ _
        rw [OptionTable.merge_eq_error_iff, training_common, Dict.contains_insertAll]
        constructor
        · rintro ⟨taken, rfl⟩
          have taken : (options.backend.contains "gradient_accumulation" ||
              options.table.keys.contains "gradient_accumulation") = true := by
            by_contra free
            exact taken (if_neg free)
          rw [← Dict.keys, if_pos taken]
          exact .training default apart (by simpa using taken)
        · rintro (unpicked | ⟨-, common, some⟩ | ⟨-, -, taken⟩)
          · rw [default] at unpicked
            cases unpicked
          · exact absurd (common.symm.trans apart) some
          · rw [← Dict.keys, if_pos (by simpa using taken)]
            exact ⟨List.cons_ne_nil _ _, rfl⟩
      · rw [OptionTable.merge_eq_error_iff.mpr ⟨apart, rfl⟩]
        change Except.error _ = Except.error _ ↔ _
        constructor
        · rintro ⟨⟩
          exact .conflict default rfl apart
        · rintro (unpicked | ⟨-, common, -⟩ | ⟨-, apart', -⟩)
          · rw [default] at unpicked
            cases unpicked
          · rw [common]
          · exact absurd apart' apart

theorem Options.exists_flatten {options : Options} (accepted : ∀ cause, ¬ options.Refuses cause) :
    ∃ table, options.flatten = .ok table := by
  cases flat : options.flatten with
  | ok table => exact ⟨table, rfl⟩
  | error cause => exact absurd (Options.flatten_eq_error_iff.mp flat) (accepted cause)

/-! ## What is put together -/

/-- The table holds what some groups hold, each key once. -/
structure OptionTable.Unites (table : OptionTable) (groups : List OptionTable) : Prop where
  keys : ∀ key, key ∈ table.keys ↔ ∃ group ∈ groups, key ∈ group.keys
  size : table.size = (groups.map Dict.size).sum
  values : ∀ group ∈ groups, ∀ key value, group.get? key = some value → table.get? key = some value

/-- A table with the entries of some groups side by side unites them. -/
theorem OptionTable.unites_of_perm {table : OptionTable} {groups : List OptionTable}
    (perm : table.entries.Perm (groups.flatMap Dict.entries)) : table.Unites groups where
  keys key := by
    rw [Dict.keys, (perm.map Prod.fst).mem_iff, List.map_flatMap, List.mem_flatMap]
    rfl
  size := by
    rw [Dict.size, perm.length_eq, List.length_flatMap]
    rfl
  values group among key value there := by
    rw [← Dict.mem_entries_iff] at there ⊢
    exact perm.mem_iff.mpr (List.mem_flatMap_of_mem among there)

/-- What is merged has the entries of the group beside those of the table. -/
theorem OptionTable.entries_of_merge {table group merged : OptionTable}
    (done : table.merge group = .ok merged) :
    merged.entries.Perm (table.entries ++ group.entries) := by
  obtain ⟨apart, rfl⟩ := merge_eq_ok_iff.mp done
  refine Dict.insertAll_perm group.nodup_keys fun key there among => ?_
  rw [List.filter_eq_nil_iff] at apart
  exact apart key among (Dict.contains_iff_mem_keys.mpr there)

/-- The groups that are flattened, in the order in which they are merged. -/
def Options.groups (options : Options) : List OptionTable :=
  [options.backend, options.table, options.trainingTable]

/-- The flattened table has the entries of all groups side by side. -/
theorem Options.entries_of_flatten {options : Options} {flat : OptionTable}
    (flattened : options.flatten = .ok flat) :
    flat.entries.Perm (options.groups.flatMap Dict.entries) := by
  cases default : options.isDefaultAnchorMode with
  | true =>
      rw [flatten_of_default default] at flattened
      cases flattened
  | false =>
      rw [flatten_of_resolved default] at flattened
      cases merged : OptionTable.merge options.backend options.table with
      | error cause =>
          rw [merged] at flattened
          cases flattened
      | ok general =>
          rw [merged] at flattened
          have first := OptionTable.entries_of_merge merged
          have second := OptionTable.entries_of_merge flattened
          simpa [groups, List.append_assoc] using second.trans (first.append_right _)

/-- No key is in two of the groups. -/
def OptionTable.Apart (groups : List OptionTable) : Prop :=
  (groups.map Dict.keys).Pairwise List.Disjoint

/-- Groups that go into one table have no key in common, since the table has no key twice. -/
theorem Options.apart_of_flatten {options : Options} {flat : OptionTable}
    (flattened : options.flatten = .ok flat) : OptionTable.Apart options.groups := by
  have keys := (entries_of_flatten flattened).map Prod.fst
  rw [List.map_flatMap] at keys
  have once : (options.groups.map Dict.keys).flatten.Nodup := keys.nodup_iff.mp flat.nodup_keys
  exact (List.nodup_flatten.mp once).2

/-- Groups that are refused for their keys have a key in common. -/
theorem Options.Refuses.not_apart {options : Options} {keys : List String}
    (refuses : options.Refuses (.optionKeyConflict keys)) :
    ¬ OptionTable.Apart options.groups := by
  intro apart
  obtain ⟨backend, others⟩ := List.pairwise_cons.mp apart
  cases refuses with
  | conflict resolved common some =>
      obtain ⟨key, there⟩ := List.exists_mem_of_ne_nil _ some
      rw [← common, List.mem_filter, Dict.contains_iff_mem_keys] at there
      exact backend _ (by simp) there.2 there.1
  | training resolved common taken =>
      have own : "gradient_accumulation" ∈ options.trainingTable.keys := List.mem_singleton_self _
      rcases taken with taken | taken
      · exact backend _ (by simp) (Dict.contains_iff_mem_keys.mp taken) own
      · exact List.rel_of_pairwise_cons others (by simp) taken own

/-- Options for which a mode was picked are refused for the keys of their groups, or united. -/
theorem Options.flatten_of_picked {options : Options}
    (picked : options.isDefaultAnchorMode = false) :
    (¬ OptionTable.Apart options.groups ∧
      ∃ keys, options.flatten = .error (.optionKeyConflict keys)) ∨
    (OptionTable.Apart options.groups ∧
      ∃ flat, options.flatten = .ok flat ∧ flat.Unites options.groups) := by
  cases flattened : options.flatten with
  | ok flat =>
      exact .inr ⟨apart_of_flatten flattened, flat, rfl,
        OptionTable.unites_of_perm (entries_of_flatten flattened)⟩
  | error cause =>
      have refuses := flatten_eq_error_iff.mp flattened
      obtain ⟨keys, rfl⟩ : ∃ keys, cause = .optionKeyConflict keys := by
        cases refuses with
        | unresolved default => rw [picked] at default; cases default
        | conflict | training => exact ⟨_, rfl⟩
      exact .inl ⟨refuses.not_apart, keys, rfl⟩

/-! ## What is flattened after some changes -/

namespace OptionStore

/-- The groups that are flattened. -/
def groups (store : OptionStore) : List OptionTable := [store.backend, store.general, store.training]

/-- The keys that a conflict names: those of the top level that the back end has too, and if there
are none, those of training that one of the two has. -/
structure Conflict (store : OptionStore) (keys : List String) : Prop where
  rising : keys.Pairwise (· < ·)
  general : ¬ store.general.keys.Disjoint store.backend.keys →
    ∀ key, key ∈ keys ↔ key ∈ store.general.keys ∧ key ∈ store.backend.keys
  training : store.general.keys.Disjoint store.backend.keys →
    ∀ key, key ∈ keys ↔
      key ∈ store.training.keys ∧ (key ∈ store.general.keys ∨ key ∈ store.backend.keys)

namespace Locked

variable {store : OptionStore}

theorem groups_eq (locked : store.Locked) : store.options.groups = store.groups := by
  rw [groups, locked.training]
  rfl

/-- A mode was not picked exactly if the code that is stored says so. -/
theorem isDefaultAnchorMode_iff (locked : store.Locked) :
    store.options.isDefaultAnchorMode = true ↔
      store.general.get? "anchor_mode" = some (.int AnchorMode.default.code) := by
  obtain ⟨code, stored, read⟩ := locked.answers.anchorMode
  rw [Options.isDefaultAnchorMode, read, stored, beq_iff_eq, AnchorMode.ofCode?_eq_some_iff, eq_comm]
  simp

theorem conflict (locked : store.Locked) {keys : List String}
    (refused : store.options.flatten = .error (.optionKeyConflict keys)) : store.Conflict keys := by
  have common (key : String) :
      key ∈ store.general.keys.filter store.backend.contains ↔
        key ∈ store.general.keys ∧ key ∈ store.backend.keys := by
    rw [List.mem_filter, Dict.contains_iff_mem_keys]
  rcases Options.flatten_eq_error_iff.mp refused with _ | ⟨-, rfl, some⟩ | ⟨-, apart, taken⟩
  · refine ⟨store.general.keys_pairwise.filter _, fun _ => common, fun disjoint => ?_⟩
    obtain ⟨key, there⟩ := List.exists_mem_of_ne_nil _ some
    obtain ⟨there, there'⟩ := (common key).mp there
    exact absurd there' (disjoint there)
  · refine ⟨List.pairwise_singleton _ _, fun meets => ?_, fun _ key => ?_⟩
    · refine absurd (fun key there there' => ?_) meets
      have shared := (common key).mpr ⟨there, there'⟩
      rw [show store.general.keys.filter store.backend.contains = [] from apart] at shared
      cases shared
    · have only : store.training.keys = ["gradient_accumulation"] := by
        rw [locked.training]
        rfl
      rw [only]
      constructor
      · rintro there
        obtain rfl := List.mem_singleton.mp there
        exact ⟨there, taken.symm.imp_right Dict.contains_iff_mem_keys.mp⟩
      · exact And.left

end Locked

/-- Whatever changes a configuration was made by, flattening is refused for a mode that was not
picked, then for keys that two groups have, of which it names those it comes across first, and
otherwise unites the groups. The settings of capture make no difference. -/
theorem flatten_unites_apart (changes : List Options.Change) :
    let store := initial.after changes
    let unpicked := store.general.get? "anchor_mode" = some (.int AnchorMode.default.code)
    (store.options.flatten = .error .unresolvedAnchorMode ↔ unpicked) ∧
    (¬ unpicked →
      ((∃ keys, store.options.flatten = .error (.optionKeyConflict keys)) ↔
        ¬ OptionTable.Apart store.groups) ∧
      (OptionTable.Apart store.groups →
        ∃ flat, store.options.flatten = .ok flat ∧ flat.Unites store.groups)) ∧
    (∀ keys, store.options.flatten = .error (.optionKeyConflict keys) → store.Conflict keys) ∧
    ∀ capture, { store with capture := capture }.options.flatten = store.options.flatten := by
  intro store unpicked
  obtain ⟨locked, -⟩ := advances_after initial changes locked_initial
  have default_iff : store.options.isDefaultAnchorMode = true ↔ unpicked :=
    locked.isDefaultAnchorMode_iff
  refine ⟨?_, fun picked => ?_, fun keys => locked.conflict, fun capture => rfl⟩
  · rw [← default_iff]
    constructor
    · intro refused
      cases Options.flatten_eq_error_iff.mp refused with
      | unresolved default => exact default
    · exact Options.flatten_of_default
  · have resolved := Bool.eq_false_iff.mpr fun default => picked (default_iff.mp default)
    have outcome := Options.flatten_of_picked resolved
    rw [locked.groups_eq] at outcome
    rcases outcome with ⟨meet, keys, refused⟩ | ⟨apart, flat, flattened, unites⟩
    · exact ⟨⟨fun _ => meet, fun _ => ⟨keys, refused⟩⟩, fun apart => absurd apart meet⟩
    · refine ⟨⟨?_, fun meet => absurd apart meet⟩, fun _ => ⟨flat, flattened, unites⟩⟩
      rintro ⟨keys, refused⟩
      rw [flattened] at refused
      cases refused

end OptionStore

end Offload
