/-
# What still stands in a journal

Some questions about a journal are of one form: did something happen after the last time that
something else did? A training step that was not fetched since, a fetch whose weights a device did
not receive since. `Since` states the question for any list and two kinds of its items, and its law
for one more item is all that invariants need. Where each item of the second kind is preceded by one
of the first that stands, there are no more of the second kind than of the first.

The kinds of entries that speak of weights are named here as well. Only what succeeded counts.
-/

import Mathlib.Data.List.Basic
import Mathlib.Data.List.Induction
import Offload.Proofs.Journal.Basic

namespace Offload

section Since

variable {α : Type} {starts ends : α → Bool}

/-- Every item fits the items before it. -/
def EachAfter (fits : List α → α → Prop) (items : List α) : Prop :=
  ∀ prior item, prior ++ [item] <+: items → fits prior item

theorem eachAfter_nil (fits : List α → α → Prop) : EachAfter fits [] := by
  intro prior item there
  simpa using List.prefix_nil.mp there

@[simp]
theorem eachAfter_append_singleton {fits : List α → α → Prop} (items : List α) (last : α) :
    EachAfter fits (items ++ [last]) ↔ EachAfter fits items ∧ fits items last := by
  constructor
  · intro each
    exact ⟨fun prior item there => each prior item (there.trans (List.prefix_append _ _)),
      each items last (List.prefix_refl _)⟩
  · rintro ⟨each, fit⟩ prior item there
    rcases List.prefix_concat_iff.mp there with whole | shorter
    · obtain ⟨rfl, same⟩ := List.append_inj' whole rfl
      obtain rfl := List.singleton_inj.mp same
      exact fit
    · exact each prior item shorter

/-- There is an item that starts, and none that ends comes after it. -/
def Since (starts ends : α → Bool) (items : List α) : Prop :=
  ∃ earlier item later, items = earlier ++ item :: later ∧ starts item = true ∧
    ∀ other ∈ later, ends other = false

theorem not_since_nil : ¬ Since starts ends [] := by
  rintro ⟨earlier, item, later, split, -⟩
  exact List.cons_ne_nil item later (List.append_eq_nil_iff.mp split.symm).2

/-- One more item starts, or it leaves standing what stood. -/
@[simp]
theorem since_append_singleton (items : List α) (last : α) :
    Since starts ends (items ++ [last]) ↔
      starts last = true ∨ Since starts ends items ∧ ends last = false := by
  constructor
  · rintro ⟨earlier, item, later, split, begins, stands⟩
    rcases List.eq_nil_or_concat later with rfl | ⟨later, other, rfl⟩
    · obtain ⟨-, rfl⟩ : items = earlier ∧ last = item := by
        simpa using List.append_inj' split rfl
      exact .inl begins
    · rw [List.concat_eq_append] at split stands
      rw [← List.cons_append, ← List.append_assoc] at split
      obtain ⟨rfl, same⟩ := List.append_inj' split rfl
      obtain rfl := List.singleton_inj.mp same
      exact .inr ⟨⟨earlier, item, later, rfl, begins, fun other there =>
        stands other (List.mem_append_left _ there)⟩, stands _ (by simp)⟩
  · rintro (begins | ⟨⟨earlier, item, later, rfl, begins, stands⟩, lasts⟩)
    · exact ⟨items, last, [], rfl, begins, by simp⟩
    · refine ⟨earlier, item, later ++ [last], by simp, begins, fun other there => ?_⟩
      rcases List.mem_append.mp there with old | new
      · exact stands other old
      · rw [List.mem_singleton.mp new, lasts]

theorem since_cons (first : α) (items : List α) :
    Since starts ends (first :: items) ↔
      (starts first = true ∧ ∀ other ∈ items, ends other = false) ∨ Since starts ends items := by
  constructor
  · rintro ⟨earlier, item, later, split, begins, stands⟩
    rcases List.cons_eq_append_iff.mp split with ⟨-, here⟩ | ⟨rest, -, there⟩
    · obtain ⟨rfl, rfl⟩ := List.cons.inj here
      exact .inl ⟨begins, stands⟩
    · exact .inr ⟨rest, item, later, there, begins, stands⟩
  · rintro (⟨begins, stands⟩ | ⟨earlier, item, later, rfl, begins, stands⟩)
    · exact ⟨[], first, items, rfl, begins, stands⟩
    · exact ⟨first :: earlier, item, later, rfl, begins, stands⟩

instance decidableSince : (items : List α) → Decidable (Since starts ends items)
  | [] => isFalse not_since_nil
  | first :: items =>
      have := decidableSince items
      decidable_of_iff _ (since_cons first items).symm

theorem eachAfter_iff_getElem {fits : List α → α → Prop} {items : List α} :
    EachAfter fits items ↔
      ∀ (index : Nat) (inside : index < items.length), fits (items.take index) items[index] := by
  constructor
  · intro each index inside
    refine each _ _ ?_
    rw [← List.take_succ_eq_append_getElem inside]
    exact List.take_prefix _ _
  · rintro each prior item ⟨later, rfl⟩
    simpa using each prior.length (by simp)

instance {fits : List α → α → Prop} [∀ prior item, Decidable (fits prior item)] (items : List α) :
    Decidable (EachAfter fits items) :=
  decidable_of_iff _ eachAfter_iff_getElem.symm

/-- What comes only while something stands ends it, so it does not come more often than that. -/
theorem countP_le_of_since {items : List α}
    (apart : ∀ item, starts item = true → ends item = false)
    (each : EachAfter (fun prior item => ends item = true → Since starts ends prior) items) :
    items.countP ends ≤ items.countP starts := by
  -- while something stands there is one more of the first kind
  suffices both : items.countP ends ≤ items.countP starts ∧
      (Since starts ends items → items.countP ends < items.countP starts) from both.1
  induction items using List.reverseRecOn with
  | nil => exact ⟨Nat.le_refl 0, fun since => absurd since not_since_nil⟩
  | append_singleton items last ih =>
      obtain ⟨each, stood⟩ := (eachAfter_append_singleton items last).mp each
      obtain ⟨le, lt⟩ := ih each
      simp only [List.countP_append, List.countP_singleton, since_append_singleton]
      by_cases begins : starts last = true
      · rw [if_pos begins, if_neg (by simp [apart last begins])]
        exact ⟨by omega, fun _ => by omega⟩
      · rw [if_neg begins]
        by_cases finishes : ends last = true
        · have less := lt (stood finishes)
          rw [if_pos finishes]
          refine ⟨by omega, ?_⟩
          rintro (begun | ⟨-, unfinished⟩)
          · exact absurd begun begins
          · exact absurd finishes (Bool.eq_false_iff.mp unfinished)
        · rw [if_neg finishes]
          refine ⟨le, ?_⟩
          rintro (begun | ⟨since, -⟩)
          · exact absurd begun begins
          · exact lt since

/-- What stands stands also if less ends it. -/
theorem Since.mono {less : α → Bool} {items : List α} (since : Since starts ends items)
    (fewer : ∀ item, less item = true → ends item = true) : Since starts less items := by
  obtain ⟨earlier, item, later, split, begins, stands⟩ := since
  refine ⟨earlier, item, later, split, begins, fun other there => ?_⟩
  rw [Bool.eq_false_iff]
  exact fun finishes => absurd (fewer other finishes) (Bool.eq_false_iff.mp (stands other there))

end Since

namespace Entry

/-- A training step. -/
def trained (entry : Entry) : Bool :=
  match entry.operation with
  | .execute tag _ _ => tag.training && entry.succeeded
  | _ => false

/-- Weights came to the host. -/
def fetched (entry : Entry) : Bool :=
  match entry.operation with
  | .copyToHost _ => entry.succeeded
  | _ => false

/-- Weights were sent to the device of an executable. -/
def sent (tag : Tag) (entry : Entry) : Bool :=
  match entry.operation with
  | .copyToDevice other => decide (other = tag) && entry.succeeded
  | _ => false

/-- The device of an executable received weights, by its compilation or later. -/
def supplied (tag : Tag) (entry : Entry) : Bool :=
  match entry.operation with
  | .compile other _ => decide (other = tag) && entry.succeeded
  | _ => entry.sent tag

theorem supplied_of_sent {tag : Tag} {entry : Entry} (sent : entry.sent tag = true) :
    entry.supplied tag = true := by
  obtain ⟨operation, succeeded, demanded⟩ := entry
  cases operation <;> first | exact sent | exact nomatch sent

theorem fetched_of_trained {entry : Entry} (trained : entry.trained = true) :
    entry.fetched = false := by
  obtain ⟨operation, succeeded, demanded⟩ := entry
  cases operation <;> first | rfl | exact nomatch trained

theorem sent_of_fetched {tag : Tag} {entry : Entry} (fetched : entry.fetched = true) :
    entry.sent tag = false := by
  obtain ⟨operation, succeeded, demanded⟩ := entry
  cases operation <;> first | rfl | exact nomatch fetched

end Entry

end Offload
