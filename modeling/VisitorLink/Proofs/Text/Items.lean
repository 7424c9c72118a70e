import Mathlib.Data.List.Basic

/-!
# Items one by one

What comes of reading all items of a list. Where an item is written in one way only, the items are
the ones that the values are written with (`eq_map_of_mapM`).
-/

namespace VisitorLink.Text

variable {α β : Type} {read? : α → Option β} {write : β → α} {items : List α} {values : List β}

theorem mapM_cons_eq_some_iff {item : α} :
    (item :: items).mapM read? = some values ↔
      ∃ value rest, read? item = some value ∧ items.mapM read? = some rest ∧
        values = value :: rest := by
  rw [List.mapM_cons]
  cases read? item <;> cases items.mapM read? <;> simp [eq_comm]

/-- Items that are written and read one by one become what each of them becomes. -/
theorem mapM_map_eq_map {told : β → β}
    (reads : ∀ value ∈ values, read? (write value) = some (told value)) :
    (values.map write).mapM read? = some (values.map told) := by
  induction values with
  | nil => rfl
  | cons value values ih =>
      obtain ⟨first, rest⟩ := List.forall_mem_cons.1 reads
      exact mapM_cons_eq_some_iff.2 ⟨told value, values.map told, first, ih rest, rfl⟩

theorem mapM_map (reads : ∀ value ∈ values, read? (write value) = some value) :
    (values.map write).mapM read? = some values := by
  have same : (values.map write).mapM read? = some (values.map id) := mapM_map_eq_map reads
  rwa [List.map_id] at same

theorem eq_map_of_mapM
    (written : ∀ item ∈ items, ∀ value, read? item = some value → item = write value)
    (found : items.mapM read? = some values) : items = values.map write := by
  induction items generalizing values with
  | nil => cases found; rfl
  | cons item items ih =>
      obtain ⟨value, rest, first, others, rfl⟩ := mapM_cons_eq_some_iff.1 found
      obtain ⟨this, written⟩ := List.forall_mem_cons.1 written
      rw [List.map_cons, ← this value first, ← ih written others]

theorem exists_of_mapM (found : items.mapM read? = some values) :
    ∀ value ∈ values, ∃ item ∈ items, read? item = some value := by
  induction items generalizing values with
  | nil => cases found; exact fun _ mem => absurd mem List.not_mem_nil
  | cons item items ih =>
      obtain ⟨value, rest, first, others, rfl⟩ := mapM_cons_eq_some_iff.1 found
      intro other mem
      rcases List.mem_cons.1 mem with rfl | mem
      · exact ⟨item, List.mem_cons_self, first⟩
      · obtain ⟨item', mem, reads⟩ := ih others other mem
        exact ⟨item', List.mem_cons_of_mem item mem, reads⟩

theorem mapM_eq_none_iff : items.mapM read? = none ↔ ∃ item ∈ items, read? item = none := by
  induction items with
  | nil => simp
  | cons item items ih =>
      rw [List.mapM_cons, List.exists_mem_cons_iff, ← ih]
      cases read? item <;> cases items.mapM read? <;> simp

end VisitorLink.Text
