/-!
# Lists of keys with values

What dropping a key from a list of pairs, and adding a pair at its end, does to looking a key up.
-/

namespace VisitorLink.Pairs

variable {α β : Type} [BEq α] [LawfulBEq α] [DecidableEq α]

/-- The pairs with other keys than the given one. -/
def without {α β : Type} [BEq α] (pairs : List (α × β)) (dropped : α) : List (α × β) :=
  pairs.filter fun pair => pair.1 != dropped

theorem lookup_cons (key name : α) (value : β) (pairs : List (α × β)) :
    ((name, value) :: pairs).lookup key = if key = name then some value else pairs.lookup key := by
  rw [List.lookup_cons]
  by_cases same : key = name
  · simp [same]
  · have unequal : (key == name) = false := beq_eq_false_iff_ne.mpr same
    simp [same, unequal]

/-- Dropping a key leaves nothing under it and keeps the other keys. -/
theorem lookup_without (pairs : List (α × β)) (dropped key : α) :
    (without pairs dropped).lookup key = if key = dropped then none else pairs.lookup key := by
  induction pairs with
  | nil => simp [without]
  | cons pair pairs ih =>
      obtain ⟨name, value⟩ := pair
      rw [without] at ih ⊢
      by_cases gone : name = dropped
      · rw [List.filter_cons_of_neg (by simp [gone]), ih, lookup_cons]
        by_cases same : key = dropped <;> simp [same, gone]
      · rw [List.filter_cons_of_pos (by simp [gone]), lookup_cons, lookup_cons, ih]
        by_cases same : key = name
        · simp [same, gone]
        · simp [same]

/-- A pair at the end counts where its key does not occur before. -/
theorem lookup_without_append (pairs : List (α × β)) (added : α) (value : β) (key : α) :
    (without pairs added ++ [(added, value)]).lookup key =
      if key = added then some value else pairs.lookup key := by
  rw [List.lookup_append, lookup_without, lookup_cons]
  by_cases same : key = added <;> simp [same]

end VisitorLink.Pairs
