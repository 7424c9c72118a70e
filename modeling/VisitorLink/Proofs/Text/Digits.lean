import Mathlib.Algebra.Group.Nat.Defs
import Mathlib.Data.List.TakeWhile
import VisitorLink.Text.Blank
import VisitorLink.Text.Decimal

/-!
# Runs of digits

A run of digits ends where something else follows it, and reading it gives the number that it was
written for, also if it was filled up with zeros (`Text.Decimal.value_padded`).
-/

namespace VisitorLink.Text.Decimal

/-- The numeral of a positive number starts with a digit other than zero. -/
theorem head_ofNat_ne_zero {n : Nat} (positive : 0 < n) {c : Char} {digits : List Char}
    (shape : ofNat n = c :: digits) : c ≠ '0' := by
  induction n using Nat.strong_induction_on generalizing c digits with
  | _ n ih =>
      unfold ofNat at shape
      by_cases small : n < 10
      · rw [Nat.toDigits_of_lt_base small] at shape
        obtain ⟨rfl, -⟩ := List.cons.inj shape
        have table : ∀ m : Fin 10, 0 < m.val → Nat.digitChar m.val ≠ '0' := by decide
        exact table ⟨n, small⟩ positive
      · rw [Nat.toDigits_of_base_le (by decide) (Nat.le_of_not_lt small)] at shape
        obtain ⟨d, front, front_eq, -⟩ := ofNat_head (n / 10)
        change ofNat (n / 10) ++ _ = _ at shape
        rw [front_eq] at shape
        obtain ⟨rfl, -⟩ := List.cons.inj shape
        exact ih (n / 10) (Nat.div_lt_self positive (by decide))
          (Nat.div_pos (Nat.le_of_not_lt small) (by decide)) front_eq

/-- The digits of a text are all taken, up to what follows. -/
theorem takeWhile_digits {digits rest : List Char} (all : ∀ c ∈ digits, c.isDigit = true)
    (ends : ∀ c ∈ rest.head?, c.isDigit = false) :
    (digits ++ rest).takeWhile Char.isDigit = digits := by
  rw [List.takeWhile_append_of_pos all]
  cases rest with
  | nil => exact List.append_nil _
  | cons c rest =>
      rw [List.takeWhile_cons_of_neg (Bool.eq_false_iff.1 (ends c rfl)), List.append_nil]

/-- What is left is what follows. -/
theorem dropWhile_digits {digits rest : List Char} (all : ∀ c ∈ digits, c.isDigit = true)
    (ends : ∀ c ∈ rest.head?, c.isDigit = false) :
    (digits ++ rest).dropWhile Char.isDigit = rest := by
  rw [List.dropWhile_append_of_pos all]
  cases rest with
  | nil => rfl
  | cons c rest => exact List.dropWhile_cons_of_neg (Bool.eq_false_iff.1 (ends c rfl))

theorem not_isBlank_of_isDigit {c : Char} (digit : c.isDigit = true) : isBlank c = false := by
  simp only [Char.isDigit, Bool.and_eq_true, decide_eq_true_eq] at digit
  have low : 48 ≤ c.val.toNat := digit.1
  have high : c.val.toNat ≤ 57 := digit.2
  simp only [isBlank, Bool.or_eq_false_iff, Bool.and_eq_false_iff, decide_eq_false_iff_not,
    beq_eq_false_iff_ne, ne_eq, UInt32.le_iff_toNat_le, ← UInt32.toNat_inj, UInt32.reduceToNat]
  omega

/-! ## Numerals of a fixed width -/

/-- Padding adds digits only. -/
theorem isDigit_of_mem_padded {width n : Nat} {c : Char} (member : c ∈ padded width n) :
    c.isDigit = true := by
  rcases List.mem_append.1 member with zero | digit
  · rw [List.eq_of_mem_replicate zero]
    rfl
  · exact isDigit_of_mem_ofNat digit

/-- Padding does not change the value. -/
theorem value_padded (width n : Nat) : value (padded width n) = n := by
  have zeros : ∀ count rest,
      value (List.replicate count '0' ++ rest) = value rest := by
    intro count rest
    induction count with
    | zero => rfl
    | succ count ih => exact ih
  exact (zeros _ _).trans (value_ofNat n)

/-- A number that fits is padded to the width. -/
theorem length_padded {width n : Nat} (positive : 0 < width) (fits : n < 10 ^ width) :
    (padded width n).length = width := by
  have short : (ofNat n).length ≤ width :=
    (Nat.length_toDigits_le_iff (by decide) positive).2 fits
  simp only [padded, List.length_append, List.length_replicate]
  omega

/-- A padded number starts with a digit. -/
theorem padded_head (width n : Nat) :
    ∃ c rest, padded width n = c :: rest ∧ c.isDigit = true := by
  cases shape : padded width n with
  | nil => exact absurd (List.append_eq_nil_iff.1 shape).2 (ofNat_ne_nil n)
  | cons c rest => exact ⟨c, rest, rfl, isDigit_of_mem_padded (shape ▸ List.mem_cons_self ..)⟩

/-- There is nothing to trim in front of a padded number. -/
theorem trimLeft_padded (width n : Nat) (rest : List Char) :
    trimLeft (padded width n ++ rest) = padded width n ++ rest := by
  obtain ⟨c, front, shape, digit⟩ := padded_head width n
  rw [shape]
  exact trimLeft_cons_of_not_blank _ (not_isBlank_of_isDigit digit)

end VisitorLink.Text.Decimal
