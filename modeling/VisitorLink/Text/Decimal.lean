/-!
# Decimal numerals

Whole numbers written in decimal, and the two ways of reading them: `unsigned?` admits a plus
sign, `signed?` a plus or a minus sign. Main statements: the numeral written for a number is read
back as that number (`toNat?_ofNat`, `unsigned?_ofNat`, `signed?_ofInt`).
-/

namespace VisitorLink.Text.Decimal

/-- The decimal digits of a number, most significant first and without a leading zero. -/
def ofNat (n : Nat) : List Char :=
  Nat.toDigits 10 n

/-- The decimal digits of a number, after a minus sign if it is negative. -/
def ofInt : Int → List Char
  | .ofNat n => ofNat n
  | .negSucc n => '-' :: ofNat (n + 1)

/-- The digits of a number, filled up with zeros in front to the given width. -/
def padded (width n : Nat) : List Char :=
  List.replicate (width - (ofNat n).length) '0' ++ ofNat n

/-- The number that a run of decimal digits denotes. -/
def value (digits : List Char) : Nat :=
  Nat.ofDigitChars 10 digits 0

/-- Reads a text that consists of one or more decimal digits. -/
def toNat? (s : List Char) : Option Nat :=
  if s ≠ [] ∧ s.all Char.isDigit then some (value s) else none

/-- Reads a numeral that may start with a plus sign. -/
def unsigned? : List Char → Option Nat
  | '+' :: digits => toNat? digits
  | digits => toNat? digits

/-- Reads a numeral that may start with a plus or a minus sign. -/
def signed? : List Char → Option Int
  | '+' :: digits => (toNat? digits).map Int.ofNat
  | '-' :: digits => (toNat? digits).map fun n => -Int.ofNat n
  | digits => (toNat? digits).map Int.ofNat

theorem ofNat_ne_nil (n : Nat) : ofNat n ≠ [] :=
  Nat.toDigits_ne_nil

theorem isDigit_of_mem_ofNat {n : Nat} {c : Char} (member : c ∈ ofNat n) : c.isDigit = true :=
  Nat.isDigit_of_mem_toDigits (by decide) (by decide) member

theorem value_ofNat (n : Nat) : value (ofNat n) = n :=
  Nat.ofDigitChars_toDigits (by decide) (by decide)

/-- The digits written for a number are read back as that number. -/
theorem toNat?_ofNat (n : Nat) : toNat? (ofNat n) = some n := by
  have digits : (ofNat n).all Char.isDigit = true :=
    List.all_eq_true.mpr fun _ member => isDigit_of_mem_ofNat member
  simp [toNat?, ofNat_ne_nil, digits, value_ofNat]

/-- A numeral starts with a digit, hence with neither sign. -/
theorem ofNat_head (n : Nat) : ∃ c rest, ofNat n = c :: rest ∧ c.isDigit = true := by
  cases shape : ofNat n with
  | nil => exact absurd shape (ofNat_ne_nil n)
  | cons c rest => exact ⟨c, rest, rfl, isDigit_of_mem_ofNat (shape ▸ List.mem_cons_self ..)⟩

theorem unsigned?_ofNat (n : Nat) : unsigned? (ofNat n) = some n := by
  obtain ⟨c, rest, shape, digit⟩ := ofNat_head n
  rw [← toNat?_ofNat n, shape]
  by_cases plus : c = '+'
  · subst plus
    exact absurd digit (by decide)
  · unfold unsigned?
    split
    · simp_all
    · rfl

theorem signed?_ofInt (i : Int) : signed? (ofInt i) = some i := by
  cases i with
  | ofNat n =>
      obtain ⟨c, rest, shape, digit⟩ := ofNat_head n
      have read := toNat?_ofNat n
      rw [shape] at read
      show signed? (ofNat n) = _
      rw [shape]
      unfold signed?
      split
      · rename_i same
        obtain ⟨rfl, -⟩ := List.cons.inj same
        exact absurd digit (by decide)
      · rename_i same
        obtain ⟨rfl, -⟩ := List.cons.inj same
        exact absurd digit (by decide)
      · simp [read]
  | negSucc n =>
      show (toNat? (ofNat (n + 1))).map _ = _
      rw [toNat?_ofNat]
      rfl

end VisitorLink.Text.Decimal
