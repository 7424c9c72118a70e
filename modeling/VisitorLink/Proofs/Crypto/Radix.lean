import Mathlib.Data.List.TakeWhile
import Mathlib.Data.Nat.Digits.Lemmas
import VisitorLink.Crypto.Radix

/-!
# Changing the radix

Digits without a zero in front are the numeral of the number that they denote (`digits_value`). So
a change of the radix that keeps the zeros in front loses nothing.

Main statement: the change is undone by the change back (`rebased_rebased`).
-/

namespace VisitorLink.Radix

variable {base base' : Nat} {ds : List Nat}

/-! ## Numerals -/

theorem value_eq_ofDigits (base : Nat) (ds : List Nat) :
    value base ds = Nat.ofDigits base ds.reverse := by
  rw [Nat.ofDigits_eq_foldr, List.foldr_reverse, value]
  congr
  funext n digit
  rw [Nat.cast_id, Nat.add_comm, Nat.mul_comm]

/-- With enough fuel, the digits are all that there are. -/
theorem digitsOnto_eq (large : 2 ≤ base) (fuel n : Nat) (bound : n < weight 2 fuel)
    (back : List Nat) : digitsOnto base fuel n back = (Nat.digits base n).reverse ++ back := by
  induction fuel generalizing n back with
  | zero =>
      obtain rfl : n = 0 := by simpa [weight] using bound
      rw [Nat.digits_zero]
      rfl
  | succ fuel ih =>
      cases n with
      | zero => rw [Nat.digits_zero]; rfl
      | succ n =>
          have smaller : (n + 1) / base < weight 2 fuel := by
            rw [Nat.div_lt_iff_lt_mul (by omega)]
            exact bound.trans_le (Nat.mul_le_mul_left _ large)
          rw [digitsOnto, ih _ smaller, Nat.digits_of_two_le_of_pos large n.succ_pos,
            List.reverse_cons, List.append_assoc]
          rfl

theorem digits_eq_reverse (large : 2 ≤ base) (n : Nat) :
    digits base n = (Nat.digits base n).reverse := by
  have bound : n < weight 2 (n.log2 + 1) := by
    rw [weight_two]
    exact Nat.lt_log2_self
  rw [digits, digitsOnto_eq large _ _ bound, List.append_nil]

/-- A numeral does not start with a zero. -/
theorem head?_digits_ne_zero (large : 2 ≤ base) (n : Nat) : (digits base n).head? ≠ some 0 := by
  rw [digits_eq_reverse large, List.head?_reverse]
  intro last
  have some : n ≠ 0 := by
    rintro rfl
    rw [Nat.digits_zero] at last
    cases last
  refine Nat.getLast_digit_ne_zero base some ?_
  exact Option.some.inj ((List.getLast?_eq_getLast_of_ne_nil _).symm.trans last)

/-- Digits that do not start with a zero are the numeral of the number that they denote. -/
theorem digits_value (large : 2 ≤ base) (small : ∀ digit ∈ ds, digit < base)
    (first : ds.head? ≠ some 0) : digits base (value base ds) = ds := by
  have last (some : ds.reverse ≠ []) : ds.reverse.getLast some ≠ 0 := by
    intro zero
    refine first ?_
    rw [← List.getLast?_reverse, List.getLast?_eq_getLast_of_ne_nil some, zero]
  rw [digits_eq_reverse large, value_eq_ofDigits,
    Nat.digits_ofDigits base large _ (by simpa using small) last, List.reverse_reverse]

/-- A number has so many digits at most if it is below that power of the base. -/
theorem length_digits_le_iff (large : 2 ≤ base) (n count : Nat) :
    (digits base n).length ≤ count ↔ n < base ^ count := by
  rw [digits_eq_reverse large, List.length_reverse, Nat.digits_length_le_iff large]

/-- Digits denote a number below the power of the base. -/
theorem value_lt (large : 2 ≤ base) (small : ∀ digit ∈ ds, digit < base) :
    value base ds < base ^ ds.length := by
  rw [value_eq_ofDigits, ← List.length_reverse]
  exact Nat.ofDigits_lt_base_pow_length large (by simpa using small)

/-- Zeros in front add nothing to a number. -/
theorem value_dropWhile_zero (base : Nat) (ds : List Nat) :
    value base (ds.dropWhile (· == 0)) = value base ds := by
  induction ds with
  | nil => rfl
  | cons digit ds ih =>
      obtain rfl | other := eq_or_ne digit 0
      · rw [List.dropWhile_cons_of_pos (by rfl), ih, value_cons, Nat.zero_mul, Nat.zero_add]
      · rw [List.dropWhile_cons_of_neg (by simpa using other)]

/-! ## The change -/

/-- The digits in another radix, behind the zeros that were in front. -/
def rebased (base base' : Nat) (ds : List Nat) : List Nat :=
  ds.takeWhile (· == 0) ++ digits base' (value base ds)

theorem isZero_of_mem_takeWhile {digit : Nat} (mem : digit ∈ ds.takeWhile (· == 0)) :
    (digit == 0) = true :=
  List.mem_takeWhile_imp (p := (· == 0)) mem

/-- Digits in a base are below it. -/
theorem lt_of_mem_rebased (positive : 0 < base') :
    ∀ digit ∈ rebased base base' ds, digit < base' := by
  intro digit mem
  rcases List.mem_append.1 mem with zero | mem
  · rw [beq_iff_eq.1 (isZero_of_mem_takeWhile zero)]
    exact positive
  · exact lt_of_mem_digits positive digit mem

/-- A number is written without zeros in front. -/
theorem takeWhile_zero_digits (large : 2 ≤ base) (n : Nat) :
    (digits base n).takeWhile (· == 0) = [] := by
  cases shape : digits base n with
  | nil => rfl
  | cons digit rest =>
      refine List.takeWhile_cons_of_neg fun zero => head?_digits_ne_zero large n ?_
      rw [shape, beq_iff_eq.1 zero]
      rfl

/-- The zeros in front are the same in every base. -/
theorem takeWhile_zero_rebased (large' : 2 ≤ base') (ds : List Nat) :
    (rebased base base' ds).takeWhile (· == 0) = ds.takeWhile (· == 0) := by
  rw [rebased, List.takeWhile_append_of_pos fun _ => isZero_of_mem_takeWhile,
    takeWhile_zero_digits large', List.append_nil]

/-- The value is the same in every base. -/
theorem value_rebased (large' : 2 ≤ base') (ds : List Nat) :
    value base' (rebased base base' ds) = value base ds := by
  have kept := List.takeWhile_append_dropWhile (p := (· == 0))
    (l := digits base' (value base ds))
  rw [takeWhile_zero_digits large', List.nil_append] at kept
  rw [← value_dropWhile_zero, rebased,
    List.dropWhile_append_of_pos fun _ => isZero_of_mem_takeWhile, kept,
    value_digits large']

/-- Changing the radix and back changes nothing. -/
theorem rebased_rebased (large : 2 ≤ base) (large' : 2 ≤ base')
    (small : ∀ digit ∈ ds, digit < base) : rebased base' base (rebased base base' ds) = ds := by
  have first : (ds.dropWhile (· == 0)).head? ≠ some 0 := by
    intro zero
    have stops := List.head?_dropWhile_not (· == 0) ds
    rw [zero] at stops
    exact Bool.noConfusion stops
  have rest : digits base (value base ds) = ds.dropWhile (· == 0) := by
    rw [← value_dropWhile_zero]
    exact digits_value large
      (fun digit mem => small digit ((List.dropWhile_sublist _).subset mem)) first
  rw [rebased, takeWhile_zero_rebased large', value_rebased large', rest,
    List.takeWhile_append_dropWhile]

/-- Where a digit takes at most `count` digits of the other radix, so does each of several. -/
theorem length_rebased_le {count : Nat} (large : 2 ≤ base) (large' : 2 ≤ base')
    (some : 0 < count) (fits : base ≤ base' ^ count) (small : ∀ digit ∈ ds, digit < base) :
    (rebased base base' ds).length ≤ count * ds.length := by
  let zeros := ds.takeWhile (· == 0)
  let rest := ds.dropWhile (· == 0)
  have split : zeros.length + rest.length = ds.length := by
    rw [← List.length_append, List.takeWhile_append_dropWhile]
  have below : value base ds < base' ^ (count * rest.length) := by
    rw [← value_dropWhile_zero, Nat.pow_mul]
    refine (value_lt large fun digit mem => ?_).trans_le (Nat.pow_le_pow_left fits _)
    exact small digit ((List.dropWhile_sublist _).subset mem)
  calc (rebased base base' ds).length
      = zeros.length + (digits base' (value base ds)).length := List.length_append
    _ ≤ count * zeros.length + count * rest.length :=
        Nat.add_le_add (Nat.le_mul_of_pos_left _ some) ((length_digits_le_iff large' _ _).2 below)
    _ = count * ds.length := by rw [← Nat.mul_add, split]

end VisitorLink.Radix
