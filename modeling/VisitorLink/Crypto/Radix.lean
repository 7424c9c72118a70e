/-!
# Digits in a radix

The digits of a number in any radix, most significant first, and the number that digits denote.
Main statement: the digits of a number denote it (`value_digits`).
-/

namespace VisitorLink.Radix

/-- The number that digits denote, most significant first. -/
def value (base : Nat) (digits : List Nat) : Nat :=
  digits.foldl (fun n digit => n * base + digit) 0

/-- The digits of a number in front of given ones, where `fuel` is at least their count. -/
def digitsOnto (base : Nat) : (fuel n : Nat) → List Nat → List Nat
  | 0, _, digits => digits
  | _, 0, digits => digits
  | fuel + 1, n + 1, digits =>
      digitsOnto base fuel ((n + 1) / base) ((n + 1) % base :: digits)

/-- The digits of a number, most significant first and without a leading zero. In a radix of two or
more a number has no more digits than bits. -/
def digits (base n : Nat) : List Nat :=
  digitsOnto base (n.log2 + 1) n []

/-- The weight of the digit that so many digits follow. -/
def weight (base : Nat) : (count : Nat) → Nat
  | 0 => 1
  | count + 1 => weight base count * base

theorem foldl_add (base : Nat) (digits : List Nat) (start : Nat) :
    digits.foldl (fun n digit => n * base + digit) start =
      start * weight base digits.length + value base digits := by
  induction digits generalizing start with
  | nil => simp [value, weight]
  | cons digit digits ih =>
      have first := ih (start * base + digit)
      have zero := ih (0 * base + digit)
      simp only [value, List.foldl_cons, List.length_cons] at first zero ⊢
      rw [first, zero, weight, Nat.add_mul, Nat.zero_mul, Nat.zero_add, Nat.mul_assoc,
        Nat.mul_comm base, Nat.add_assoc]

theorem value_cons (base digit : Nat) (digits : List Nat) :
    value base (digit :: digits) = digit * weight base digits.length + value base digits := by
  have split := foldl_add base digits (0 * base + digit)
  rw [Nat.zero_mul, Nat.zero_add] at split
  rw [value, List.foldl_cons, Nat.zero_mul, Nat.zero_add]
  exact split

theorem value_digitsOnto {base : Nat} (large : 2 ≤ base) (fuel n : Nat)
    (bound : n < weight 2 fuel) (back : List Nat) :
    value base (digitsOnto base fuel n back) = n * weight base back.length + value base back := by
  induction fuel generalizing n back with
  | zero =>
      obtain rfl : n = 0 := by simpa [weight] using bound
      simp [digitsOnto]
  | succ fuel ih =>
      cases n with
      | zero => simp [digitsOnto]
      | succ n =>
          have smaller : (n + 1) / base < weight 2 fuel := by
            rw [Nat.div_lt_iff_lt_mul (by omega)]
            calc n + 1 < weight 2 fuel * 2 := bound
              _ ≤ weight 2 fuel * base := Nat.mul_le_mul_left _ large
          rw [digitsOnto, ih _ smaller, value_cons, List.length_cons, weight,
            Nat.mul_comm (weight base back.length) base, ← Nat.mul_assoc, ← Nat.add_assoc,
            ← Nat.add_mul, Nat.mul_comm ((n + 1) / base) base, Nat.div_add_mod]

theorem weight_two (count : Nat) : weight 2 count = Nat.pow 2 count := by
  induction count with
  | zero => rfl
  | succ count ih => rw [weight, ih]; rfl

/-- The digits of a number denote it. -/
theorem value_digits {base : Nat} (large : 2 ≤ base) (n : Nat) : value base (digits base n) = n := by
  have bound : n < weight 2 (n.log2 + 1) := by
    rw [weight_two]
    exact Nat.lt_log2_self
  rw [digits, value_digitsOnto large _ _ bound]
  simp [value, weight]

theorem lt_of_mem_digitsOnto {base : Nat} (positive : 0 < base) (fuel n : Nat) {back : List Nat}
    (small : ∀ digit ∈ back, digit < base) :
    ∀ digit ∈ digitsOnto base fuel n back, digit < base := by
  induction fuel generalizing n back with
  | zero => simpa [digitsOnto] using small
  | succ fuel ih =>
      cases n with
      | zero => simpa [digitsOnto] using small
      | succ n =>
          rw [digitsOnto]
          refine ih _ fun digit member => ?_
          rcases List.mem_cons.mp member with rfl | member
          · exact Nat.mod_lt _ positive
          · exact small digit member

/-- A digit is smaller than the radix. -/
theorem lt_of_mem_digits {base n : Nat} (positive : 0 < base) :
    ∀ digit ∈ digits base n, digit < base :=
  lt_of_mem_digitsOnto positive _ _ (by simp)

/-! ## Bytes -/

/-- The number that bytes denote, most significant first. -/
def ofBytes (bytes : List UInt8) : Nat :=
  value 256 (bytes.map UInt8.toNat)

/-- The bytes of a number, most significant first and without a leading zero. -/
def toBytes (n : Nat) : List UInt8 :=
  (digits 256 n).map UInt8.ofNat

/-- The lowest `width` bytes of a number, least significant first. -/
def toBytesLittle : (width n : Nat) → List UInt8
  | 0, _ => []
  | width + 1, n => UInt8.ofNat n :: toBytesLittle width (n / 256)

/-- The number that bytes denote, least significant first. -/
def ofBytesLittle (bytes : List UInt8) : Nat :=
  ofBytes bytes.reverse

theorem length_toBytesLittle (width n : Nat) : (toBytesLittle width n).length = width := by
  induction width generalizing n with
  | zero => rfl
  | succ width ih => simp [toBytesLittle, ih]

theorem ofBytes_toBytes (n : Nat) : ofBytes (toBytes n) = n := by
  have same : (digits 256 n).map (fun digit => (UInt8.ofNat digit).toNat) = digits 256 n := by
    rw [List.map_congr_left (g := id), List.map_id]
    intro digit member
    have small := lt_of_mem_digits (by decide) digit member
    simp only [UInt8.toNat_ofNat', id]
    omega
  rw [ofBytes, toBytes, List.map_map]
  simp only [Function.comp_def, same]
  exact value_digits (by decide) n

end VisitorLink.Radix
