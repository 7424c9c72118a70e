import VisitorLink.Calendar.Rfc3339
import VisitorLink.Proofs.Text.Digits

/-!
# Timestamps read back

Each part of the written form is read back in front of whatever follows it, from the year, with or
without a sign, to the fraction of the second, which has the digits that it needs.

A second that is inserted where no clock inserts one is written like the second after it, and no
reader can tell the two apart.

Main statements: from its text a timestamp is read back, or the second after it where none can be
inserted (`Rfc3339.read?_write`). What is read is the timestamp itself exactly if a clock can show
it (`Timestamp.told_eq_self_iff`).
-/

namespace VisitorLink

/-! ## What a clock shows -/

namespace Timestamp

/-- That a clock can show the time: a second is inserted at the end of a minute only. -/
def IsClockTime (t : Timestamp) : Prop :=
  nanosPerSecond ≤ t.nanosecond → t.second % 60 = 59

instance (t : Timestamp) : Decidable t.IsClockTime :=
  inferInstanceAs (Decidable (_ → _))

/-- The time that a clock shows for a timestamp. -/
def told (t : Timestamp) : Timestamp :=
  if clock : t.IsClockTime then t
  else
    { date := t.date
      second := t.second + 1
      nanosecond := t.nanosecond - nanosPerSecond
      second_range := by
        have day := t.second_range
        unfold IsClockTime at clock
        omega
      nanosecond_range := Nat.lt_of_le_of_lt (Nat.sub_le _ _) t.nanosecond_range }

/-- A clock shows the time itself exactly where it can. -/
theorem told_eq_self_iff {t : Timestamp} : t.told = t ↔ t.IsClockTime := by
  refine ⟨fun same => ?_, fun clock => dif_pos clock⟩
  by_contra unshown
  have later : t.told.second = t.second + 1 := by
    unfold told
    rw [dif_neg unshown]
  rw [same] at later
  omega

/-- A clock shows the date as it is. -/
theorem told_date (t : Timestamp) : t.told.date = t.date := by
  unfold told
  split <;> rfl

/-- What a clock shows, by the second within the minute and the seconds inserted behind it. -/
theorem told_parts (t : Timestamp) :
    (t.told.second, t.told.nanosecond) =
      if t.second % 60 + t.nanosecond / nanosPerSecond = 60 then (t.second, t.nanosecond)
      else (t.second + t.nanosecond / nanosPerSecond, t.nanosecond % nanosPerSecond) := by
  have range := t.nanosecond_range
  unfold told
  by_cases clock : t.IsClockTime
  · rw [dif_pos clock]
    unfold IsClockTime at clock
    unfold nanosPerSecond at range clock ⊢
    split
    · rfl
    · have ordinary : t.nanosecond < 1000000000 := by omega
      rw [Nat.div_eq_of_lt ordinary, Nat.mod_eq_of_lt ordinary, Nat.add_zero]
  · rw [dif_neg clock]
    unfold IsClockTime at clock
    unfold nanosPerSecond at range clock ⊢
    have behind : t.nanosecond / 1000000000 = 1 := by omega
    rw [behind, if_neg (by omega), Nat.mod_eq_sub_mod (by omega), Nat.mod_eq_of_lt (by omega)]

end Timestamp

namespace Rfc3339

open Text

/-! ## Parts -/

theorem mark?_cons {c : Char} (solid : isBlank c = false) (rest : List Char) :
    mark? c (c :: rest) = some rest := by
  unfold mark?
  rw [trimLeft_cons_of_not_blank rest solid]
  exact if_pos rfl

/-- Digits of a fixed width are read back. -/
theorem limitedDigits?_padded {width n : Nat} (positive : 0 < width) (fits : n < 10 ^ width)
    (rest : List Char) :
    limitedDigits? width (Decimal.padded width n ++ rest) = some (n, rest) := by
  have length := Decimal.length_padded positive fits
  have digits : ((Decimal.padded width n ++ rest).take width).takeWhile Char.isDigit =
      Decimal.padded width n := by
    rw [List.take_left' length]
    exact List.takeWhile_eq_self_iff.2 fun c => Decimal.isDigit_of_mem_padded
  have some_digit : Decimal.padded width n ≠ [] := by
    rw [ne_eq, ← List.length_eq_zero_iff, length]
    exact Nat.ne_of_gt positive
  unfold limitedDigits?
  simp only [digits, if_neg some_digit, Decimal.value_padded, List.drop_left]

/-- Two digits are read back. -/
theorem pair?_padded {n : Nat} (fits : n < 100) (rest : List Char) :
    pair? (Decimal.padded 2 n ++ rest) = some (n, rest) := by
  unfold pair?
  rw [Decimal.trimLeft_padded]
  exact limitedDigits?_padded (by decide) fits rest

/-- Padded digits are read back, up to what follows. -/
theorem digits?_padded (width n : Nat) {rest : List Char}
    (ends : ∀ c ∈ rest.head?, c.isDigit = false) :
    digits? (Decimal.padded width n ++ rest) = some (n, rest) := by
  have all : ∀ c ∈ Decimal.padded width n, c.isDigit = true :=
    fun _ => Decimal.isDigit_of_mem_padded
  have some_digit : Decimal.padded width n ≠ [] := by
    obtain ⟨c, front, shape, -⟩ := Decimal.padded_head width n
    rw [shape]
    exact List.cons_ne_nil c front
  unfold digits?
  simp only [Decimal.takeWhile_digits all ends, Decimal.dropWhile_digits all ends,
    if_neg some_digit, Decimal.value_padded]

/-! ## Dates -/

/-- A year is read back, with a sign where it has one. -/
theorem year?_writeYear (year : Int) {rest : List Char}
    (ends : ∀ c ∈ rest.head?, c.isDigit = false) :
    year? (writeYear year ++ rest) = some (year, rest) := by
  unfold writeYear
  split
  case isTrue ordinary =>
    obtain ⟨c, front, shape, digit⟩ := Decimal.padded_head 4 year.toNat
    have reads : limitedDigits? 4 (Decimal.padded 4 year.toNat ++ rest) =
        some (year.toNat, rest) := limitedDigits?_padded (by decide) (by omega) rest
    have starts := Decimal.trimLeft_padded 4 year.toNat rest
    unfold year?
    rw [starts]
    rw [shape, List.cons_append] at reads ⊢
    split
    · rename_i same
      obtain ⟨rfl, -⟩ := List.cons.inj same
      exact absurd digit (by decide)
    · rename_i same
      obtain ⟨rfl, -⟩ := List.cons.inj same
      exact absurd digit (by decide)
    · rw [reads]
      exact congrArg (fun year => some (year, rest)) (Int.toNat_of_nonneg ordinary.1)
  case isFalse signed =>
    have reads := digits?_padded 4 year.natAbs ends
    by_cases negative : year < 0
    · rw [if_pos negative]
      change Option.map _ (digits? (Decimal.padded 4 year.natAbs ++ rest)) = _
      rw [reads]
      have value : -(year.natAbs : Int) = year := by omega
      exact congrArg (fun year => some (year, rest)) value
    · rw [if_neg negative]
      change Option.map _ (digits? (Decimal.padded 4 year.natAbs ++ rest)) = _
      rw [reads]
      have value : (year.natAbs : Int) = year := by omega
      exact congrArg (fun year => some (year, rest)) value

/-- A date is read back. -/
theorem date?_write (date : Date) (rest : List Char) :
    date? (writeYear date.year ++ '-' :: (Decimal.padded 2 date.month ++
        '-' :: (Decimal.padded 2 date.day ++ rest))) = some (date, rest) := by
  have month : date.month < 100 := by
    have := date.month_range.2
    omega
  have day : date.day < 100 := by
    have := date.day_lt
    omega
  have ends : ∀ tail : List Char, ∀ c ∈ ('-' :: tail).head?, c.isDigit = false := by
    rintro tail c ⟨⟩
    rfl
  unfold date?
  simp only [year?_writeYear _ (ends _), mark?_cons (c := '-') rfl, pair?_padded month,
    pair?_padded day, Date.ofFields?_self, Option.bind_eq_bind, Option.bind_some, Option.pure_def]

/-! ## Times of day -/

/-- A fraction of the second is read back from as many digits as are written for it. -/
theorem fraction?_padded {width n : Nat} (positive : 0 < width) (short : width ≤ 9)
    (fits : n < 10 ^ width) (rest : List Char) :
    fraction? ('.' :: (Decimal.padded width n ++ 'Z' :: rest)) =
      some (n * 10 ^ (9 - width), 'Z' :: rest) := by
  have length := Decimal.length_padded positive fits
  have all : ∀ c ∈ Decimal.padded width n, c.isDigit = true :=
    fun _ => Decimal.isDigit_of_mem_padded
  have ends : ∀ count, ∀ c ∈ (('Z' :: rest).take count).head?, c.isDigit = false := by
    intro count c member
    cases count with
    | zero => cases member
    | succ count =>
        cases member
        rfl
  have digits : ((Decimal.padded width n ++ 'Z' :: rest).take 9).takeWhile Char.isDigit =
      Decimal.padded width n := by
    rw [List.take_append, List.take_of_length_le (by omega), length]
    exact Decimal.takeWhile_digits all (ends _)
  have left : (Decimal.padded width n ++ 'Z' :: rest).dropWhile Char.isDigit = 'Z' :: rest :=
    Decimal.dropWhile_digits all (by rintro c ⟨⟩; rfl)
  have some_digit : Decimal.padded width n ≠ [] := by
    rw [ne_eq, ← List.length_eq_zero_iff, length]
    exact Nat.ne_of_gt positive
  unfold fraction?
  simp only [digits, left, if_neg some_digit, Decimal.value_padded, length]
  rfl

/-- The fraction of a second is read back. -/
theorem fraction?_writeFraction {nanos : Nat} (small : nanos < nanosPerSecond) (rest : List Char) :
    fraction? (writeFraction nanos ++ 'Z' :: rest) = some (nanos, 'Z' :: rest) := by
  unfold nanosPerSecond at small
  unfold writeFraction
  split
  · subst nanos
    rfl
  · split
    · rw [List.cons_append, fraction?_padded (by decide) (by decide) (by omega)]
      congr 2
      omega
    · split
      · rw [List.cons_append, fraction?_padded (by decide) (by decide) (by omega)]
        congr 2
        omega
      · rw [List.cons_append, fraction?_padded (by decide) (by decide) (by omega)]
        congr 2
        omega

/-- The time of a day is read as a clock shows it, and second 60 as the end of an inserted
second. -/
theorem timeOfDay?_write (t : Timestamp) (rest : List Char) :
    timeOfDay? (Decimal.padded 2 (t.second / 3600) ++ ':' ::
        (Decimal.padded 2 (t.second / 60 % 60) ++ ':' ::
          (Decimal.padded 2 (t.second % 60 + t.nanosecond / nanosPerSecond) ++
            (writeFraction (t.nanosecond % nanosPerSecond) ++ 'Z' :: rest)))) =
      some ((t.told.second, t.told.nanosecond), 'Z' :: rest) := by
  have day := t.second_range
  have range := t.nanosecond_range
  have hour : t.second / 3600 < 24 := by omega
  have second : t.second % 60 + t.nanosecond / nanosPerSecond ≤ 60 := by
    unfold nanosPerSecond at range ⊢
    omega
  have fraction := fraction?_writeFraction
    (Nat.mod_lt t.nanosecond (show 0 < nanosPerSecond by decide)) rest
  have valid : t.second / 3600 < 24 ∧ t.second / 60 % 60 < 60 ∧
      t.second % 60 + t.nanosecond / nanosPerSecond ≤ 60 :=
    ⟨hour, Nat.mod_lt _ (by decide), second⟩
  unfold timeOfDay?
  simp only [pair?_padded (show t.second / 3600 < 100 by omega), mark?_cons (c := ':') rfl,
    pair?_padded (show t.second / 60 % 60 < 100 by omega),
    pair?_padded (Nat.lt_of_le_of_lt second (by decide)), fraction, if_pos valid,
    Option.bind_eq_bind, Option.bind_some, Option.pure_def, Option.some.injEq, Prod.mk.injEq,
    and_true]
  rw [t.told_parts]
  unfold nanosPerSecond at range ⊢
  split
  · refine Prod.ext ?_ ?_ <;> simp only <;> omega
  · refine Prod.ext ?_ rfl
    simp only
    omega

/-! ## Timestamps -/

/-- Without an offset, a time is read as it is written. -/
theorem atOffset?_zero (t : Timestamp) :
    atOffset? t.date t.second t.nanosecond 0 = some t := by
  have day := t.second_range
  have same : (((t.second : Int) - 0) % 86400).toNat = t.second := by omega
  unfold atOffset?
  simp only [same, show ¬ ((t.second : Int) - 0 < 0) by omega,
    show ¬ (86400 ≤ (t.second : Int) - 0) by omega, Int.natAbs_zero, ↓reduceIte,
    show 0 < 86400 by decide, Option.bind_eq_bind, Option.bind_some]
  exact t.ofParts?_self

/-- A time is written field by field. -/
theorem writeChars_eq (t : Timestamp) :
    writeChars t = writeYear t.date.year ++ '-' :: (Decimal.padded 2 t.date.month ++
      '-' :: (Decimal.padded 2 t.date.day ++ 'T' :: (Decimal.padded 2 (t.second / 3600) ++ ':' ::
        (Decimal.padded 2 (t.second / 60 % 60) ++ ':' ::
          (Decimal.padded 2 (t.second % 60 + t.nanosecond / nanosPerSecond) ++
            (writeFraction (t.nanosecond % nanosPerSecond) ++ ['Z'])))))) := by
  simp only [writeChars, List.append_assoc, List.cons_append]

/-- From the text of a timestamp the time is read that a clock shows. -/
theorem read?_write (t : Timestamp) : read? (write t) = some t.told := by
  unfold read? write
  rw [String.toList_ofList, writeChars_eq, date?_write]
  simp only [Option.bind_eq_bind, Option.bind_some, timeOfDay?_write]
  rw [← t.told_date]
  exact atOffset?_zero t.told

end Rfc3339

end VisitorLink
