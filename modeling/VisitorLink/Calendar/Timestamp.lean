/-!
# Points in time

A timestamp is a date of the proleptic Gregorian calendar and a time of day in UTC, to the
nanosecond. A nanosecond count of one milliard or more stands for a second that is inserted behind
the one given, which a clock does at the end of a minute only. Timestamps are ordered by `rank`, and
two timestamps of one rank are equal (`Timestamp.rank_injective`).
-/

namespace VisitorLink

/-- The first and the last year that a date may lie in. -/
def Date.firstYear : Int := -262143

/-- The last year that a date may lie in. -/
def Date.lastYear : Int := 262142

/-- Whether the year has a 29th of February. -/
def Date.isLeapYear (year : Int) : Bool :=
  year % 4 = 0 && (year % 100 ≠ 0 || year % 400 = 0)

/-- The number of days of a month of a year. -/
def Date.daysIn (year : Int) (month : Nat) : Nat :=
  if month = 2 then if isLeapYear year then 29 else 28
  else if month = 4 ∨ month = 6 ∨ month = 9 ∨ month = 11 then 30
  else 31

/-- A day of the calendar. -/
structure Date where
  year : Int
  month : Nat
  day : Nat
  year_range : Date.firstYear ≤ year ∧ year ≤ Date.lastYear
  month_range : 1 ≤ month ∧ month ≤ 12
  day_range : 1 ≤ day ∧ day ≤ Date.daysIn year month
deriving DecidableEq

namespace Date

/-- The day with the given numbers, if there is one. -/
def ofFields? (year : Int) (month day : Nat) : Option Date :=
  if h : (firstYear ≤ year ∧ year ≤ lastYear) ∧ (1 ≤ month ∧ month ≤ 12) ∧
      1 ≤ day ∧ day ≤ daysIn year month then
    some ⟨year, month, day, h.1, h.2.1, h.2.2⟩
  else none

/-- The next day, if it lies in the calendar's years. -/
def next? (date : Date) : Option Date :=
  (ofFields? date.year date.month (date.day + 1)).or
    ((ofFields? date.year (date.month + 1) 1).or (ofFields? (date.year + 1) 1 1))

/-- The day before, if it lies in the calendar's years. -/
def previous? (date : Date) : Option Date :=
  (ofFields? date.year date.month (date.day - 1)).or
    ((ofFields? date.year (date.month - 1) (daysIn date.year (date.month - 1))).or
      (ofFields? (date.year - 1) 12 31))

theorem ofFields?_self (date : Date) : ofFields? date.year date.month date.day = some date := by
  simp [ofFields?, date.year_range, date.month_range, date.day_range]

/-- No month has more than 31 days. -/
theorem day_lt (date : Date) : date.day < 32 := by
  have bound := date.day_range.2
  unfold daysIn at bound
  split at bound
  · split at bound <;> omega
  · split at bound <;> omega

end Date

/-- The number of nanoseconds in a second. -/
def nanosPerSecond : Nat := 1000000000

/-- A point in time. -/
structure Timestamp where
  date : Date
  /-- Seconds since midnight. -/
  second : Nat
  nanosecond : Nat
  second_range : second < 86400
  nanosecond_range : nanosecond < 2 * nanosPerSecond
deriving DecidableEq

namespace Timestamp

/-- The timestamp with the given parts, if there is one. -/
def ofParts? (date : Date) (second nanosecond : Nat) : Option Timestamp :=
  if h : second < 86400 ∧ nanosecond < 2 * nanosPerSecond then
    some ⟨date, second, nanosecond, h.1, h.2⟩
  else none

/-- A number that grows with time. -/
def rank (t : Timestamp) : Int :=
  ((((t.date.year * 13 + t.date.month) * 32 + t.date.day) * 86400 + t.second) *
    (2 * nanosPerSecond : Nat)) + t.nanosecond

theorem ofParts?_self (t : Timestamp) : ofParts? t.date t.second t.nanosecond = some t :=
  dif_pos ⟨t.second_range, t.nanosecond_range⟩

/-- Different timestamps have different ranks. -/
theorem rank_injective {s t : Timestamp} (same : s.rank = t.rank) : s = t := by
  obtain ⟨⟨sy, sm, sd, syr, smr, sdr⟩, ss, sn, ssr, snr⟩ := s
  obtain ⟨⟨ty, tm, td, tyr, tmr, tdr⟩, ts, tn, tsr, tnr⟩ := t
  have sday := Date.day_lt ⟨sy, sm, sd, syr, smr, sdr⟩
  have tday := Date.day_lt ⟨ty, tm, td, tyr, tmr, tdr⟩
  simp only [rank, nanosPerSecond] at same snr tnr sday tday
  have parts : sy = ty ∧ sm = tm ∧ sd = td ∧ ss = ts ∧ sn = tn := by omega
  obtain ⟨rfl, rfl, rfl, rfl, rfl⟩ := parts
  rfl

end Timestamp

end VisitorLink
