import VisitorLink.Calendar.Timestamp
import VisitorLink.Text.Blank
import VisitorLink.Text.Decimal

/-!
# Timestamps as text

The written form is `YYYY-MM-DDTHH:MM:SS`, then the fraction of the second in three, six or nine
digits unless it is zero, then `Z`. A year outside 0 to 9999 has a sign.

The reader takes more than that: white space around each part, a space or a small letter for the
`T`, parts of one digit, a fraction of any length of which nine digits count, and an offset from
UTC in hours and minutes, whose sign may be a minus sign proper.
-/

namespace VisitorLink.Rfc3339

open Text

/-! ## Writing -/

/-- The digits of a year: four of them, and a sign where four do not suffice. -/
def writeYear (year : Int) : List Char :=
  if 0 ≤ year ∧ year ≤ 9999 then Decimal.padded 4 year.toNat
  else (if year < 0 then '-' else '+') :: Decimal.padded 4 year.natAbs

/-- The fraction of a second, in thousandths, millionths or milliardths, whichever is exact
first. -/
def writeFraction (nanos : Nat) : List Char :=
  if nanos = 0 then []
  else if nanos % 1000000 = 0 then '.' :: Decimal.padded 3 (nanos / 1000000)
  else if nanos % 1000 = 0 then '.' :: Decimal.padded 6 (nanos / 1000)
  else '.' :: Decimal.padded 9 nanos

/-- The characters of a timestamp. An inserted second is written as the second after the one that it
is inserted behind, which is second 60 at the end of a minute. -/
def writeChars (t : Timestamp) : List Char :=
  let inserted := t.nanosecond / nanosPerSecond
  writeYear t.date.year ++ '-' :: Decimal.padded 2 t.date.month ++ '-' ::
    Decimal.padded 2 t.date.day ++ 'T' :: Decimal.padded 2 (t.second / 3600) ++ ':' ::
    Decimal.padded 2 (t.second / 60 % 60) ++ ':' ::
    Decimal.padded 2 (t.second % 60 + inserted) ++
    writeFraction (t.nanosecond % nanosPerSecond) ++ ['Z']

/-- The text of a timestamp. -/
def write (t : Timestamp) : String :=
  String.ofList (writeChars t)

/-! ## Reading -/

/-- Reads the given character behind white space. -/
def mark? (c : Char) (s : List Char) : Option (List Char) :=
  match trimLeft s with
  | d :: rest => if c = d then some rest else none
  | [] => none

/-- Reads a run of digits, of which there has to be one. -/
def digits? (s : List Char) : Option (Nat × List Char) :=
  let digits := s.takeWhile Char.isDigit
  if digits = [] then none else some (Decimal.value digits, s.dropWhile Char.isDigit)

/-- Reads a run of at most `width` digits, of which there has to be one. -/
def limitedDigits? (width : Nat) (s : List Char) : Option (Nat × List Char) :=
  let digits := (s.take width).takeWhile Char.isDigit
  if digits = [] then none else some (Decimal.value digits, s.drop digits.length)

/-- Reads a number of at most two digits behind white space. -/
def pair? (s : List Char) : Option (Nat × List Char) :=
  limitedDigits? 2 (trimLeft s)

/-- Reads a year: at most four digits, or a sign and any number of digits. -/
def year? (s : List Char) : Option (Int × List Char) :=
  match trimLeft s with
  | '-' :: rest => (digits? rest).map fun (year, rest) => (-(year : Int), rest)
  | '+' :: rest => (digits? rest).map fun (year, rest) => ((year : Int), rest)
  | s => (limitedDigits? 4 s).map fun (year, rest) => ((year : Int), rest)

/-- Reads a date. -/
def date? (s : List Char) : Option (Date × List Char) := do
  let (year, s) ← year? s
  let s ← mark? '-' s
  let (month, s) ← pair? s
  let s ← mark? '-' s
  let (day, s) ← pair? s
  let date ← Date.ofFields? year month day
  return (date, s)

/-- Reads the fraction of a second in nanoseconds. Digits after the ninth are passed over. -/
def fraction? : List Char → Option (Nat × List Char)
  | '.' :: rest =>
      let digits := (rest.take 9).takeWhile Char.isDigit
      if digits = [] then none
      else some (Decimal.value digits * Nat.pow 10 (9 - digits.length), rest.dropWhile Char.isDigit)
  | s => some (0, s)

/-- A time of day as it is written: seconds since midnight, where second 60 counts as second 59,
and nanoseconds, which then are a milliard more. -/
def timeOfDay? (s : List Char) : Option ((Nat × Nat) × List Char) := do
  let (hour, s) ← pair? s
  let s ← mark? ':' s
  let (minute, s) ← pair? s
  let s ← mark? ':' s
  let (second, s) ← pair? s
  let (nanos, s) ← fraction? s
  if hour < 24 ∧ minute < 60 ∧ second ≤ 60 then
    let whole := hour * 3600 + minute * 60
    let time := if second = 60 then (whole + 59, nanosPerSecond + nanos) else (whole + second, nanos)
    return (time, s)
  else none

/-- Reads two digits. -/
def twoDigits? : List Char → Option (Nat × List Char)
  | a :: b :: rest =>
      if a.isDigit ∧ b.isDigit then some (Decimal.value [a, b], rest) else none
  | _ => none

/-- Reads hours and minutes, with any colons and white space between them, as seconds. -/
def hoursMinutes? (s : List Char) : Option (Nat × List Char) := do
  let (hours, s) ← twoDigits? s
  let (minutes, s) ← twoDigits? (s.dropWhile fun c => c == ':' || isBlank c)
  if minutes < 60 then return (hours * 3600 + minutes * 60, s) else none

/-- Reads an offset from UTC in seconds: a `Z`, the name of UTC, or a sign with hours and
minutes. -/
def offset? (s : List Char) : Option (Int × List Char) :=
  match trimLeft s with
  | 'Z' :: rest => some (0, rest)
  | 'z' :: rest => some (0, rest)
  | '+' :: rest => (hoursMinutes? rest).map fun (seconds, rest) => ((seconds : Int), rest)
  | '-' :: rest => (hoursMinutes? rest).map fun (seconds, rest) => (-(seconds : Int), rest)
  | '\u2212' :: rest => (hoursMinutes? rest).map fun (seconds, rest) => (-(seconds : Int), rest)
  | u :: t :: c :: rest =>
      if u.toUpper = 'U' ∧ t.toUpper = 'T' ∧ c.toUpper = 'C' then some (0, rest) else none
  | _ => none

/-- The point in time that a local date and time denote at an offset of less than a day. -/
def atOffset? (date : Date) (second nanos : Nat) (offset : Int) : Option Timestamp := do
  if offset.natAbs < 86400 then
    let shifted := (second : Int) - offset
    let date ←
      if shifted < 0 then date.previous?
      else if 86400 ≤ shifted then date.next?
      else some date
    Timestamp.ofParts? date (shifted % 86400).toNat nanos
  else none

/-- Reads a timestamp. -/
def read? (text : String) : Option Timestamp := do
  let (date, s) ← date? text.toList
  let s ←
    match s with
    | 'T' :: rest => some rest
    | 't' :: rest => some rest
    | ' ' :: rest => some rest
    | _ => none
  let ((second, nanos), s) ← timeOfDay? s
  let (offset, s) ← offset? s
  if trimLeft s = [] then atOffset? date second nanos offset else none

end VisitorLink.Rfc3339
