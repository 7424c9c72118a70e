import VisitorLink.Json.Basic
import VisitorLink.Json.Text

/-!
# Reading JSON documents

A document is one value with white space around it and nothing else. Arrays and objects may be
nested as deep as the document goes; a record is only as deep as its schema, and what it skips need
not be shallow.
-/

namespace VisitorLink.Json

/-- The four characters that may stand between tokens. -/
def isGap (c : Char) : Bool :=
  c == ' ' || c == '\n' || c == '\r' || c == '\t'

/-- The text from its next token on. -/
def skipGap (s : List Char) : List Char :=
  s.dropWhile isGap

/-! ## Numerals -/

/-- Reads the digits before the point: a zero alone, or a run of digits that does not start with
zero. -/
def whole? : List Char → Option (Nat × List Char)
  | '0' :: rest => some (0, rest)
  | s =>
      let digits := s.takeWhile Char.isDigit
      if digits = [] then none else some (Text.Decimal.value digits, s.dropWhile Char.isDigit)

/-- Reads one or more digits. -/
def digits? (s : List Char) : Option (List Char × List Char) :=
  let digits := s.takeWhile Char.isDigit
  if digits = [] then none else some (digits, s.dropWhile Char.isDigit)

/-- Reads the digits behind a point, if there is a point. -/
def fraction? : List Char → Option (Option (List Char) × List Char)
  | '.' :: rest => do
      let (digits, rest) ← digits? rest
      return (some digits, rest)
  | s => some (none, s)

/-- Reads the sign and digits behind an exponent mark. -/
def signedDigits? : List Char → Option (List Char × List Char)
  | '+' :: rest => (digits? rest).map fun (digits, rest) => ('+' :: digits, rest)
  | '-' :: rest => (digits? rest).map fun (digits, rest) => ('-' :: digits, rest)
  | s => digits? s

/-- Reads an exponent, if there is an exponent mark. -/
def exponent? : List Char → Option (Option (List Char) × List Char)
  | 'e' :: rest => (signedDigits? rest).map fun (digits, rest) => (some digits, rest)
  | 'E' :: rest => (signedDigits? rest).map fun (digits, rest) => (some digits, rest)
  | s => some (none, s)

/-- Reads a numeral behind its sign. -/
def magnitude? (negative : Bool) (s : List Char) : Option (Numeral × List Char) := do
  let (whole, s) ← whole? s
  let (fraction, s) ← fraction? s
  let (exponent, s) ← exponent? s
  return (⟨negative, whole, fraction, exponent⟩, s)

/-- Reads a numeral. -/
def numeral? : List Char → Option (Numeral × List Char)
  | '-' :: rest => magnitude? true rest
  | s => magnitude? false s

/-! ## Values -/

mutual

/-- Reads a value that starts at the first character. -/
def value? : (fuel : Nat) → List Char → Option (Json × List Char)
  | 0, _ => none
  | fuel + 1, s =>
      match s with
      | 'n' :: 'u' :: 'l' :: 'l' :: rest => some (.null, rest)
      | 't' :: 'r' :: 'u' :: 'e' :: rest => some (.bool true, rest)
      | 'f' :: 'a' :: 'l' :: 's' :: 'e' :: rest => some (.bool false, rest)
      | '"' :: rest => (Text.read? rest).map fun (text, rest) => (.str text, rest)
      | '[' :: rest =>
          match skipGap rest with
          | ']' :: rest => some (.arr [], rest)
          | rest => (items? fuel rest).map fun (items, rest) => (.arr items, rest)
      | '\x7b' :: rest =>
          match skipGap rest with
          | '\x7d' :: rest => some (.obj [], rest)
          | rest => (members? fuel rest).map fun (members, rest) => (.obj members, rest)
      | s => (numeral? s).map fun (numeral, rest) => (.num numeral, rest)

/-- Reads the items of an array up to its closing bracket; the text starts at the first item. -/
def items? : (fuel : Nat) → List Char → Option (List Json × List Char)
  | 0, _ => none
  | fuel + 1, s => do
      let (item, rest) ← value? fuel s
      match skipGap rest with
      | ',' :: rest =>
          let (items, rest) ← items? fuel (skipGap rest)
          return (item :: items, rest)
      | ']' :: rest => return ([item], rest)
      | _ => none

/-- Reads the members of an object up to its closing brace; the text starts at the first key. -/
def members? : (fuel : Nat) → List Char → Option (List (Option String × Json) × List Char)
  | 0, _ => none
  | fuel + 1, s =>
      match s with
      | '"' :: rest => do
          let (key, rest) ← Text.read? rest
          match skipGap rest with
          | ':' :: rest =>
              let (value, rest) ← value? fuel (skipGap rest)
              match skipGap rest with
              | ',' :: rest =>
                  let (members, rest) ← members? fuel (skipGap rest)
                  return ((key, value) :: members, rest)
              | '\x7d' :: rest => return ([(key, value)], rest)
              | _ => none
          | _ => none
      | _ => none

end

/-- Reads a document. Every second call at least consumes a character, so twice the length of the
document bounds the depth of the recursion. -/
def read? (document : String) : Option Json :=
  let s := skipGap document.toList
  match value? (2 * s.length + 2) s with
  | some (value, rest) => if skipGap rest = [] then some value else none
  | none => none

end VisitorLink.Json
