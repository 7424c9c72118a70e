/-!
# Universally unique identifiers

An identifier is 32 hexadecimal digits. `Uuid.read?` takes the four usual spellings: the digits
alone, the digits in groups with hyphens between them, and the hyphenated form in braces or behind
`urn:uuid:`. Which spelling it has to be is decided by the number of bytes.
-/

namespace VisitorLink

/-- An identifier by its hexadecimal digits, most significant first. -/
structure Uuid where
  digits : List (Fin 16)
  digits_length : digits.length = 32
deriving DecidableEq

namespace Uuid

/-- The value of a byte that is a hexadecimal digit of either case. -/
def hexValue? (byte : UInt8) : Option (Fin 16) :=
  let n := byte.toNat
  if 48 ≤ n ∧ n ≤ 57 then some (Fin.ofNat 16 (n - 48))
  else if 97 ≤ n ∧ n ≤ 102 then some (Fin.ofNat 16 (n - 97 + 10))
  else if 65 ≤ n ∧ n ≤ 70 then some (Fin.ofNat 16 (n - 65 + 10))
  else none

/-- Reads 32 digits. -/
def ofSimple? (bytes : List UInt8) : Option Uuid := do
  let digits ← bytes.mapM hexValue?
  if h : digits.length = 32 then some ⟨digits, h⟩ else none

/-- Reads digits in groups of 8, 4, 4, 4 and 12 with a hyphen between two groups. -/
def ofHyphenated? (bytes : List UInt8) : Option Uuid :=
  let hyphen : UInt8 := 45
  if bytes.length = 36 ∧ bytes[8]? = some hyphen ∧ bytes[13]? = some hyphen ∧
      bytes[18]? = some hyphen ∧ bytes[23]? = some hyphen then
    ofSimple? (bytes.take 8 ++ (bytes.drop 9).take 4 ++ (bytes.drop 14).take 4 ++
      (bytes.drop 19).take 4 ++ bytes.drop 24)
  else none

/-- The bytes in front of the hyphenated form of a uniform resource name. -/
def urnHead : List UInt8 :=
  "urn:uuid:".toUTF8.data.toList

/-- Reads an identifier in any of its four spellings. -/
def read? (s : String) : Option Uuid :=
  let bytes := s.toUTF8.data.toList
  match bytes.length with
  | 32 => ofSimple? bytes
  | 36 => ofHyphenated? bytes
  | 38 =>
      if bytes.head? = some 123 ∧ bytes.getLast? = some 125 then
        ofHyphenated? (bytes.drop 1).dropLast
      else none
  | 45 => if bytes.take 9 = urnHead then ofHyphenated? (bytes.drop 9) else none
  | _ => none

/-- The version of an identifier, which is its thirteenth digit. -/
def version (id : Uuid) : Nat :=
  (id.digits[12]?.getD 0).val

/-- The hyphenated form in small letters. -/
def hyphenated (id : Uuid) : String :=
  let chars := id.digits.map fun digit => Nat.digitChar digit.val
  String.ofList (chars.take 8 ++ '-' :: (chars.drop 8).take 4 ++ '-' :: (chars.drop 12).take 4 ++
    '-' :: (chars.drop 16).take 4 ++ '-' :: chars.drop 20)

/-- The random identifier that sixteen random bytes give: the version becomes four, and the next
group starts with one of the digits eight to eleven. -/
def ofRandom (bytes : Vector UInt8 16) : Uuid :=
  let digits := bytes.toList.flatMap fun byte =>
    [Fin.ofNat 16 (byte.toNat / 16), Fin.ofNat 16 byte.toNat]
  ⟨(digits.set 12 4).set 16 (Fin.ofNat 16 (8 + (digits[16]?.getD 0).val % 4)), by
    simp [digits, List.length_flatMap, List.map_const']⟩

end Uuid

end VisitorLink
