/-!
# Wallet addresses

An address is a text in the base58 alphabet of at most 64 bytes. Addresses become path segments of
requests, so a text with any other character is no address.
-/

namespace VisitorLink.Address

/-- The number of bytes an address may have. -/
def maxBytes : Nat := 64

/-- Why a text is no address. -/
inductive Fault
  | empty
  | tooLong
  | notBase58
deriving DecidableEq, Repr

/-- The wording of a fault. -/
def Fault.message : Fault → String
  | .empty => "Wallet address cannot be empty"
  | .tooLong => "Wallet address is too long"
  | .notBase58 => "Wallet address must be base58"

/-- The letters and digits of ASCII without the four that are easily taken for another. -/
def isBase58 (c : Char) : Bool :=
  c.isAlphanum && !(c == '0' || c == 'O' || c == 'I' || c == 'l')

/-- The first fault of a text. -/
def fault? (s : String) : Option Fault :=
  if s.isEmpty then some .empty
  else if maxBytes < s.utf8ByteSize then some .tooLong
  else if s.toList.all isBase58 then none
  else some .notBase58

/-- Whether a text is an address. -/
def WellFormed (s : String) : Prop :=
  fault? s = none

instance (s : String) : Decidable (WellFormed s) :=
  inferInstanceAs (Decidable (_ = _))

/-- An address is a text of 1 to 64 bytes in the base58 alphabet. -/
theorem wellFormed_iff (text : String) :
    WellFormed text ↔
      text ≠ "" ∧ text.utf8ByteSize ≤ maxBytes ∧ ∀ c ∈ text.toList, isBase58 c = true := by
  unfold WellFormed fault?
  split
  case isTrue empty => simp [String.isEmpty_iff.1 empty]
  case isFalse filled =>
    split
    case isTrue long => simp [Nat.not_le.2 long]
    case isFalse short =>
      have filled : text ≠ "" := fun same => filled (String.isEmpty_iff.2 same)
      simp [filled, Nat.not_lt.1 short]

/-- The number of characters kept at the start of a shortened address. -/
def headLength : Nat := 6

/-- The number of characters kept at the end of a shortened address. -/
def tailLength : Nat := 4

/-- An address as it is shown: its first and last characters around three points, or the whole
address where that would not make it shorter. -/
def shortened (s : String) : String :=
  let chars := s.toList
  if chars.length ≤ headLength + tailLength + 3 then s
  else
    String.ofList
      (chars.take headLength ++ ['.', '.', '.'] ++ chars.drop (chars.length - tailLength))

end VisitorLink.Address
