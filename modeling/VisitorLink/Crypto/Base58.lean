import VisitorLink.Crypto.Radix

/-!
# Base58

Bytes as a text of 58 letters and digits. The bytes are one number in radix 58; the zero bytes in
front, which a number does not show, are written as the digit for zero, one for each.
-/

namespace VisitorLink.Base58

/-- The digits, least first. -/
def alphabet : List Char :=
  "123456789ABCDEFGHJKLMNPQRSTUVWXYZabcdefghijkmnopqrstuvwxyz".toList

/-- The character of a digit. -/
def digitChar (digit : Nat) : Char :=
  alphabet.getD digit '1'

/-- The digit of a character. -/
def digit? (c : Char) : Option Nat :=
  alphabet.idxOf? c

/-- The characters that stand for bytes. -/
def encodeChars (bytes : List UInt8) : List Char :=
  (bytes.takeWhile (· == 0)).map (fun _ => '1') ++
    (Radix.digits 58 (Radix.ofBytes bytes)).map digitChar

/-- The text of bytes. -/
def encode (bytes : List UInt8) : String :=
  String.ofList (encodeChars bytes)

/-- The bytes that characters stand for. -/
def decodeChars? (s : List Char) : Option (List UInt8) := do
  let digits ← s.mapM digit?
  return (digits.takeWhile (· == 0)).map (fun _ => 0) ++ Radix.toBytes (Radix.value 58 digits)

/-- The bytes of a text, if it has only characters of the alphabet. -/
def decode? (text : String) : Option (List UInt8) :=
  decodeChars? text.toList

end VisitorLink.Base58
