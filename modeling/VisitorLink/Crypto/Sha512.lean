import VisitorLink.Crypto.Radix

/-!
# The hash SHA-512

A message is filled up to blocks of 128 bytes, and each block stirs eight words of 64 bits. The
words at the start and the words added in each round are the leading fractional bits of the square
roots of the first eight primes and of the cube roots of the first eighty.
-/

namespace VisitorLink.Sha512

/-! ## Constants -/

/-- Whether a number is prime. -/
def isPrime (n : Nat) : Bool :=
  2 ≤ n && (List.range n).all fun d => d < 2 || n % d ≠ 0

/-- The first eighty primes. -/
def primes : List Nat :=
  (List.range 410).filter isPrime

/-- The largest number of at most `bits` more bits than `found` has whose power does not exceed
`n`. -/
def rootOnto (power n : Nat) : (bits found : Nat) → Nat
  | 0, found => found
  | bits + 1, found =>
      let next := found + Nat.pow 2 bits
      rootOnto power n bits (if Nat.pow next power ≤ n then next else found)

/-- The first 64 fractional bits of a root of a number below 2¹⁵. -/
def rootFraction (power n : Nat) : UInt64 :=
  UInt64.ofNat (rootOnto power (n * Nat.pow 2 (64 * power)) 72 0)

/-- The words that each round adds. -/
def roundWords : List UInt64 :=
  primes.map (rootFraction 3)

/-! ## Stirring -/

/-- The eight words that are stirred. -/
structure Words where
  a : UInt64
  b : UInt64
  c : UInt64
  d : UInt64
  e : UInt64
  f : UInt64
  g : UInt64
  h : UInt64

/-- The words at the start. -/
def Words.start : Words where
  a := rootFraction 2 2
  b := rootFraction 2 3
  c := rootFraction 2 5
  d := rootFraction 2 7
  e := rootFraction 2 11
  f := rootFraction 2 13
  g := rootFraction 2 17
  h := rootFraction 2 19

/-- A word turned to the right. -/
def turn (word amount : UInt64) : UInt64 :=
  (word >>> amount) ||| (word <<< (64 - amount))

/-- One round with the word of the message and the word of the round. -/
def Words.round (words : Words) (message added : UInt64) : Words :=
  let high := turn words.e 14 ^^^ turn words.e 18 ^^^ turn words.e 41
  let choice := (words.e &&& words.f) ^^^ (~~~words.e &&& words.g)
  let first := words.h + high + choice + added + message
  let low := turn words.a 28 ^^^ turn words.a 34 ^^^ turn words.a 39
  let majority := (words.a &&& words.b) ^^^ (words.a &&& words.c) ^^^ (words.b &&& words.c)
  { a := first + (low + majority), b := words.a, c := words.b, d := words.c
    e := words.d + first, f := words.e, g := words.f, h := words.g }

/-- The words of two states added up. -/
def Words.plus (left right : Words) : Words where
  a := left.a + right.a
  b := left.b + right.b
  c := left.c + right.c
  d := left.d + right.d
  e := left.e + right.e
  f := left.f + right.f
  g := left.g + right.g
  h := left.h + right.h

/-- The next word of the schedule, from the last sixteen with the newest first. -/
def nextWord (last : List UInt64) : UInt64 :=
  let back (distance : Nat) : UInt64 := last.getD (distance - 1) 0
  let small := turn (back 15) 1 ^^^ turn (back 15) 8 ^^^ (back 15 >>> 7)
  let large := turn (back 2) 19 ^^^ turn (back 2) 61 ^^^ (back 2 >>> 6)
  back 16 + small + back 7 + large

/-- The words of a block in front of their schedule of `count` further words, newest first. -/
def extend : (count : Nat) → List UInt64 → List UInt64
  | 0, words => words
  | count + 1, words => extend count (nextWord words :: words)

/-- A word from its eight bytes. -/
def wordOf (bytes : List UInt8) : UInt64 :=
  UInt64.ofNat (Radix.ofBytes bytes)

/-- A list in pieces of the given length, of which there are at most `count`. -/
def pieces {α : Type} (length : Nat) : (count : Nat) → List α → List (List α)
  | 0, _ => []
  | count + 1, items => items.take length :: pieces length count (items.drop length)

/-- The words after a block. -/
def Words.absorb (words : Words) (block : List UInt8) : Words :=
  let first := (pieces 8 16 block).map wordOf
  let schedule := (extend 64 first.reverse).reverse
  words.plus ((schedule.zip roundWords).foldl (fun words pair => words.round pair.1 pair.2) words)

/-- The bytes of the words. -/
def Words.toBytes (words : Words) : List UInt8 :=
  [words.a, words.b, words.c, words.d, words.e, words.f, words.g, words.h].flatMap fun word =>
    (Radix.toBytesLittle 8 word.toNat).reverse

/-! ## Hashing -/

/-- A message with a bit set, zeros, and its length in bits, which fills whole blocks. -/
def padded (message : List UInt8) : List UInt8 :=
  let gap := (240 - (message.length + 1) % 128) % 128
  message ++ 0x80 :: List.replicate gap 0 ++
    (Radix.toBytesLittle 16 (8 * message.length)).reverse

/-- The hash of a message. -/
def hash (message : List UInt8) : List UInt8 :=
  let bytes := padded message
  ((pieces 128 (bytes.length / 128) bytes).foldl Words.absorb Words.start).toBytes

/-- A hash has 64 bytes. -/
theorem length_hash (message : List UInt8) : (hash message).length = 64 := by
  simp [hash, Words.toBytes, Radix.length_toBytesLittle]

end VisitorLink.Sha512
