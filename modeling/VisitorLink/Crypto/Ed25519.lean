import VisitorLink.Crypto.Sha512

/-!
# Signatures on the curve Ed25519

A secret of 32 bytes gives a number and, as its multiple of the base point, a public key of 32
bytes. A signature of 64 bytes over a message is accepted with the public key of its secret.
-/

namespace VisitorLink.Ed25519

/-! ## The field -/

/-- The prime that numbers are taken by. -/
def prime : Nat := Nat.pow 2 255 - 19

/-- The number of multiples of the base point. -/
def order : Nat := Nat.pow 2 252 + 27742317777372353535851937790883648493

/-- A power in the field, for an exponent of at most 256 bits. -/
def power (base exponent : Nat) : Nat :=
  (List.range 256).foldr
    (fun bit product =>
      let square := product * product % prime
      if exponent.testBit bit then square * base % prime else square)
    1

/-- The inverse in the field. -/
def inverse (n : Nat) : Nat :=
  power n (prime - 2)

/-- A difference in the field. -/
def minus (m n : Nat) : Nat :=
  (m + (prime - n % prime)) % prime

/-- The coefficient of the curve, which is -121665/121666. -/
def coefficient : Nat :=
  minus 0 (121665 * inverse 121666 % prime)

/-! ## The curve -/

/-- A point in extended coordinates: `x/z`, `y/z`, and `t` with `t/z` the product of the two. -/
structure Point where
  x : Nat
  y : Nat
  z : Nat
  t : Nat

namespace Point

/-- The neutral point. -/
def zero : Point := ⟨0, 1, 1, 0⟩

/-- The point with given coordinates. -/
def affine (x y : Nat) : Point := ⟨x, y, 1, x * y % prime⟩

/-- The sum of two points. -/
def add (p q : Point) : Point :=
  let a := minus p.y p.x * minus q.y q.x % prime
  let b := (p.y + p.x) * (q.y + q.x) % prime
  let c := p.t * 2 * coefficient % prime * q.t % prime
  let d := p.z * 2 * q.z % prime
  let e := minus b a
  let f := minus d c
  let g := (d + c) % prime
  let h := (b + a) % prime
  ⟨e * f % prime, g * h % prime, f * g % prime, e * h % prime⟩

/-- The point on the other side. -/
def negate (p : Point) : Point :=
  ⟨minus 0 p.x, p.y, p.z, minus 0 p.t⟩

/-- A multiple of a point, for a factor of at most 256 bits. -/
def times (factor : Nat) (p : Point) : Point :=
  (List.range 256).foldr
    (fun bit sum =>
      let double := sum.add sum
      if factor.testBit bit then double.add p else double)
    zero

/-- The 32 bytes of a point: its second coordinate, and whether its first one is odd in the highest
bit. -/
def toBytes (p : Point) : List UInt8 :=
  let inverted := inverse p.z
  let x := p.x * inverted % prime
  let y := p.y * inverted % prime
  Radix.toBytesLittle 32 (y + x % 2 * Nat.pow 2 255)

/-- The first coordinate of a point with the given second one, odd or even as wanted. -/
def recover? (y odd : Nat) : Option Nat :=
  let square := y * y % prime
  let ratio := minus square 1 * inverse ((coefficient * square + 1) % prime) % prime
  let candidate := power ratio ((prime + 3) / 8)
  let root :=
    if candidate * candidate % prime = ratio then candidate
    else candidate * power 2 ((prime - 1) / 4) % prime
  if root * root % prime ≠ ratio then none
  else if root % 2 = odd then some root
  else some (minus 0 root)

/-- The point with the given bytes. -/
def ofBytes? (bytes : List UInt8) : Option Point := do
  let n := Radix.ofBytesLittle bytes
  let y := n % Nat.pow 2 255 % prime
  let x ← recover? y (n / Nat.pow 2 255)
  return affine x y

/-- The base point: its second coordinate is 4/5, its first one even. -/
def base : Point :=
  let y := 4 * inverse 5 % prime
  affine ((recover? y 0).getD 0) y

end Point

/-! ## Keys and signatures -/

/-- The number that a secret stands for: the lower half of its hash, with the bits set and cleared
that make it a multiple of eight of a fixed size. -/
def secretNumber (seed : List UInt8) : Nat :=
  let n := Radix.ofBytesLittle ((Sha512.hash seed).take 32)
  Nat.pow 2 254 + n % Nat.pow 2 254 / 8 * 8

/-- The public key of a secret. -/
def publicKey (seed : List UInt8) : List UInt8 :=
  ((Point.base).times (secretNumber seed)).toBytes

/-- The number of a hash over several messages. -/
def hashNumber (messages : List (List UInt8)) : Nat :=
  Radix.ofBytesLittle (Sha512.hash messages.flatten) % order

/-- The signature over a message with a secret. -/
def sign (seed message : List UInt8) : List UInt8 :=
  let once := hashNumber [(Sha512.hash seed).drop 32, message]
  let commitment := (Point.base.times once).toBytes
  let challenge := hashNumber [commitment, publicKey seed, message]
  commitment ++ Radix.toBytesLittle 32 ((once + challenge * secretNumber seed) % order)

/-- Whether a signature over a message is accepted with a public key. -/
def verifies (key message signature : List UInt8) : Bool :=
  let response := Radix.ofBytesLittle (signature.drop 32)
  match Point.ofBytes? key with
  | none => false
  | some point =>
      let challenge := hashNumber [signature.take 32, key, message]
      key.length == 32 && signature.length == 64 && decide (response < order) &&
        ((Point.base.times response).add (point.negate.times challenge)).toBytes ==
          signature.take 32

/-- A public key has 32 bytes. -/
theorem length_publicKey (seed : List UInt8) : (publicKey seed).length = 32 :=
  Radix.length_toBytesLittle ..

/-- A signature has 64 bytes. -/
theorem length_sign (seed message : List UInt8) : (sign seed message).length = 64 := by
  simp [sign, Point.toBytes, Radix.length_toBytesLittle]

end VisitorLink.Ed25519
