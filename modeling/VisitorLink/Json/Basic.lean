import VisitorLink.Text.Decimal

/-!
# JSON values

The tree that a JSON document denotes. Two things that other representations drop are kept,
because the reading of records depends on them: the members of an object stay in the order of the
document with repeated keys, and a numeral keeps its fraction and exponent as written.
-/

namespace VisitorLink

/-- A JSON numeral as it is written: sign, whole part, and the digits and sign after the point and
after the exponent mark. -/
structure Numeral where
  negative : Bool
  whole : Nat
  fraction : Option (List Char)
  exponent : Option (List Char)
deriving DecidableEq, Repr

/-- A JSON value. The text of a string, or of a key, is none where an escape sequence names half
of a surrogate pair: such a text is well-formed JSON and denotes no sequence of characters. -/
inductive Json
  | null
  | bool (value : Bool)
  | num (numeral : Numeral)
  | str (text : Option String)
  | arr (items : List Json)
  | obj (members : List (Option String × Json))
deriving Inhabited

namespace Json

/-- A string value. -/
def text (s : String) : Json :=
  .str (some s)

/-- A whole number, written without fraction and exponent. -/
def ofInt : Int → Json
  | .ofNat n => .num ⟨false, n, none, none⟩
  | .negSucc n => .num ⟨true, n + 1, none, none⟩

/-- A whole number that is not negative. -/
def ofNat (n : Nat) : Json :=
  .num ⟨false, n, none, none⟩

/-- An object with the given members in their order. -/
def object (members : List (String × Json)) : Json :=
  .obj (members.map fun member => (some member.1, member.2))

/-- The members of an object that are written only where there is a value. -/
def optionalMember (key : String) : Option Json → List (String × Json)
  | some value => [(key, value)]
  | none => []

/-! ## Reading single values -/

/-- The text of a string value. -/
def text? : Json → Option String
  | .str text => text
  | _ => none

/-- The truth value of a boolean. -/
def bool? : Json → Option Bool
  | .bool value => some value
  | _ => none

/-- The whole number that a numeral without fraction and exponent denotes. A zero with a minus
sign is not a whole number. -/
def int? : Json → Option Int
  | .num ⟨false, whole, none, none⟩ => some whole
  | .num ⟨true, whole + 1, none, none⟩ => some (Int.negSucc whole)
  | _ => none

/-- The natural number that a value denotes. -/
def nat? (value : Json) : Option Nat :=
  match value.int? with
  | some (.ofNat n) => some n
  | _ => none

/-- The 64-bit word that a value denotes. -/
def word64? (value : Json) : Option UInt64 := do
  let n ← value.nat?
  if n < UInt64.size then some (UInt64.ofNat n) else none

/-- The 32-bit word that a value denotes. -/
def word32? (value : Json) : Option UInt32 := do
  let n ← value.nat?
  if n < UInt32.size then some (UInt32.ofNat n) else none

/-- The signed 64-bit number that a value denotes. -/
def signed64? (value : Json) : Option Int64 := do
  let i ← value.int?
  if Int64.minValue.toInt ≤ i ∧ i ≤ Int64.maxValue.toInt then some (Int64.ofInt i) else none

/-- Reads a value that may be null, which denotes none. -/
def nullable? {α : Type} (read? : Json → Option α) : Json → Option (Option α)
  | .null => some none
  | value => (read? value).map some

/-- Reads an array whose items all can be read. -/
def list? {α : Type} (read? : Json → Option α) : Json → Option (List α)
  | .arr items => items.mapM read?
  | _ => none

@[simp] theorem text?_text (s : String) : (text s).text? = some s := rfl

@[simp] theorem int?_ofInt (i : Int) : (ofInt i).int? = some i := by
  cases i <;> rfl

@[simp] theorem nat?_ofNat (n : Nat) : (ofNat n).nat? = some n := rfl

@[simp] theorem word64?_ofNat (w : UInt64) : (ofNat w.toNat).word64? = some w := by
  simp only [word64?, nat?_ofNat, Option.bind_eq_bind, Option.bind_some, w.toNat_lt_size,
    if_true, UInt64.ofNat_toNat]

@[simp] theorem word32?_ofNat (w : UInt32) : (ofNat w.toNat).word32? = some w := by
  simp only [word32?, nat?_ofNat, Option.bind_eq_bind, Option.bind_some, w.toNat_lt_size,
    if_true, UInt32.ofNat_toNat]

@[simp] theorem signed64?_ofInt (i : Int64) : (ofInt i.toInt).signed64? = some i := by
  have bound : Int64.minValue.toInt ≤ i.toInt ∧ i.toInt ≤ Int64.maxValue.toInt :=
    ⟨Int64.minValue_le_toInt i, Int64.toInt_le i⟩
  simp only [signed64?, int?_ofInt, Option.bind_eq_bind, Option.bind_some, if_pos bound,
    Int64.ofInt_toInt]

end Json

end VisitorLink
