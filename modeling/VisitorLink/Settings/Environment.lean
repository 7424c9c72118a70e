import VisitorLink.Error
import VisitorLink.Text.Decimal

/-!
# Variables of the environment

An environment gives some names a value, which is any sequence of bytes. A value that is not UTF-8
counts as not set.
-/

namespace VisitorLink

/-- The values of the variables that are set. -/
abbrev Environment := String → Option ByteArray

namespace Environment

/-- The environment in which the listed variables are set to the given texts. -/
def ofTexts (pairs : List (String × String)) : Environment :=
  fun name => (pairs.lookup name).map String.toUTF8

/-- The text of a variable. -/
def text? (env : Environment) (name : String) : Option String :=
  (env name).bind String.fromUTF8?

/-- The text of a variable, which has to be set. -/
def get (env : Environment) (name : String) : Except VariableError String :=
  match env.text? name with
  | some text => .ok text
  | none => .error (.missing name)

/-- The text of a variable, or another text if it is not set. -/
def getOr (env : Environment) (name default : String) : String :=
  (env.text? name).getD default

/-- The value that the text of a variable denotes. -/
def parse {α : Type} (read? : String → Option α) (env : Environment) (name : String) :
    Except VariableError α := do
  let text ← env.get name
  match read? text with
  | some value => .ok value
  | none => .error (.malformed name)

/-- The value that the text of a variable denotes, or another value if it is not set. A text that
denotes no value is an error all the same. -/
def parseOr {α : Type} (read? : String → Option α) (env : Environment) (name : String)
    (default : α) : Except VariableError α :=
  match env.parse read? name with
  | .error (.missing _) => .ok default
  | answer => answer

/-! ## Values of variables -/

/-- Reads a 64-bit word. -/
def word64? (text : String) : Option UInt64 := do
  let n ← Text.Decimal.unsigned? text.toList
  if n < UInt64.size then some (UInt64.ofNat n) else none

/-- Reads a 32-bit word. -/
def word32? (text : String) : Option UInt32 := do
  let n ← Text.Decimal.unsigned? text.toList
  if n < UInt32.size then some (UInt32.ofNat n) else none

/-- Reads a signed 64-bit number. -/
def signed64? (text : String) : Option Int64 := do
  let i ← Text.Decimal.signed? text.toList
  if Int64.minValue.toInt ≤ i ∧ i ≤ Int64.maxValue.toInt then some (Int64.ofInt i) else none

/-- Reads a truth value. -/
def bool? : String → Option Bool
  | "true" => some true
  | "false" => some false
  | _ => none

end Environment

end VisitorLink
