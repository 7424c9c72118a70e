import VisitorLink.Visitor.Uuid

/-!
# Visitor ids

A visitor is known by a random identifier in its hyphenated form with small letters. Any other
text found where an id is kept counts as no id.
-/

namespace VisitorLink.VisitorId

/-- Why a text is no visitor id. -/
inductive Fault
  | notLowercase
  | notUuid
  | notRandom
deriving DecidableEq, Repr

/-- The wording of a fault, with the cause that is told for a text that is no UUID. -/
def Fault.message (cause : String) : Fault → String
  | .notLowercase => "User id must be a lowercase hyphenated UUID"
  | .notUuid => "Invalid user id: " ++ cause
  | .notRandom => "User id must be a version 4 UUID"

/-- The first fault of a text. -/
def fault? (s : String) : Option Fault :=
  if s.utf8ByteSize ≠ 36 ∨ s.toList.any Char.isUpper then some .notLowercase
  else
    match Uuid.read? s with
    | none => some .notUuid
    | some id => if id.version = 4 then none else some .notRandom

/-- Whether a text is a visitor id. -/
def Valid (s : String) : Prop :=
  fault? s = none

instance (s : String) : Decidable (Valid s) :=
  inferInstanceAs (Decidable (_ = _))

end VisitorLink.VisitorId
