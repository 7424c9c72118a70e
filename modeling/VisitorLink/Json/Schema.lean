import VisitorLink.Json.Basic

/-!
# Records in JSON

A record is read from an object, whose members may come in any order, or from an array of its
fields in the order of their declaration, where fields at the end may be missing. `fields?` brings
both forms to a list of field names with their values, from which the fields are then taken one by
one with `required?`, `defaulted?` and `optional?`.

A field named twice makes the whole record unreadable, also if it is named once by its name and
once by another name it may go by. Members with unknown keys are skipped, unless the record is
closed.
-/

namespace VisitorLink.Json

/-- What is known of a record before its values are: the names of the fields in the order of their
declaration, further keys that name a field, and whether other keys are refused. -/
structure Schema where
  fields : List String
  aliases : List (String × String) := []
  closed : Bool := false

/-- The field that a key names. -/
def Schema.resolve (schema : Schema) (key : String) : Option String :=
  if key ∈ schema.fields then some key else schema.aliases.lookup key

/-- The fields of a record with the values given for them. -/
abbrev Fields := List (String × Json)

/-- The fields that the members of an object give values to. A key that denotes no characters
makes the object unreadable, and so does an unknown key if the record is closed. -/
def Schema.known? (schema : Schema) : List (Option String × Json) → Option Fields
  | [] => some []
  | (none, _) :: _ => none
  | (some key, value) :: members =>
      match schema.resolve key with
      | some field => (schema.known? members).map ((field, value) :: ·)
      | none => if schema.closed then none else schema.known? members

/-- The fields that a value gives values to, if it has the form of the record. -/
def Schema.fields? (schema : Schema) : Json → Option Fields
  | .obj members => do
      let fields ← schema.known? members
      if (fields.map Prod.fst).Nodup then some fields else none
  | .arr items =>
      if items.length ≤ schema.fields.length then some (schema.fields.zip items) else none
  | _ => none

namespace Fields

/-- A field that has to be given. -/
def required? {α : Type} (fields : Fields) (name : String) (read? : Json → Option α) : Option α :=
  (fields.lookup name).bind read?

/-- A field that has a value of its own where none is given. -/
def defaulted? {α : Type} (fields : Fields) (name : String) (read? : Json → Option α)
    (default : α) : Option α :=
  match fields.lookup name with
  | some value => read? value
  | none => some default

/-- A field that may be missing or null. -/
def optional? {α : Type} (fields : Fields) (name : String) (read? : Json → Option α) :
    Option (Option α) :=
  fields.defaulted? name (Json.nullable? read?) none

end Fields

end VisitorLink.Json
