import VisitorLink.Json.Schema
import VisitorLink.Proofs.Json.Layouts
import VisitorLink.Proofs.Text.Items

/-!
# Records read back

A record writes the fields that it has values for in the order of its schema, so that its schema
finds exactly these fields in what was written (`Json.Schema.fields?_object`). What a field held is
then looked up under its name.
-/

namespace VisitorLink.Json

/-! ## Fields -/

/-- Members that a schema knows are all read. -/
theorem Schema.known?_keyed {schema : Schema} {members : List (String × Json)}
    (known : ∀ member ∈ members, member.1 ∈ schema.fields) :
    schema.known? (keyed members) = some members := by
  induction members with
  | nil => rfl
  | cons member members ih =>
      have own : schema.resolve member.1 = some member.1 :=
        if_pos (known member (List.mem_cons_self ..))
      have others := ih fun other mem => known other (List.mem_cons_of_mem _ mem)
      have shape : keyed (member :: members) = (some member.1, member.2) :: keyed members := rfl
      simp only [shape, known?, own, others, Option.map_some]

/-- The fields of an object are its members, if their keys are fields in the order of the schema. -/
theorem Schema.fields?_object {schema : Schema} {members : List (String × Json)}
    (distinct : schema.fields.Nodup) (order : (members.map Prod.fst).Sublist schema.fields) :
    schema.fields? (.object members) = some members := by
  have known : schema.known? (keyed members) = some members :=
    known?_keyed fun member mem => order.subset (List.mem_map_of_mem mem)
  change (schema.known? (keyed members)).bind _ = _
  rw [known]
  exact if_pos (distinct.sublist order)

/-- A member that may be missing has no other key than its own. -/
theorem keys_optionalMember (key : String) (value : Option Json) :
    ((optionalMember key value).map Prod.fst).Sublist [key] := by
  cases value with
  | none => exact List.nil_sublist _
  | some value => exact List.Sublist.refl _

/-- A member that may be missing is found under its key only. -/
@[simp] theorem lookup_optionalMember (key name : String) (value : Option Json) :
    (optionalMember key value).lookup name = if name = key then value else none := by
  cases value with
  | none => exact (ite_self none).symm
  | some value =>
      by_cases same : name = key
      · simp only [optionalMember, same, ↓reduceIte, List.lookup_cons_self]
      · simp only [optionalMember, List.lookup_cons, beq_false_of_ne same, same, ↓reduceIte,
          List.lookup_nil]

/-! ## Values of fields -/

@[simp] theorem bool?_bool (value : Bool) : (bool value).bool? = some value := rfl

/-- What is read where a field may be missing. -/
def valueOr? {α : Type} (read? : Json → Option α) (default : α) : Option Json → Option α
  | some value => read? value
  | none => some default

/-- A field with a default is read off what the lookup finds. -/
theorem defaulted?_eq {α : Type} (fields : Fields) (name : String) (read? : Json → Option α)
    (default : α) : fields.defaulted? name read? default =
      valueOr? read? default (fields.lookup name) := rfl

/-- A field that may be missing is read off what the lookup finds. -/
theorem optional?_eq {α : Type} (fields : Fields) (name : String) (read? : Json → Option α) :
    fields.optional? name read? = valueOr? (nullable? read?) none (fields.lookup name) := rfl

/-- A value that is there is read. -/
@[simp] theorem valueOr?_some {α : Type} (read? : Json → Option α) (default : α) (value : Json) :
    valueOr? read? default (some value) = read? value := rfl

/-- A value other than null is read as itself. -/
theorem nullable?_of_ne_null {α : Type} {read? : Json → Option α} {value : Json}
    (present : value ≠ .null) : nullable? read? value = (read? value).map some := by
  cases value with
  | null => exact absurd rfl present
  | _ => rfl

/-- A value that may be missing becomes what it becomes where it is there, if it is never written
as null. -/
theorem valueOr?_map_eq_map {α : Type} {read? : Json → Option α} {write : α → Json} {told : α → α}
    (reads : ∀ value, read? (write value) = some (told value))
    (present : ∀ value, write value ≠ .null) (value : Option α) :
    valueOr? (nullable? read?) none (value.map write) = some (value.map told) := by
  cases value with
  | none => rfl
  | some value =>
      rw [Option.map_some, valueOr?_some, nullable?_of_ne_null (present value), reads]
      rfl

/-- A value that may be missing is read back if it is never written as null. -/
theorem valueOr?_map {α : Type} {read? : Json → Option α} {write : α → Json}
    (reads : ∀ value, read? (write value) = some value) (present : ∀ value, write value ≠ .null)
    (value : Option α) : valueOr? (nullable? read?) none (value.map write) = some value := by
  have same : valueOr? (nullable? read?) none (value.map write) = some (value.map id) :=
    valueOr?_map_eq_map reads present value
  rwa [Option.map_id] at same

/-- A text that may be missing is read back. -/
@[simp] theorem valueOr?_text (value : Option String) :
    valueOr? (nullable? text?) none (value.map text) = some value :=
  valueOr?_map text?_text (fun _ => Json.noConfusion) value

/-- A number that may be missing is read back. -/
@[simp] theorem valueOr?_word32 (value : Option UInt32) :
    valueOr? (nullable? word32?) none (value.map fun w => ofNat w.toNat) = some value :=
  valueOr?_map word32?_ofNat (fun _ => Json.noConfusion) value

/-- What is read as a text is one. -/
theorem text?_eq_some_iff {value : Json} {reason : String} :
    value.text? = some reason ↔ value = .text reason := by
  cases value with
  | str text => exact ⟨fun same => congrArg Json.str same, fun same => Json.str.inj same⟩
  | _ => exact iff_of_false (Option.some_ne_none reason).symm Json.noConfusion

/-- A text is read from a field exactly if one stands there. -/
theorem optional?_text_eq_some_iff {fields : Fields} {name reason : String} :
    fields.optional? name text? = some (some reason) ↔
      fields.lookup name = some (.text reason) := by
  rw [optional?_eq]
  cases fields.lookup name with
  | none => exact iff_of_false (by simp [valueOr?]) (Option.some_ne_none _).symm
  | some value =>
      rw [valueOr?_some, Option.some_inj, ← text?_eq_some_iff]
      cases value <;> simp [nullable?, text?]

/-- A flag is read as set exactly if it is set in the document. -/
theorem defaulted?_bool_eq_some_iff {fields : Fields} {name : String} :
    fields.defaulted? name bool? false = some true ↔ fields.lookup name = some (.bool true) := by
  rw [defaulted?_eq]
  cases fields.lookup name with
  | none => simp [valueOr?]
  | some value => cases value <;> simp [valueOr?, bool?]

/-- Items are read one by one. -/
theorem list?_map {α : Type} {read? : Json → Option α} {write : α → Json} {told : α → α}
    (reads : ∀ item, read? (write item) = some (told item)) (items : List α) :
    list? read? (.arr (items.map write)) = some (items.map told) :=
  Text.mapM_map_eq_map fun item _ => reads item

/-! ## Plain records -/

attribute [simp] Plain.text Plain.bool

@[simp] theorem plain_ofNat (n : Nat) : (ofNat n).Plain :=
  .whole false n

/-- A whole number is told in full, with its sign. -/
@[simp] theorem plain_ofInt (i : Int) : (ofInt i).Plain := by
  cases i with
  | ofNat n => exact .whole false n
  | negSucc n => exact .whole true (n + 1)

/-- Members with plain values. -/
def PlainMembers (members : List (String × Json)) : Prop :=
  ∀ member ∈ members, member.2.Plain

/-- An object is told in full if its values are. -/
theorem plain_object {members : List (String × Json)} (plain : PlainMembers members) :
    (object members).Plain :=
  .object plain

@[simp] theorem plainMembers_nil : PlainMembers [] :=
  fun _ mem => absurd mem List.not_mem_nil

@[simp] theorem plainMembers_cons {key : String} {value : Json} {members : List (String × Json)} :
    PlainMembers ((key, value) :: members) ↔ value.Plain ∧ PlainMembers members :=
  List.forall_mem_cons

@[simp] theorem plainMembers_append {front back : List (String × Json)} :
    PlainMembers (front ++ back) ↔ PlainMembers front ∧ PlainMembers back :=
  List.forall_mem_append

/-- A member that may be missing is told in full if its value is. -/
theorem plainMembers_optional {α : Type} {write : α → Json} (plain : ∀ value, (write value).Plain)
    (key : String) (value : Option α) : PlainMembers (optionalMember key (value.map write)) := by
  cases value with
  | none => exact plainMembers_nil
  | some value => exact plainMembers_cons.2 ⟨plain value, plainMembers_nil⟩

end VisitorLink.Json
