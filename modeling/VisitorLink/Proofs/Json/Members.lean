import VisitorLink.Json.Schema
import Mathlib.Data.List.Perm.Basic

/-!
# Members of an object

Which members of an object are the fields of a record. An open record finds its fields among the
members, whatever their order is, if every key denotes characters and no field is named twice
(`Schema.fields?_obj_iff`). A closed record finds none in an object that has a member with another
key (`Schema.fields?_stranger`).
-/

namespace VisitorLink.Json

/-! ## Open records -/

theorem Schema.resolve_eq_none {schema : Schema} {key : String} (unnamed : key ∉ schema.fields)
    (other : key ∉ schema.aliases.map Prod.fst) : schema.resolve key = none := by
  rw [resolve, if_neg unnamed, List.lookup_eq_none_iff]
  intro pair mem
  exact bne_iff_ne.2 fun same : key = pair.1 => other (same ▸ List.mem_map_of_mem mem)

theorem Schema.eq_of_resolve {schema : Schema} (unaliased : schema.aliases = [])
    {key field : String} (named : schema.resolve key = some field) : key = field := by
  unfold resolve at named
  split at named
  · exact Option.some.inj named
  · rw [unaliased] at named
    exact absurd named.symm (Option.some_ne_none field)

/-- The field that a member gives a value to. -/
def Schema.given? (schema : Schema) (member : Option String × Json) : Option (String × Json) :=
  (member.1.bind schema.resolve).map (·, member.2)

/-- An open record knows of its members which are its fields. -/
theorem Schema.known?_eq_some_iff {schema : Schema} (opened : schema.closed = false)
    {members : List (Option String × Json)} {fields : Fields} :
    schema.known? members = some fields ↔
      none ∉ members.map Prod.fst ∧ members.filterMap schema.given? = fields := by
  induction members generalizing fields with
  | nil => simp [known?]
  | cons member members ih =>
      obtain ⟨key | key, value⟩ := member
      · simp [known?]
      · cases named : schema.resolve key with
        | none => simp [known?, given?, named, opened, ih]
        | some field => simp [known?, given?, named, ih]

/-- An open record finds its fields where each is named at most once. -/
theorem Schema.fields?_obj_iff {schema : Schema} (opened : schema.closed = false)
    {members : List (Option String × Json)} {fields : Fields} :
    schema.fields? (.obj members) = some fields ↔
      none ∉ members.map Prod.fst ∧ members.filterMap schema.given? = fields ∧
        (fields.map Prod.fst).Nodup := by
  change (schema.known? members).bind _ = _ ↔ _
  rw [Option.bind_eq_some_iff]
  constructor
  · rintro ⟨_, known, found⟩
    obtain ⟨distinct, found⟩ := Option.ite_none_right_eq_some.1 found
    cases found
    obtain ⟨denoted, own⟩ := (known?_eq_some_iff opened).1 known
    exact ⟨denoted, own, distinct⟩
  · rintro ⟨denoted, own, distinct⟩
    exact ⟨fields, (known?_eq_some_iff opened).2 ⟨denoted, own⟩, if_pos distinct⟩

/-! ## Looking up fields -/

/-- Where no field is named twice, a field holds each value that is given for it. -/
theorem Fields.lookup_eq_some_iff {fields : Fields} (distinct : (fields.map Prod.fst).Nodup)
    {name : String} {value : Json} : fields.lookup name = some value ↔ (name, value) ∈ fields := by
  induction fields with
  | nil => exact iff_of_false (Option.some_ne_none value).symm List.not_mem_nil
  | cons field fields ih =>
      obtain ⟨field, held⟩ := field
      obtain ⟨fresh, distinct⟩ := List.nodup_cons.1 distinct
      by_cases named : name = field
      · subst named
        have once : (name, value) ∉ fields := fun mem => fresh (List.mem_map.2 ⟨_, mem, rfl⟩)
        simp [once, eq_comm]
      · simp only [List.lookup_cons, beq_false_of_ne named, ih distinct, List.mem_cons,
          Prod.mk.injEq, named, false_and, false_or]

theorem Fields.lookup_perm {fields others : Fields} (order : fields.Perm others)
    (distinct : (fields.map Prod.fst).Nodup) (name : String) :
    fields.lookup name = others.lookup name := by
  have distinct' : (others.map Prod.fst).Nodup := (order.map Prod.fst).nodup_iff.1 distinct
  ext value
  rw [lookup_eq_some_iff distinct, lookup_eq_some_iff distinct', order.mem_iff]

/-- Where every key is the name of a field, a field holds the value of its member. -/
theorem Schema.lookup_eq_some_iff {schema : Schema} (opened : schema.closed = false)
    (unaliased : schema.aliases = []) {members : List (Option String × Json)} {fields : Fields}
    (found : schema.fields? (.obj members) = some fields) {name : String}
    (own : name ∈ schema.fields) {value : Json} :
    fields.lookup name = some value ↔ (some name, value) ∈ members := by
  obtain ⟨-, rfl, distinct⟩ := (fields?_obj_iff opened).1 found
  rw [Fields.lookup_eq_some_iff distinct, List.mem_filterMap]
  constructor
  · rintro ⟨⟨key, held⟩, mem, entry⟩
    obtain ⟨field, named, same⟩ := Option.map_eq_some_iff.1 entry
    obtain ⟨key, rfl, named⟩ := Option.bind_eq_some_iff.1 named
    cases same
    exact eq_of_resolve unaliased named ▸ mem
  · intro mem
    have named : schema.resolve name = some name := if_pos own
    exact ⟨_, mem, by simp only [given?, Option.bind_some, named, Option.map_some]⟩

/-! ## Closed records -/

/-- A closed record reads no object that has a member with another key. -/
theorem Schema.fields?_stranger {schema : Schema} (closed : schema.closed = true)
    (unaliased : schema.aliases = []) {members : List (Option String × Json)}
    {member : Option String × Json} (mem : member ∈ members)
    (stranger : ∀ field ∈ schema.fields, member.1 ≠ some field) :
    schema.fields? (.obj members) = none := by
  have known : schema.known? members = none := by
    induction members with
    | nil => exact absurd mem List.not_mem_nil
    | cons other members ih =>
        obtain ⟨key | key, value⟩ := other
        · rfl
        · obtain rfl | later := List.mem_cons.1 mem
          · have unknown : schema.resolve key = none :=
              resolve_eq_none (fun own => stranger key own rfl) (by simp [unaliased])
            simp only [known?, unknown, closed, if_true]
          · simp only [known?, ih later, closed, if_true, Option.map_none]
            cases schema.resolve key <;> rfl
  change (schema.known? members).bind _ = none
  rw [known, Option.bind_none]

end VisitorLink.Json
