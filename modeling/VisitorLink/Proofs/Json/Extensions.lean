import VisitorLink.Proofs.Json.Members
import Mathlib.Data.List.Forall2

/-!
# Objects with further members

An object may say more than a record asks for. `Schema.Extends` relates a value to one that says
the same in the fields of a record and more besides: its members are in any order, with any others
among them whose keys name no field, and so within the fields that are records themselves. An open
record then finds in its fields what it found before (`Schema.Extends.fields?`), so that nothing
that was read is lost (`Schema.Extends.keeps`).
-/

namespace VisitorLink.Json

/-- What is found first is also found second. -/
def Keeps {α : Type} (first second : Option α) : Prop :=
  ∀ result, first = some result → second = some result

theorem Keeps.refl {α : Type} (found : Option α) : Keeps found found :=
  fun _ => id

/-- What is found step by step is found again step by step. -/
theorem Keeps.bind {α β : Type} {first second : Option α} {next other : α → Option β}
    (keeps : Keeps first second) (nexts : ∀ a, Keeps (next a) (other a)) :
    Keeps (first >>= next) (second >>= other) := by
  intro result found
  obtain ⟨a, here, there⟩ := Option.bind_eq_some_iff.1 found
  exact Option.bind_eq_some_iff.2 ⟨a, keeps a here, nexts a result there⟩

/-- What is made of what is found is made again. -/
theorem Keeps.map {α β : Type} {first second : Option α} (keeps : Keeps first second)
    (f : α → β) : Keeps (first.map f) (second.map f) := by
  intro result found
  obtain ⟨a, here, rfl⟩ := Option.map_eq_some_iff.1 found
  exact Option.map_eq_some_iff.2 ⟨a, keeps a here, rfl⟩

/-! ## Values that say more -/

/-- The fields of a record whose values may say more, each with what may be added. -/
abbrev Parts := List (String × (Json → Json → Prop))

/-- A field keeps its value, or the value says more in the way the field allows. -/
def Parts.Grows (parts : Parts) (field : String) (value grown : Json) : Prop :=
  value = grown ∨ ∃ more, (field, more) ∈ parts ∧ more value grown

/-- A field keeps its name, and its value as far as that has to. -/
def Parts.FieldGrows (parts : Parts) (field grown : String × Json) : Prop :=
  field.1 = grown.1 ∧ parts.Grows field.1 field.2 grown.2

/-- A member keeps its key, and its value if the key names no field. -/
def Schema.MemberGrows (schema : Schema) (parts : Parts) (member grown : Option String × Json) :
    Prop :=
  member.1 = grown.1 ∧ (member.2 = grown.2 ∨
    ∃ field, member.1.bind schema.resolve = some field ∧ parts.Grows field member.2 grown.2)

/-- A member whose key is neither the name of a field nor another key for one. -/
def Schema.Unknown (schema : Schema) (member : Option String × Json) : Prop :=
  ∃ key, member.1 = some key ∧ key ∉ schema.fields ∧ key ∉ schema.aliases.map Prod.fst

/-- A value that says the same in the fields of a record, and may say more besides. -/
inductive Schema.Extends (schema : Schema) (parts : Parts) : Json → Json → Prop
  /-- Members with other keys are put in anywhere, and members change places. -/
  | object {members kept others grown : List (Option String × Json)}
      (old : List.Forall₂ (schema.MemberGrows parts) members kept)
      (new : ∀ member ∈ others, schema.Unknown member) (order : grown.Perm (kept ++ others)) :
      schema.Extends parts (.obj members) (.obj grown)
  /-- The fields in the order of their declaration are as many as before. -/
  | array {items grown : List Json} (size : items.length = grown.length)
      (each : List.Forall₂ parts.FieldGrows (schema.fields.zip items) (schema.fields.zip grown)) :
      schema.Extends parts (.arr items) (.arr grown)
  | same (value : Json) : schema.Extends parts value value

/-- Items of an array that each say more. -/
inductive ItemsExtend (more : Json → Json → Prop) : Json → Json → Prop
  | intro {items grown : List Json} (each : List.Forall₂ more items grown) :
      ItemsExtend more (.arr items) (.arr grown)

/-! ## Fields of an open record -/

/-- A member that grows is given to a reader as a field that grows. -/
theorem Schema.MemberGrows.given {schema : Schema} {parts : Parts}
    {member grown : Option String × Json} (growth : schema.MemberGrows parts member grown) :
    Option.Rel parts.FieldGrows (schema.given? member) (schema.given? grown) := by
  obtain ⟨key, value⟩ := member
  obtain ⟨_, more⟩ := grown
  obtain ⟨rfl : key = _, change⟩ := growth
  cases named : key.bind schema.resolve with
  | none => simp only [given?, named, Option.map_none]; exact .none
  | some field =>
      simp only [given?, named, Option.map_some]
      refine .some ⟨rfl, ?_⟩
      obtain same | ⟨_, own, grows⟩ := change
      · exact .inl same
      · cases named.symm.trans own
        exact grows

/-- A member with an unknown key is given to no reader. -/
theorem Schema.Unknown.given {schema : Schema} {member : Option String × Json}
    (unknown : schema.Unknown member) : schema.given? member = none := by
  obtain ⟨key, is, unnamed, other⟩ := unknown
  simp only [given?, is, Option.bind_some, resolve_eq_none unnamed other, Option.map_none]

/-! ## Looking up fields -/

/-- The fields of one list are those of another, and say more in their parts. -/
def Fields.Extends (parts : Parts) (fields grown : Fields) : Prop :=
  ∀ name, (fields.lookup name = none ∧ grown.lookup name = none) ∨
    ∃ value more, fields.lookup name = some value ∧ grown.lookup name = some more ∧
      parts.Grows name value more

/-- Fields that grow one by one grow in all. -/
theorem Fields.Extends.of_forall₂ {parts : Parts} {fields grown : Fields}
    (each : List.Forall₂ parts.FieldGrows fields grown) : fields.Extends parts grown := by
  intro name
  induction each with
  | nil => exact .inl ⟨rfl, rfl⟩
  | @cons field more _ _ growth _ ih =>
      obtain ⟨field, value⟩ := field
      obtain ⟨_, more⟩ := more
      obtain ⟨rfl : field = _, grows⟩ := growth
      by_cases named : name = field
      · subst named
        exact .inr ⟨value, more, List.lookup_cons_self, List.lookup_cons_self, grows⟩
      · simp only [List.lookup_cons, beq_false_of_ne named]
        exact ih

/-- Members that keep their keys have the same keys. -/
theorem keys_eq {α : Type} {related : α × Json → α × Json → Prop}
    (key : ∀ {first second}, related first second → first.1 = second.1)
    {members others : List (α × Json)} (each : List.Forall₂ related members others) :
    members.map Prod.fst = others.map Prod.fst := by
  induction each with
  | nil => rfl
  | cons same _ ih => rw [List.map_cons, List.map_cons, key same, ih]

/-- Members with known and with unknown keys denote characters in their keys, in any order. -/
theorem Schema.denoted_of_perm {schema : Schema} {parts : Parts}
    {members kept others grown : List (Option String × Json)}
    (old : List.Forall₂ (schema.MemberGrows parts) members kept)
    (new : ∀ member ∈ others, schema.Unknown member) (order : grown.Perm (kept ++ others))
    (denoted : none ∉ members.map Prod.fst) : none ∉ grown.map Prod.fst := by
  rw [(order.map Prod.fst).mem_iff, List.map_append, List.mem_append, ← keys_eq And.left old]
  rintro (own | other)
  · exact denoted own
  · obtain ⟨member, mem, is⟩ := List.mem_map.1 other
    obtain ⟨key, named, -, -⟩ := new member mem
    exact Option.some_ne_none key (named.symm.trans is)

/-! ## Reading -/

/-- An open record finds all its fields again in a value that says more. -/
theorem Schema.Extends.fields? {schema : Schema} (opened : schema.closed = false) {parts : Parts}
    {value grown : Json} (more : schema.Extends parts value grown) {fields : Fields}
    (found : schema.fields? value = some fields) :
    ∃ others, schema.fields? grown = some others ∧ fields.Extends parts others := by
  cases more with
  | same =>
      refine ⟨fields, found, fun name => ?_⟩
      cases held : fields.lookup name with
      | none => exact .inl ⟨rfl, rfl⟩
      | some value => exact .inr ⟨value, value, rfl, rfl, .inl rfl⟩
  | @array items grown size each =>
      obtain ⟨short, found⟩ := Option.ite_none_right_eq_some.1 found
      cases found
      exact ⟨schema.fields.zip grown, if_pos (size ▸ short), .of_forall₂ each⟩
  | @object members kept others grown old new order =>
      obtain ⟨denoted, rfl, distinct⟩ := (fields?_obj_iff opened).1 found
      -- the fields are among the members that were kept, and the others give none
      have each : List.Forall₂ parts.FieldGrows (members.filterMap schema.given?)
          (kept.filterMap schema.given?) :=
        List.rel_filterMap (fun _ _ growth => growth.given) old
      have nothing : others.filterMap schema.given? = [] :=
        List.filterMap_eq_nil_iff.2 fun member mem => (new member mem).given
      have entries : (kept.filterMap schema.given?).Perm (grown.filterMap schema.given?) := by
        simpa only [List.filterMap_append, nothing, List.append_nil] using
          (order.filterMap schema.given?).symm
      have distinct' : ((kept.filterMap schema.given?).map Prod.fst).Nodup :=
        keys_eq And.left each ▸ distinct
      have denoted' : none ∉ grown.map Prod.fst := denoted_of_perm old new order denoted
      refine ⟨grown.filterMap schema.given?, (fields?_obj_iff opened).2 ⟨denoted', rfl, ?_⟩,
        fun name => ?_⟩
      · exact (entries.map Prod.fst).nodup_iff.1 distinct'
      · rw [← Fields.lookup_perm entries distinct']
        exact Fields.Extends.of_forall₂ each name

/-- What is read from the fields of an open record is read again from a value that says more. -/
theorem Schema.Extends.keeps {schema : Schema} (opened : schema.closed = false) {parts : Parts}
    {value grown : Json} (more : schema.Extends parts value grown) {α : Type}
    {read? : Fields → Option α}
    (steady : ∀ {fields others : Fields}, fields.Extends parts others →
      Keeps (read? fields) (read? others)) :
    Keeps (schema.fields? value >>= read?) (schema.fields? grown >>= read?) := by
  intro result found
  obtain ⟨fields, here, there⟩ := Option.bind_eq_some_iff.1 found
  obtain ⟨others, again, same⟩ := more.fields? opened here
  exact Option.bind_eq_some_iff.2 ⟨others, again, steady same result there⟩

/-- A field without parts keeps its value. -/
theorem Fields.Extends.lookup_eq {parts : Parts} {fields grown : Fields}
    (more : fields.Extends parts grown) (name : String) (whole : name ∉ parts.map Prod.fst) :
    fields.lookup name = grown.lookup name := by
  obtain ⟨here, there⟩ | ⟨_, _, here, there, change⟩ := more name
  · rw [here, there]
  · obtain rfl | ⟨_, part, _⟩ := change
    · rw [here, there]
    · exact absurd (List.mem_map_of_mem part) whole

/-- What a reader finds in a field, it finds again where the field says more. -/
def Parts.Steady (parts : Parts) (field : String) {α : Type} (read? : Json → Option α) : Prop :=
  ∀ related, (field, related) ∈ parts → ∀ value grown, related value grown →
    Keeps (read? value) (read? grown)

/-- A field that is kept whole is read the same. -/
theorem Parts.Steady.of_whole {parts : Parts} {field : String}
    (whole : field ∉ parts.map Prod.fst) {α : Type} {read? : Json → Option α} :
    parts.Steady field read? :=
  fun _ part => absurd (List.mem_map_of_mem part) whole

/-- What is read in a steady field is kept where the field grows. -/
theorem Parts.Steady.keeps {parts : Parts} {field : String} {α : Type} {read? : Json → Option α}
    (steady : parts.Steady field read?) {value grown : Json}
    (change : parts.Grows field value grown) : Keeps (read? value) (read? grown) := by
  obtain rfl | ⟨related, part, change⟩ := change
  · exact .refl _
  · exact steady related part value grown change

/-- A record without parts is read again from any value that says more. -/
theorem Schema.Extends.keeps_whole {schema : Schema} (opened : schema.closed = false)
    {value grown : Json} (more : schema.Extends [] value grown) {α : Type}
    {read? : Fields → Option α}
    (steady : ∀ {fields others : Fields}, (∀ name, fields.lookup name = others.lookup name) →
      read? fields = read? others) :
    Keeps (schema.fields? value >>= read?) (schema.fields? grown >>= read?) := by
  refine more.keeps opened fun {fields others} same => ?_
  rw [steady fun name => same.lookup_eq name List.not_mem_nil]
  exact .refl _

/-- A required field is read the same where it is steady. -/
theorem Fields.Extends.required {parts : Parts} {fields grown : Fields}
    (more : fields.Extends parts grown) {α : Type} {read? : Json → Option α} (name : String)
    (steady : parts.Steady name read?) :
    Keeps (fields.required? name read?) (grown.required? name read?) := by
  unfold required?
  obtain ⟨here, there⟩ | ⟨_, _, here, there, change⟩ := more name
  · rw [here, there]
    exact .refl _
  · rw [here, there]
    exact steady.keeps change

/-- A field with a default is read the same where it is steady. -/
theorem Fields.Extends.defaulted {parts : Parts} {fields grown : Fields}
    (more : fields.Extends parts grown) {α : Type} {read? : Json → Option α} {default : α}
    (name : String) (steady : parts.Steady name read?) :
    Keeps (fields.defaulted? name read? default) (grown.defaulted? name read? default) := by
  unfold defaulted?
  obtain ⟨here, there⟩ | ⟨_, _, here, there, change⟩ := more name
  · rw [here, there]
    exact .refl _
  · rw [here, there]
    exact steady.keeps change

/-- A value that says more is null if it was null. -/
theorem Schema.Extends.nullable {schema : Schema} {parts : Parts} {value grown : Json}
    (more : schema.Extends parts value grown) {α : Type} {read? : Json → Option α}
    (keeps : Keeps (read? value) (read? grown)) :
    Keeps (nullable? read? value) (nullable? read? grown) := by
  cases more with
  | object => exact keeps.map some
  | array => exact keeps.map some
  | same => exact .refl _

/-- Items are read again one by one. -/
theorem ItemsExtend.keeps {related : Json → Json → Prop} {value grown : Json}
    (more : ItemsExtend related value grown) {α : Type} {read? : Json → Option α}
    (steady : ∀ value grown, related value grown → Keeps (read? value) (read? grown)) :
    Keeps (list? read? value) (list? read? grown) := by
  obtain ⟨each⟩ := more
  change Keeps (List.mapM read? _) (List.mapM read? _)
  induction each with
  | nil => exact .refl _
  | cons item _ ih =>
      simp only [List.mapM_cons]
      exact (steady _ _ item).bind fun _ => ih.bind fun _ => .refl _

end VisitorLink.Json
