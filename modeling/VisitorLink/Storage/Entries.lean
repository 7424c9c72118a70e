import VisitorLink.Json.Basic
import VisitorLink.Storage.Pairs

/-!
# Texts under keys

What a slot holds: texts, each under a key of its own. As a document, entries are an object of
texts; of a repeated key the last member counts.
-/

namespace VisitorLink

/-- Texts under keys. -/
structure Entries where
  pairs : List (String × String)
  keys_nodup : (pairs.map Prod.fst).Nodup
deriving DecidableEq

namespace Entries

/-- No entries. -/
def empty : Entries := ⟨[], List.nodup_nil⟩

instance : Inhabited Entries := ⟨empty⟩

/-- The text under a key. -/
def get? (entries : Entries) (key : String) : Option String :=
  entries.pairs.lookup key

/-- The entries without the one under a key. -/
def erase (entries : Entries) (key : String) : Entries where
  pairs := Pairs.without entries.pairs key
  keys_nodup := entries.keys_nodup.sublist (List.filter_sublist.map _)

/-- The entries with a text under a key. -/
def insert (entries : Entries) (key text : String) : Entries where
  pairs := (entries.erase key).pairs ++ [(key, text)]
  keys_nodup := by
    rw [List.map_append, List.nodup_append]
    refine ⟨(entries.erase key).keys_nodup, by simp, ?_⟩
    intro first member second last
    simp only [List.map_cons, List.map_nil, List.mem_singleton] at last
    obtain ⟨pair, kept, rfl⟩ := List.mem_map.mp member
    subst last
    simpa using (List.mem_filter.mp kept).2

/-- Erasing removes the text under the key and keeps the others. -/
theorem get?_erase (entries : Entries) (erased key : String) :
    (entries.erase erased).get? key = if key = erased then none else entries.get? key :=
  Pairs.lookup_without entries.pairs erased key

/-- Inserting sets the text under the key and keeps the others. -/
theorem get?_insert (entries : Entries) (inserted text key : String) :
    (entries.insert inserted text).get? key =
      if key = inserted then some text else entries.get? key :=
  Pairs.lookup_without_append entries.pairs inserted text key

/-! ## As documents -/

/-- Inserts the members of an object, all of which have to be texts. -/
def insertMembers? (entries : Entries) : List (Option String × Json) → Option Entries
  | [] => some entries
  | (some key, .str (some text)) :: members => (entries.insert key text).insertMembers? members
  | _ :: _ => none

/-- Reads an object of texts. -/
def read? : Json → Option Entries
  | .obj members => empty.insertMembers? members
  | _ => none

/-- The object of the entries. -/
def toJson (entries : Entries) : Json :=
  .object (entries.pairs.map fun pair => (pair.1, .text pair.2))

end Entries

end VisitorLink
