import VisitorLink.Proofs.Json.Layouts
import VisitorLink.Storage.Document

/-!
# Documents of entries

The document that is written for entries is read back as these entries, whatever characters their
keys and texts hold.

Main statement: `Entries.ofDocument_toDocument`.
-/

namespace VisitorLink

/-- A text that starts with a character other than a blank is not all blank. -/
theorem Text.trim_cons_ne_nil {c : Char} (rest : List Char) (solid : isBlank c = false) :
    trim (c :: rest) ≠ [] := by
  intro empty
  unfold trim at empty
  rw [trimLeft_cons_of_not_blank rest solid] at empty
  have blank := List.dropWhile_eq_nil_iff.1 (List.reverse_eq_nil_iff.1 empty) c
    (List.mem_reverse.2 (List.mem_cons_self ..))
  cases solid.symm.trans blank

namespace Json

/-- The members of an object of texts. -/
def texts (pairs : List (String × String)) : List (Option String × Json) :=
  pairs.map fun pair => (some pair.1, .text pair.2)

/-- The document of texts tells them in full. -/
theorem plain_texts (pairs : List (String × String)) : Plain (.obj (texts pairs)) := by
  have shape : Json.obj (texts pairs) =
      .object (pairs.map fun pair => (pair.1, .text pair.2)) := by
    unfold object texts
    rw [List.map_map]
    rfl
  rw [shape]
  refine .object fun member mem => ?_
  obtain ⟨pair, -, rfl⟩ := List.mem_map.1 mem
  exact .text pair.2

theorem writeIndented_obj (level : Nat) (members : List (Option String × Json)) :
    ∃ rest, writeIndented level (.obj members) = '\x7b' :: rest := by
  cases members with
  | nil => exact ⟨_, rfl⟩
  | cons => exact ⟨_, rfl⟩

end Json

namespace Entries

variable {entries : Entries}

/-- Entries with the same pairs are the same. -/
theorem eq_of_pairs {first second : Entries} (same : first.pairs = second.pairs) :
    first = second := by
  cases first
  cases same
  rfl

/-- A text under a fresh key is put last. -/
theorem pairs_insert {key : String} (fresh : key ∉ entries.pairs.map Prod.fst) (text : String) :
    (entries.insert key text).pairs = entries.pairs ++ [(key, text)] := by
  refine congrArg (· ++ [(key, text)]) (List.filter_eq_self.2 fun pair mem => bne_iff_ne.2 ?_)
  rintro rfl
  exact fresh (List.mem_map_of_mem mem)

/-- Texts under distinct keys are put in one by one. -/
theorem insertMembers?_texts {pairs : List (String × String)}
    (distinct : ((entries.pairs ++ pairs).map Prod.fst).Nodup) :
    entries.insertMembers? (Json.texts pairs) = some ⟨entries.pairs ++ pairs, distinct⟩ := by
  induction pairs generalizing entries with
  | nil => exact congrArg some (eq_of_pairs (List.append_nil _).symm)
  | cons pair pairs ih =>
      have fresh : pair.1 ∉ entries.pairs.map Prod.fst := by
        rw [List.map_append, List.nodup_append] at distinct
        exact fun mem => distinct.2.2 pair.1 mem pair.1 (List.mem_cons_self ..) rfl
      have inserted := pairs_insert fresh pair.2
      have same : (entries.insert pair.1 pair.2).pairs ++ pairs = entries.pairs ++ pair :: pairs := by
        rw [inserted, List.append_assoc]
        rfl
      have distinct' : (((entries.insert pair.1 pair.2).pairs ++ pairs).map Prod.fst).Nodup := by
        rwa [same]
      exact (ih distinct').trans (congrArg some (eq_of_pairs same))

/-- The value of entries is that of their pairs. -/
theorem toJson_eq (entries : Entries) : entries.toJson = .obj (Json.texts entries.pairs) := by
  unfold toJson Json.object Json.texts
  rw [List.map_map]
  rfl

/-- Entries are read back from their value. -/
theorem read?_toJson (entries : Entries) : read? entries.toJson = some entries := by
  rw [toJson_eq]
  exact @insertMembers?_texts empty _ entries.keys_nodup

/-- The document that is written for entries is read back as these entries. -/
theorem ofDocument_toDocument (entries : Entries) :
    ofDocument entries.toDocument = .ok entries := by
  have solid : Text.trim entries.toDocument.toList ≠ [] := by
    obtain ⟨rest, shape⟩ := Json.writeIndented_obj 0 (Json.texts entries.pairs)
    change Text.trim (String.ofList (Json.writeIndented 0 entries.toJson)).toList ≠ []
    rw [String.toList_ofList, toJson_eq, shape]
    exact Text.trim_cons_ne_nil rest rfl
  have reads : (Json.read? entries.toDocument).bind read? = some entries := by
    change (Json.read? entries.toJson.indented).bind read? = _
    rw [toJson_eq, Json.read?_indented (Json.plain_texts _), ← toJson_eq]
    exact read?_toJson entries
  unfold ofDocument
  rw [if_neg solid, reads]

end Entries

end VisitorLink
