import Mathlib.Data.List.Permutation
import VisitorLink.Proofs.Storage.Slots

/-!
# Texts in a file

A file of texts is asked for texts, and texts in it are set and removed. All that there is between
two requests is the file, so that it may be opened anew at any time, also along a route that is
written in another way.

Main statement: the file answers every request as a map in memory does that began with the texts in
the file, and holds the texts of the map after it (`Folder.file_refines_memory`).
-/

namespace VisitorLink

/-! ## What a file holds -/

theorem Text.trim_eq_nil_iff {s : List Char} : trim s = [] ↔ ∀ c ∈ s, isBlank c = true := by
  constructor
  · intro empty
    refine List.dropWhile_eq_nil_iff.1 ?_
    cases shape : trimLeft s with
    | nil => exact shape
    | cons c rest =>
        have solid := trimLeft_head shape
        unfold trim at empty
        rw [shape] at empty
        have blank := List.dropWhile_eq_nil_iff.1 (List.reverse_eq_nil_iff.1 empty) c
          (List.mem_reverse.2 (List.mem_cons_self ..))
        cases solid.symm.trans blank
  · intro blank
    have drops : trimLeft s = [] := List.dropWhile_eq_nil_iff.2 blank
    rw [trim, drops]
    rfl

namespace Entries

/-- The entries with texts inserted one after the other. -/
def insertAll (entries : Entries) (pairs : List (String × String)) : Entries :=
  pairs.foldl (fun entries pair => entries.insert pair.1 pair.2) entries

/-- Of a repeated key the last text counts. -/
theorem get?_insertAll (entries : Entries) (pairs : List (String × String)) (key : String) :
    (entries.insertAll pairs).get? key = (pairs.reverse.lookup key).or (entries.get? key) := by
  induction pairs generalizing entries with
  | nil => rfl
  | cons pair pairs ih =>
      obtain ⟨name, text⟩ := pair
      refine (ih (entries.insert name text)).trans ?_
      rw [get?_insert, List.reverse_cons, List.lookup_append, Pairs.lookup_cons]
      by_cases same : key = name
      · simp [same]
      · simp [same]

theorem insertMembers?_eq_some_iff {members : List (Option String × Json)}
    {entries changed : Entries} :
    entries.insertMembers? members = some changed ↔
      ∃ pairs, members = Json.texts pairs ∧ changed = entries.insertAll pairs := by
  induction members generalizing entries with
  | nil =>
      constructor
      · rintro ⟨⟩
        exact ⟨[], rfl, rfl⟩
      · rintro ⟨pairs, same, rfl⟩
        cases pairs with
        | nil => rfl
        | cons pair pairs => cases same
  | cons member members ih =>
      constructor
      · intro inserts
        unfold insertMembers? at inserts
        split at inserts
        · cases ‹member :: members = []›
        case h_2 key text rest same =>
          cases same
          obtain ⟨pairs, rfl, rfl⟩ := ih.1 inserts
          exact ⟨(key, text) :: pairs, rfl, rfl⟩
        · cases inserts
      · rintro ⟨pairs, same, rfl⟩
        cases pairs with
        | nil => cases same
        | cons pair pairs =>
            cases same
            exact ih.2 ⟨pairs, rfl, rfl⟩

/-- A document holds entries if it is blank or an object of texts. -/
theorem ofDocument_eq_ok_iff {document : String} {entries : Entries} :
    ofDocument document = .ok entries ↔
      (∀ c ∈ document.toList, Text.isBlank c = true) ∧ entries = .empty ∨
        (¬ ∀ c ∈ document.toList, Text.isBlank c = true) ∧
          ∃ pairs, Json.read? document = some (.obj (Json.texts pairs)) ∧
            entries = empty.insertAll pairs := by
  rw [← Text.trim_eq_nil_iff]
  constructor
  · intro reads
    unfold ofDocument at reads
    split at reads
    case isTrue blank =>
      cases reads
      exact .inl ⟨blank, rfl⟩
    case isFalse solid =>
      split at reads
      case h_2 => cases reads
      case h_1 held =>
        cases reads
        obtain ⟨value, reads, holds⟩ := Option.bind_eq_some_iff.1 held
        unfold read? at holds
        split at holds
        case h_2 => cases holds
        case h_1 members =>
          obtain ⟨pairs, rfl, same⟩ := insertMembers?_eq_some_iff.1 holds
          exact .inr ⟨solid, pairs, reads, same⟩
  · rintro (⟨blank, rfl⟩ | ⟨solid, pairs, reads, rfl⟩)
    · exact if_pos blank
    · have inserts : empty.insertMembers? (Json.texts pairs) = _ :=
        insertMembers?_eq_some_iff.2 ⟨pairs, rfl, rfl⟩
      rw [ofDocument, if_neg solid, reads, Option.bind_some, read?, inserts]

end Entries

namespace Folder

variable {folder after : Folder} {route other : Route} {names : List String} {path : Path}
  {entries : Entries}

/-- What the file at the end of a route holds: nothing if there is no file or a blank one, and else
the texts of an object, of which the last one under a key counts. -/
inductive Decodes (folder : Folder) (route : Route) : Entries → Prop
  | missing (none : folder.read route = .ok none) : Decodes folder route .empty
  | blank {document : String} (found : folder.read route = .ok (some document.toUTF8))
      (blank : ∀ c ∈ document.toList, Text.isBlank c = true) : Decodes folder route .empty
  | texts {document : String} {pairs : List (String × String)}
      (found : folder.read route = .ok (some document.toUTF8))
      (solid : ¬ ∀ c ∈ document.toList, Text.isBlank c = true)
      (reads : Json.read? document = some (.obj (Json.texts pairs))) :
      Decodes folder route (Entries.empty.insertAll pairs)

theorem entries_of_read {document : String}
    (found : folder.read route = .ok (some document.toUTF8)) :
    folder.entries route = Entries.ofDocument document := by
  unfold Folder.entries
  rw [found]
  simp only [bind, Except.bind, Text.fromUTF8?_toUTF8]

/-- What a file holds is what is read there. -/
theorem decodes_iff : folder.Decodes route entries ↔ folder.entries route = .ok entries := by
  constructor
  · intro decodes
    cases decodes with
    | missing none =>
        unfold Folder.entries
        rw [none]
        rfl
    | blank found blank =>
        rw [entries_of_read found]
        exact Entries.ofDocument_eq_ok_iff.2 (.inl ⟨blank, rfl⟩)
    | texts found solid reads =>
        rw [entries_of_read found]
        exact Entries.ofDocument_eq_ok_iff.2 (.inr ⟨solid, _, reads, rfl⟩)
  · intro reads
    unfold Folder.entries at reads
    cases file : folder.read route with
    | error error =>
        rw [file] at reads
        cases reads
    | ok found =>
        rw [file] at reads
        cases found with
        | none =>
            cases reads
            exact .missing file
        | some bytes =>
            simp only [bind, Except.bind] at reads
            split at reads
            case h_1 => cases reads
            case h_2 document decodes =>
              cases Text.eq_toUTF8_of_fromUTF8? decodes
              rcases Entries.ofDocument_eq_ok_iff.1 reads with
                ⟨blank, rfl⟩ | ⟨solid, pairs, holds, rfl⟩
              · exact .blank file blank
              · exact .texts file solid holds

end Folder

/-! ## Requests -/

/-- Something that a storage of texts is asked to do. -/
inductive TextRequest
  | get (key : String)
  | set (key text : String)
  | remove (key : String)

namespace TextRequest

/-- What a request is answered with: the text that was asked for, if there is one. -/
abbrev Answer : Type := Except StorageError (Option String)

/-- Serves requests one after the other, each with what the one before it has left. -/
def serveAll {σ ρ : Type} (serve : σ → ρ → Answer × σ) : σ → List ρ → List Answer × σ
  | left, [] => ([], left)
  | left, request :: requests =>
      let (answer, left) := serve left request
      let (answers, left) := serveAll serve left requests
      (answer :: answers, left)

end TextRequest

open TextRequest

/-- Serves a request from texts in memory. -/
def MemorySlot.serve (slot : MemorySlot) : TextRequest → Answer × MemorySlot
  | .get key => (slot.getText key, slot)
  | .set key text => ((slot.setText key text).1.map fun _ => none, (slot.setText key text).2)
  | .remove key => ((slot.removeText key).1.map fun _ => none, (slot.removeText key).2)

namespace Folder

/-- Serves a request from the file at the end of a route, along which it was opened. -/
def serve (folder : Folder) : Route × TextRequest → Answer × Folder
  | (route, .get key) => (folder.getText route key, folder)
  | (route, .set key text) =>
      ((folder.setText route key text).1.map fun _ => none, (folder.setText route key text).2)
  | (route, .remove key) =>
      ((folder.removeText route key).1.map fun _ => none, (folder.removeText route key).2)

variable {folder : Folder} {route other : Route} {names : List String} {entries : Entries}

/-- It makes no difference which route to the file is taken. -/
theorem serve_of_spells (spells : route.Spells names) (spells' : other.Spells names)
    (request : TextRequest) : folder.serve (route, request) = folder.serve (other, request) := by
  have reads : folder.read route = folder.read other := by
    unfold read locate
    rw [spells.sound, spells.toFile, spells.names_eq, spells'.sound, spells'.toFile,
      spells'.names_eq]
  have entries : folder.entries route = folder.entries other := by
    unfold Folder.entries
    rw [reads]
  have makes : folder.makeRoom route = folder.makeRoom other := by
    unfold makeRoom
    rw [Route.isSound_parent spells.sound, Route.isSound_parent spells'.sound,
      Route.names_parent spells.toFile, Route.names_parent spells'.toFile, spells.sound,
      spells.toFile, spells.names_eq, spells'.sound, spells'.toFile, spells'.names_eq]
  cases request with
  | get key => simp only [serve, getText, entries]
  | set key text => simp only [serve, setText, entries, writeEntries, write, makes]
  | remove key => simp only [serve, removeText, entries, writeEntries, write, makes]

/-- That a file holds entries and can be written. -/
structure Keeps (folder : Folder) (route : Route) (entries : Entries) : Prop where
  reads : folder.entries route = .ok entries
  writes : ∃ path after, folder.makeRoom route = (some path, after)

/-- Writing succeeds, and the file holds what was written. -/
theorem Keeps.writeEntries (keeps : folder.Keeps route entries) (written : Entries) :
    ∃ after, folder.writeEntries route written = (.ok (), after) ∧ after.Keeps route written := by
  obtain ⟨path, after, makes⟩ := keeps.writes
  obtain ⟨spells, room⟩ := hasRoom_makeRoom makes
  let changed := after.put path written.toDocument.toUTF8
  refine ⟨changed, ?_, ?_, path, changed, (room.put _).makeRoom spells⟩
  · rw [Folder.writeEntries, write, makes]
  · exact (entries_putDocument room spells _).trans (Entries.ofDocument_toDocument written)

/-- A request is answered from a file as it is from memory, and both hold the same after it. -/
theorem Keeps.serve (keeps : folder.Keeps route entries) (request : TextRequest) :
    ∃ answer after changed, folder.serve (route, request) = (answer, after) ∧
      MemorySlot.serve { entries := entries } request = (answer, { entries := changed }) ∧
      after.Keeps route changed := by
  cases request with
  | get key =>
      refine ⟨_, folder, entries, rfl, ?_, keeps⟩
      simp only [getText, keeps.reads]
      rfl
  | set key text =>
      obtain ⟨after, writes, keeps'⟩ := keeps.writeEntries (entries.insert key text)
      refine ⟨.ok none, after, entries.insert key text, ?_, rfl, keeps'⟩
      simp only [Folder.serve, setText, keeps.reads, writes]
      rfl
  | remove key =>
      cases held : entries.get? key with
      | some text =>
          obtain ⟨after, writes, keeps'⟩ := keeps.writeEntries (entries.erase key)
          refine ⟨.ok none, after, entries.erase key, ?_, rfl, keeps'⟩
          simp only [Folder.serve, removeText, keeps.reads, held, writes]
          rfl
      | none =>
          -- A file that lacks the key is not written, and memory does not change either.
          refine ⟨.ok none, folder, entries, ?_, ?_, keeps⟩
          · simp only [Folder.serve, removeText, keeps.reads, held]
            rfl
          · simp only [MemorySlot.serve, MemorySlot.removeText, Entries.erase_of_get?_none held]
            rfl

theorem Keeps.serveAll (keeps : folder.Keeps route entries)
    {requests : List (Route × TextRequest)}
    (spells : ∀ request ∈ requests, request.1.Spells route.names) :
    ∃ answers after changed, serveAll Folder.serve folder requests = (answers, after) ∧
      serveAll MemorySlot.serve { entries := entries } (requests.map Prod.snd) =
        (answers, { entries := changed }) ∧ after.Keeps route changed := by
  have own : route.Spells route.names := by
    obtain ⟨path, after, makes⟩ := keeps.writes
    exact (hasRoom_makeRoom makes).1
  induction requests generalizing folder entries with
  | nil => exact ⟨[], folder, entries, rfl, rfl, keeps⟩
  | cons request requests ih =>
      obtain ⟨opened, request⟩ := request
      obtain ⟨along, further⟩ := List.forall_mem_cons.1 spells
      obtain ⟨answer, middle, changed, serves, same, keeps'⟩ := keeps.serve request
      obtain ⟨answers, after, changed', serves', same', keeps''⟩ := ih keeps' further
      rw [serve_of_spells own along] at serves
      refine ⟨answer :: answers, after, changed', ?_, ?_, keeps''⟩
      · simp only [TextRequest.serveAll, serves, serves']
      · simp only [TextRequest.serveAll, List.map_cons, same, same']

/-- A file that can be read and written answers every request as memory does that begins with what
the file holds, and holds what the memory does after it, wherever and along whatever routes to it
the file is opened anew in between. -/
theorem file_refines_memory (decodes : folder.Decodes route entries) {bytes : ByteArray}
    (writes : (folder.write route bytes).1 = .ok ()) (requests : List (Route × TextRequest))
    (spells : ∀ request ∈ requests, request.1.Spells route.names) :
    (serveAll serve folder requests).1 =
        (serveAll MemorySlot.serve { entries := entries } (requests.map Prod.snd)).1 ∧
      (serveAll serve folder requests).2.Decodes route
        (serveAll MemorySlot.serve { entries := entries } (requests.map Prod.snd)).2.entries := by
  have room : ∃ path after, folder.makeRoom route = (some path, after) := by
    unfold write at writes
    split at writes
    case h_1 path after makes => exact ⟨path, after, makes⟩
    case h_2 => cases writes
  have keeps : folder.Keeps route entries := ⟨decodes_iff.1 decodes, room⟩
  obtain ⟨answers, after, changed, inFile, inMemory, keeps'⟩ := keeps.serveAll spells
  rw [inFile, inMemory]
  exact ⟨rfl, decodes_iff.2 keeps'.reads⟩

end Folder

namespace NestedFile

/-- An object that repeats a key. -/
def document : String := "\x7b\"a\": \"1\", \"a\": \"2\"\x7d"

/-- A file in a folder. -/
def path : Path := (Path.top.inside "nested").inside "cookies.json"

/-- A folder with the one in it, and the file. -/
def folder : Folder :=
  { files := [(path, document.toUTF8)], folders := [Path.top.inside "nested"] }

/-- The shortest route to the file. -/
def route : Route := ⟨["nested", "cookies.json"]⟩

/-- Two more routes to the file, and a text with a quote, a line feed and a clef. -/
def requests : List (Route × TextRequest) :=
  [(route, .get "a"), (⟨[".", "nested", "", "cookies.json"]⟩, .set "\"\n" "𝄞"),
    (⟨["nested", ".", "cookies.json"]⟩, .remove "a")]

theorem read_route : folder.read route = .ok (some document.toUTF8) := by
  have found : folder.locate route = some path := by decide
  have file : folder.isFolder path = false := by decide
  unfold Folder.read
  rw [found]
  dsimp only
  rw [file]
  rfl

theorem makeRoom_route : folder.makeRoom route = (some path, folder) := by
  have leads : folder.Leads Path.top ["nested"] (Path.top.inside "nested") :=
    ⟨_, by decide, by decide, rfl, rfl⟩
  have room : folder.HasRoom ["nested", "cookies.json"] path :=
    ⟨⟨_, "cookies.json", leads, by decide, by decide⟩, by decide⟩
  exact room.makeRoom ⟨by decide, by decide, by decide⟩

end NestedFile

open NestedFile in
/-- A key that is repeated, and a file in a folder that is opened along three routes. -/
theorem Folder.nested_file_refines_memory :
    folder.Decodes route (Entries.empty.insertAll [("a", "1"), ("a", "2")]) ∧
      (folder.write route .empty).1 = .ok () ∧
      (∀ request ∈ requests, request.1.Spells route.names) ∧
      (serveAll Folder.serve folder requests).1 = [.ok (some "2"), .ok none, .ok none] := by
  have decodes : folder.Decodes route (Entries.empty.insertAll [("a", "1"), ("a", "2")]) :=
    .texts read_route (fun blank => Bool.false_ne_true (blank '\x7b' (by decide))) (by cbv)
  have writes : (folder.write route .empty).1 = .ok () := by
    rw [Folder.write, makeRoom_route]
  have spells : ∀ request ∈ requests, request.1.Spells route.names := by
    simp only [requests, List.forall_mem_cons]
    refine ⟨?_, ?_, ?_, List.forall_mem_nil _⟩ <;> exact ⟨by decide, by decide, by decide⟩
  exact ⟨decodes, writes, spells,
    (Folder.file_refines_memory decodes writes requests spells).1.trans rfl⟩

end VisitorLink
