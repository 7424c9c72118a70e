import VisitorLink.Proofs.Storage.Requests
import VisitorLink.Proofs.Storage.Trees
import VisitorLink.Proofs.Visitor.Healing

/-!
# Files that hold no entries

A file that is no text, or a text that is no object of texts, may be all that is left of something
of value. Every request at it is refused and leaves it as it is, and so does every request at
another file, be it for texts or for the id of the visitor. The exception is a detour: it leads to
no file, hence what is set along it begins with no entries, and the file is written over all the
same, as the folders on the detour are made first.

Main statement: `Folder.guards_unreadable`.
-/

namespace VisitorLink

open TextRequest

/-- That bytes hold no entries, with the kind of the error that tells so. -/
inductive Unreadable (bytes : ByteArray) : (String → StorageError) → Prop
  | noText (noText : ∀ document : String, bytes ≠ document.toUTF8) : Unreadable bytes .io
  | noObject {document : String} (text : bytes = document.toUTF8)
      (solid : ¬ ∀ c ∈ document.toList, Text.isBlank c = true)
      (noObject : ∀ pairs, Json.read? document ≠ some (.obj (Json.texts pairs))) :
      Unreadable bytes .corrupt

/-- Something that the files of a folder are asked for: texts in the file along a route, or the id
in the two slots. -/
inductive FileRequest
  | text (route : Route) (request : TextRequest)
  | id (request : IdRequest)

/-- Whether a request reads every file that it may write before it writes any. To remember or to
forget the id, the second slot is not read until the first one was written. -/
def FileRequest.readsFirst : FileRequest → Bool
  | .text _ _ => true
  | .id request => request.looks

/-- Serves a request from the files of a folder. -/
def Folder.serveFile (folder : Folder) : FileRequest → Answer × Folder
  | .text route request => folder.serve (route, request)
  | .id request =>
      let (answer, storage) := request.serve.on (.folder folder)
      (answer, storage.root)

/-! ## The id in two files -/

namespace Folder

/-- That texts in the two slots were set and removed. -/
def Edits : Folder → Folder → Prop :=
  Relation.ReflTransGen fun before after =>
    ∃ (slot : Slot) (request : TextRequest), after = (before.serve (slot.route, request)).2

/-- What stores the id sets texts in the files of the two slots. -/
theorem edits_of_storesId {folder : Folder} {storage : Storage}
    (stores : (Storage.folder folder).StoresId storage) :
    ∃ after, storage = .folder after ∧ folder.Edits after := by
  induction stores with
  | refl => exact ⟨folder, rfl, .refl⟩
  | tail _ sets ih =>
      obtain ⟨middle, rfl, edits⟩ := ih
      obtain ⟨slot, id, rfl⟩ := sets
      refine ⟨_, ?_, edits.tail ⟨slot, .set RememberedId.key id, rfl⟩⟩
      rw [Storage.setText_inFile (Storage.kept_folder middle slot)]
      rfl

/-- What clears the id removes texts from those files. -/
theorem edits_clear (folder : Folder) :
    ∃ after, (RememberedId.clear.on (.folder folder)).2 = .folder after ∧ folder.Edits after := by
  have first : (StorageM.remove .cookies RememberedId.key).on (.folder folder) =
      ((folder.removeText Slot.cookies.route RememberedId.key).1,
        .folder (folder.removeText Slot.cookies.route RememberedId.key).2) := rfl
  have edits : folder.Edits (folder.removeText Slot.cookies.route RememberedId.key).2 :=
    .single ⟨.cookies, .remove RememberedId.key, rfl⟩
  unfold RememberedId.clear
  cases ends : (folder.removeText Slot.cookies.route RememberedId.key).1 with
  | ok done =>
      rw [ends] at first
      rw [StorageM.on_bind_of_ok first]
      exact ⟨_, rfl, edits.tail ⟨.localArea, .remove RememberedId.key, rfl⟩⟩
  | error error =>
      rw [ends] at first
      rw [StorageM.on_bind_of_error first]
      exact ⟨_, rfl, edits⟩

/-- Whatever is done with the id, texts in the two slots are set and removed. -/
theorem edits_serve (folder : Folder) (request : IdRequest) :
    ∃ after, (request.serve.on (.folder folder)).2 = .folder after ∧ folder.Edits after := by
  cases request with
  | load => exact edits_of_storesId (RememberedId.storesId_load _)
  | loadOrCreate bytes =>
      rw [IdRequest.serve, StorageM.on_map]
      exact edits_of_storesId (RememberedId.storesId_loadOrCreate _ _)
  | persist id =>
      rw [IdRequest.serve, StorageM.on_map]
      exact edits_of_storesId (RememberedId.storesId_persist _ _)
  | clear =>
      rw [IdRequest.serve, StorageM.on_map]
      exact edits_clear folder

/-- A request for the id is served from the files and leaves files. -/
theorem serveFile_id (folder : Folder) (request : IdRequest) :
    request.serve.on (.folder folder) =
      ((folder.serveFile (.id request)).1, .folder (folder.serveFile (.id request)).2) := by
  obtain ⟨after, ends, _⟩ := folder.edits_serve request
  refine Prod.ext rfl ?_
  simp only [serveFile, ends]
  rfl

/-- It sets and removes texts in the two slots. -/
theorem edits_serveFile (folder : Folder) (request : IdRequest) :
    folder.Edits (folder.serveFile (.id request)).2 := by
  obtain ⟨after, ends, edits⟩ := folder.edits_serve request
  rw [serveFile_id] at ends
  cases ends
  exact edits

end Folder

namespace StorageM

/-- A text that cannot be got fails the operation. -/
theorem on_get_of_error {storage : Storage} {slot : Slot} {key : String} {error : StorageError}
    (fails : storage.getText slot key = .error error) :
    (get slot key).on storage = (.error error, storage) :=
  (on_get storage slot key).trans (congrArg (·, storage) fails)

end StorageM

/-- Slots that are not made to fail hold entries, or looking for the id fails before anything is
written. -/
theorem Storage.Unhindered.holds_or_load_fails {storage : Storage}
    (unhindered : storage.Unhindered) :
    (∃ entries, storage.Holds entries) ∨
      ∃ error, RememberedId.load.on storage = (.error error, storage) := by
  unfold RememberedId.load
  cases cookies : storage.getText .cookies RememberedId.key with
  | error error =>
      exact .inr ⟨error, StorageM.on_bind_of_error (StorageM.on_get_of_error cookies) _⟩
  | ok cookie =>
      rw [StorageM.on_bind_of_ok (StorageM.on_get_of_ok cookies)]
      cases localArea : storage.getText .localArea RememberedId.key with
      | error error =>
          exact .inr ⟨error, StorageM.on_bind_of_error (StorageM.on_get_of_error localArea) _⟩
      | ok other =>
          refine .inl (unhindered.exists_holds fun slot => ?_)
          cases slot with
          | cookies => exact readable_of_getText cookies
          | localArea => exact readable_of_getText localArea

/-- Looking for the id succeeds, or it fails and changes nothing. -/
theorem Storage.Unhindered.looks_or_fails {storage : Storage} (unhindered : storage.Unhindered)
    {request : IdRequest} (looks : request.looks = true) :
    (∃ found after, request.serve.on storage = (.ok found, after)) ∨
      ∃ error, request.serve.on storage = (.error error, storage) := by
  cases request with
  | load =>
      refine unhindered.holds_or_load_fails.imp ?_ id
      rintro ⟨entries, holds⟩
      obtain ⟨after, loads, _⟩ := RememberedId.load_on holds
      exact ⟨_, after, loads⟩
  | loadOrCreate bytes =>
      rw [IdRequest.serve, StorageM.on_map]
      rcases unhindered.holds_or_load_fails with ⟨entries, holds⟩ | ⟨error, fails⟩
      · obtain ⟨after, creates, _⟩ := RememberedId.loadOrCreate_on holds _
        rw [creates]
        exact .inl ⟨_, after, rfl⟩
      · rw [RememberedId.loadOrCreate, StorageM.on_bind_of_error fails]
        exact .inr ⟨error, rfl⟩
  | persist | clear => cases looks

namespace Folder

variable {folder after : Folder} {route : Route} {path : Path} {bytes : ByteArray}
  {kind : String → StorageError} {entries : Entries} {error : StorageError}

/-! ## Requests that fail -/

/-- Of a file that holds no entries none are read. -/
theorem entries_of_unreadable (found : folder.read route = .ok (some bytes))
    (unreadable : Unreadable bytes kind) :
    ∃ reason, folder.entries route = .error (kind reason) := by
  cases unreadable with
  | noText noText =>
      unfold Folder.entries
      rw [found]
      simp only [bind, Except.bind]
      split
      case h_1 => exact ⟨_, rfl⟩
      case h_2 document decodes =>
        exact absurd (Text.eq_toUTF8_of_fromUTF8? decodes) (noText document)
  | @noObject document text solid noObject =>
      subst text
      rw [entries_of_read found]
      cases reads : Entries.ofDocument document with
      | ok entries =>
          rcases Entries.ofDocument_eq_ok_iff.1 reads with ⟨blank, _⟩ | ⟨_, pairs, holds, _⟩
          · exact absurd blank solid
          · exact absurd holds (noObject pairs)
      | error error =>
          unfold Entries.ofDocument at reads
          split at reads
          · cases reads
          · split at reads
            · cases reads
            · cases reads
              exact ⟨_, rfl⟩

/-- Where the entries cannot be read, every request fails and nothing is changed. -/
theorem serve_of_entries_error (fails : folder.entries route = .error error)
    (request : TextRequest) : folder.serve (route, request) = (.error error, folder) := by
  cases request with
  | get key =>
      simp only [serve, getText, fails]
      rfl
  | set key text =>
      simp only [serve, setText, fails]
      rfl
  | remove key =>
      simp only [serve, removeText, fails]
      rfl

/-- Where entries are read, a request does no more than that, or it writes others in their place.
Where there are none, it writes only to set a text. -/
theorem serve_of_entries (held : folder.entries route = .ok entries) (request : TextRequest) :
    (∃ found, folder.serve (route, request) = (.ok found, folder)) ∨
      ∃ written, folder.serve (route, request) =
          ((folder.writeEntries route written).1.map fun _ => none,
            (folder.writeEntries route written).2) ∧
        (entries = .empty → ∃ key text, request = .set key text) := by
  cases request with
  | get key =>
      refine .inl ⟨entries.get? key, ?_⟩
      simp only [serve, getText, held]
      rfl
  | set key text =>
      refine .inr ⟨entries.insert key text, ?_, fun _ => ⟨key, text, rfl⟩⟩
      simp only [serve, setText, held]
  | remove key =>
      cases found : entries.get? key with
      | none =>
          refine .inl ⟨none, ?_⟩
          simp only [serve, removeText, held, found]
          rfl
      | some text =>
          refine .inr ⟨entries.erase key, ?_, ?_⟩
          · simp only [serve, removeText, held, found]
          · rintro rfl
            cases found

/-- What cannot be written leaves the files as they were. -/
theorem file?_write_of_error (fails : (folder.write route bytes).1 = .error error) (path : Path) :
    (folder.write route bytes).2.file? path = folder.file? path := by
  rw [file?_write, if_neg]
  intro makes
  rw [write, makeRoom_eq makes] at fails
  cases fails

/-- A request for a text that fails changes no file. -/
theorem file?_serve_of_error {request : TextRequest}
    (fails : folder.serve (route, request) = (.error error, after)) (path : Path) :
    after.file? path = folder.file? path := by
  cases held : folder.entries route with
  | error reason =>
      rw [serve_of_entries_error held] at fails
      cases fails
      rfl
  | ok entries =>
      rcases serve_of_entries held request with ⟨found, serves⟩ | ⟨written, serves, _⟩
      · cases serves.symm.trans fails
      · obtain ⟨answer, rfl⟩ := Prod.mk.inj (serves.symm.trans fails)
        cases writes : (folder.writeEntries route written).1 with
        | ok done =>
            rw [writes] at answer
            cases answer
        | error error => exact file?_write_of_error writes path

/-- A request that reads first and fails changes no file. -/
theorem file?_serveFile_of_error {request : FileRequest} (first : request.readsFirst = true)
    (fails : folder.serveFile request = (.error error, after)) (path : Path) :
    after.file? path = folder.file? path := by
  cases request with
  | text route request => exact file?_serve_of_error fails path
  | id request =>
      have serves := folder.serveFile_id request
      rw [fails] at serves
      have unhindered : (Storage.folder folder).Unhindered := fun slot held kept =>
        nomatch (Storage.kept_folder folder slot).symm.trans kept
      rcases unhindered.looks_or_fails first with ⟨found, last, finds⟩ | ⟨_, same⟩
      · cases serves.symm.trans finds
      · cases serves.symm.trans same
        rfl

/-! ## Files that are written over -/

/-- A request leaves whatever stands in folders there. -/
theorem Rooted.serve (rooted : folder.Rooted) (route : Route) (request : TextRequest) :
    (folder.serve (route, request)).2.Rooted := by
  cases request with
  | get key => exact rooted
  | set key text => exact rooted.setText route key text
  | remove key => exact rooted.removeText route key

/-- What stands at the end of a route is read there if it could be written over. -/
theorem read_of_makeRoom (makes : (folder.makeRoom route).1 = some path)
    (located : folder.locate route = some path) : folder.read route = .ok (folder.file? path) := by
  obtain ⟨spells, room⟩ := hasRoom_makeRoom (makeRoom_eq makes)
  have free : folder.isFolder path = false := by
    refine Bool.of_not_eq_true fun there => ?_
    have kept : (folder.makeRoom route).2.isFolder path = true := by
      unfold makeRoom
      split
      · exact there
      · exact isFolder_makeWay there .top route.parent.names
    exact Bool.false_ne_true (room.free.symm.trans kept)
  unfold read
  rw [located]
  dsimp only
  rw [free, spells.toFile]
  rfl

/-- Writing where entries were read, but not along a detour, leaves a file that holds none. -/
theorem Rooted.file?_write (rooted : folder.Rooted) (file : folder.file? path = some bytes)
    (unreadable : Unreadable bytes kind) (held : folder.entries route = .ok entries)
    (direct : ¬folder.Detours route path) (written : ByteArray) :
    (folder.write route written).2.file? path = some bytes := by
  rw [Folder.file?_write, if_neg, file]
  intro makes
  refine direct (rooted.detours file makes fun located => ?_)
  obtain ⟨reason, fails⟩ :=
    entries_of_unreadable ((read_of_makeRoom makes located).trans (congrArg _ file)) unreadable
  cases held.symm.trans fails

/-- A file that holds no entries is left by all requests for texts but those that set a text along
a detour to it. -/
theorem Rooted.file?_serve (rooted : folder.Rooted) (file : folder.file? path = some bytes)
    (unreadable : Unreadable bytes kind) (route : Route) (request : TextRequest) :
    (folder.serve (route, request)).2.file? path = some bytes ∨
      folder.Detours route path ∧ ∃ key text, request = .set key text := by
  cases held : folder.entries route with
  | error error =>
      rw [serve_of_entries_error held]
      exact .inl file
  | ok entries =>
      rcases serve_of_entries held request with ⟨found, serves⟩ | ⟨written, serves, sets⟩
      · rw [serves]
        exact .inl file
      · by_cases detours : folder.Detours route path
        · refine .inr ⟨detours, sets ?_⟩
          exact Except.ok.inj (held.symm.trans detours.entries)
        · rw [serves]
          exact .inl (rooted.file?_write file unreadable held detours _)

/-- No slot lies on a detour. -/
theorem not_detours_route (slot : Slot) : ¬folder.Detours slot.route path := by
  rintro ⟨⟨former, later, names, _⟩, _⟩
  have up : Path.upName ∈ slot.route.names := by
    rw [names]
    exact List.mem_append_right _ (List.mem_cons_self ..)
  cases slot <;> revert up <;> decide

/-- Texts set and removed leave whatever stands in folders there. -/
theorem Rooted.edits (rooted : folder.Rooted) (edits : folder.Edits after) : after.Rooted := by
  induction edits with
  | refl => exact rooted
  | tail _ serves ih =>
      obtain ⟨slot, request, rfl⟩ := serves
      exact ih.serve slot.route request

/-- A file without entries is kept in its bytes while texts are set and removed. -/
theorem Rooted.file?_of_edits (rooted : folder.Rooted) (file : folder.file? path = some bytes)
    (unreadable : Unreadable bytes kind) (edits : folder.Edits after) :
    after.file? path = some bytes := by
  induction edits with
  | refl => exact file
  | tail earlier serves ih =>
      obtain ⟨slot, request, rfl⟩ := serves
      rcases (rooted.edits earlier).file?_serve ih unreadable slot.route request with
        kept | ⟨detours, _⟩
      · exact kept
      · exact absurd detours (not_detours_route slot)

/-- A request for files leaves whatever stands in folders there. -/
theorem Rooted.serveFile (rooted : folder.Rooted) (request : FileRequest) :
    (folder.serveFile request).2.Rooted := by
  cases request with
  | text route request => exact rooted.serve route request
  | id request => exact rooted.edits (folder.edits_serveFile request)

/-- A file that holds no entries is left by every request that does not set a text along a detour to
it. -/
theorem Rooted.file?_serveFile (rooted : folder.Rooted) (file : folder.file? path = some bytes)
    (unreadable : Unreadable bytes kind) (request : FileRequest) :
    (folder.serveFile request).2.file? path = some bytes ∨
      ∃ route key text, request = .text route (.set key text) ∧ folder.Detours route path := by
  cases request with
  | text route request =>
      refine (rooted.file?_serve file unreadable route request).imp id ?_
      rintro ⟨detours, key, text, rfl⟩
      exact ⟨route, key, text, rfl, detours⟩
  | id request =>
      exact .inl (rooted.file?_of_edits file unreadable (folder.edits_serveFile request))

/-- That requests set a text along a detour to a place at which the same bytes stand until then. -/
def Overwrites (folder : Folder) (path : Path) (bytes : ByteArray) (requests : List FileRequest) :
    Prop :=
  ∃ earlier route key text later,
    requests = earlier ++ .text route (.set key text) :: later ∧
      (serveAll Folder.serveFile folder earlier).2.file? path = some bytes ∧
      (serveAll Folder.serveFile folder earlier).2.Detours route path

/-- A file that holds no entries is left by all requests until one sets a text along a detour. -/
theorem Rooted.file?_serveAll (rooted : folder.Rooted) (file : folder.file? path = some bytes)
    (unreadable : Unreadable bytes kind) (requests : List FileRequest) :
    (serveAll Folder.serveFile folder requests).2.file? path = some bytes ∨
      folder.Overwrites path bytes requests := by
  induction requests generalizing folder with
  | nil => exact .inl file
  | cons request requests ih =>
      rcases rooted.file?_serveFile file unreadable request with
        kept | ⟨route, key, text, rfl, detours⟩
      · refine (ih (rooted.serveFile request) kept).imp id ?_
        rintro ⟨earlier, route, key, text, later, rfl, stands, detours⟩
        exact ⟨request :: earlier, route, key, text, later, rfl, stands, detours⟩
      · exact .inr ⟨[], route, key, text, requests, rfl, file, detours⟩

/-- What is set along a detour is all that the file holds afterwards. -/
theorem Detours.serve (detours : folder.Detours route path) (key text : String) :
    ∃ after, folder.serve (route, .set key text) = (.ok none, after) ∧
      after.file? path = some (Entries.empty.insert key text).toDocument.toUTF8 := by
  have made := makeRoom_eq detours.arrives
  generalize (folder.makeRoom route).2 = changed at made
  refine ⟨changed.put path (Entries.empty.insert key text).toDocument.toUTF8, ?_, ?_⟩
  · simp only [Folder.serve, Folder.setText, detours.entries, writeEntries, Folder.write, made]
    rfl
  · rw [file?_put, if_pos rfl]

/-- What is kept of the files of a folder, whatever they are asked for. -/
structure GuardsUnreadable (folder : Folder) : Prop where
  /-- Asking for a text changes nothing. -/
  get : ∀ route key, (folder.serveFile (.text route (.get key))).2 = folder
  fails : ∀ request error after, request.readsFirst = true →
    folder.serveFile request = (.error error, after) →
      ∀ path, after.file? path = folder.file? path
  /-- Every request at a file that holds no entries is refused with the error that tells so. -/
  refuses : ∀ route bytes kind, folder.read route = .ok (some bytes) → Unreadable bytes kind →
    ∀ request, ∃ reason, folder.serve (route, request) = (.error (kind reason), folder)
  keeps : ∀ path bytes kind, folder.file? path = some bytes → Unreadable bytes kind →
    ∀ requests, (serveAll Folder.serveFile folder requests).2.file? path = some bytes ∨
      folder.Overwrites path bytes requests
  overwrites : ∀ route path, folder.Detours route path → ∀ key text, ∃ after,
    folder.serve (route, .set key text) = (.ok none, after) ∧
      after.file? path = some (Entries.empty.insert key text).toDocument.toUTF8

/-- Asking for a text writes nothing, and a request that fails leaves every file as it is. A file
that holds no entries refuses every request. No requests change it, but for those that set a text
along a detour, and these do write it over. -/
theorem guards_unreadable (rooted : folder.Rooted) : folder.GuardsUnreadable where
  get _ _ := rfl
  fails _ _ _ first fails := file?_serveFile_of_error first fails
  refuses route bytes kind found unreadable request := by
    obtain ⟨reason, fails⟩ := entries_of_unreadable found unreadable
    exact ⟨reason, serve_of_entries_error fails request⟩
  keeps _ _ _ file unreadable := rooted.file?_serveAll file unreadable
  overwrites _ _ detours := detours.serve

end Folder

namespace BrokenCookies

/-- A text that is no object. -/
def document : String := "\x7b not json"

def path : Path := Slot.cookies.path

/-- A folder with nothing in it but that text in the place of the cookies. -/
def folder : Folder := { files := [(path, document.toUTF8)] }

/-- A route to the cookies that goes up from a folder that is not there. -/
def detour : Route := ⟨["no", Path.upName, "cookies.json"]⟩

/-- Requests along the shortest route, and for the id. -/
def requests : List FileRequest :=
  [.text Slot.cookies.route (.set "k" "v"), .id .load, .id (.persist "id"), .id .clear]

theorem rooted : folder.Rooted :=
  Folder.rooted_of_listed (by decide) nofun

theorem unreadable : Unreadable document.toUTF8 .corrupt := by
  have none : Json.read? document = none := by cbv
  refine .noObject rfl (fun blank => Bool.false_ne_true (blank '\x7b' (by decide))) ?_
  intro pairs reads
  cases none.symm.trans reads

theorem detours : folder.Detours detour path where
  goesUp := ⟨["no"], ["cookies.json"], by decide, by decide⟩
  arrives := by rfl

end BrokenCookies

open BrokenCookies in
/-- Cookies that hold no entries are still the same after requests at them have been refused. -/
theorem Folder.broken_cookies_stay :
    folder.Rooted ∧
      (∃ reason, folder.serve (Slot.cookies.route, .remove "k") =
        (.error (.corrupt reason), folder)) ∧
      (serveAll Folder.serveFile folder requests).2.file? path = some document.toUTF8 := by
  have guards := guards_unreadable rooted
  refine ⟨rooted, guards.refuses _ _ _ rfl unreadable _, ?_⟩
  rcases guards.keeps path _ _ rfl unreadable requests with kept | overwritten
  · exact kept
  · obtain ⟨earlier, route, key, text, later, asked, _, detours⟩ := overwritten
    have mem : FileRequest.text route (.set key text) ∈ requests := by
      rw [asked]
      exact List.mem_append_right _ (List.mem_cons_self ..)
    simp only [requests, List.mem_cons, FileRequest.text.injEq, reduceCtorEq, List.not_mem_nil,
      or_false] at mem
    obtain ⟨rfl, _⟩ := mem
    exact absurd detours (not_detours_route .cookies)

open BrokenCookies in
/-- A text that is set along a detour to such cookies replaces them. -/
theorem Folder.detour_writes_over_cookies :
    folder.Rooted ∧ folder.file? path = some document.toUTF8 ∧
      Unreadable document.toUTF8 .corrupt ∧
      ∃ after, folder.serve (detour, .set "k" "v") = (.ok none, after) ∧
        after.file? path ≠ some document.toUTF8 := by
  obtain ⟨after, sets, holds⟩ := detours.serve "k" "v"
  refine ⟨rooted, rfl, unreadable, after, sets, fun same => ?_⟩
  have texts := congrArg String.fromUTF8? (Option.some.inj (holds.symm.trans same))
  rw [Text.fromUTF8?_toUTF8, Text.fromUTF8?_toUTF8] at texts
  exact absurd (Option.some.inj texts) (by decide)

end VisitorLink
