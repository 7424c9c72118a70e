import VisitorLink.Proofs.Visitor.Remembered

/-!
# Looking for the remembered id

Looking for the id of the visitor finds the one in the cookies, or else the one in the local area,
and puts it where it is missing. Nothing else in the slots changes. A look after that finds the same
id and need not write anything.

Main statement: `RememberedId.looking_heals`.
-/

namespace VisitorLink

open RememberedId

/-- Something that is asked of the remembered id. -/
inductive IdRequest
  | load
  /-- The id is looked for, and one is made of random bytes if there is none. -/
  | loadOrCreate (bytes : Vector UInt8 16)
  | persist (id : String)
  | clear
deriving DecidableEq

namespace IdRequest

/-- What is done with the slots for a request. It is answered with the id, if it looks for one. -/
def serve : IdRequest → StorageM (Option String)
  | .load => RememberedId.load
  | .loadOrCreate bytes => some <$> RememberedId.loadOrCreate (Uuid.ofRandom bytes).hyphenated
  | .persist id => (fun _ => none) <$> RememberedId.persist id
  | .clear => (fun _ => none) <$> RememberedId.clear

/-- Whether a request looks for the id. -/
def looks : IdRequest → Bool
  | .load | .loadOrCreate _ => true
  | .persist _ | .clear => false

end IdRequest

namespace StorageM

variable {α β : Type}

/-- An operation that fails is not followed by the rest. -/
theorem on_bind_of_error {operation : StorageM α} {storage after : Storage} {error : StorageError}
    (ends : operation.on storage = (.error error, after)) (rest : α → StorageM β) :
    (operation >>= rest).on storage = (.error error, after) := by
  change (match operation.on storage with
    | (ended, after) => (ExceptT.bindCont rest ended) after) = _
  rw [ends]
  rfl

/-- Renaming the result of an operation leaves what it does. -/
theorem on_map (rename : α → β) (operation : StorageM α) (storage : Storage) :
    (rename <$> operation).on storage =
      ((operation.on storage).1.map rename, (operation.on storage).2) := by
  rw [map_eq_pure_bind]
  match answer : operation.on storage with
  | (.ok result, after) => rw [on_bind_of_ok answer]; rfl
  | (.error error, after) => rw [on_bind_of_error answer]; rfl

end StorageM

namespace Storage

variable {storage before after : Storage} {entries : Slot → Entries} {slot : Slot} {id : String}

/-- That a slot holds an id where the id of the visitor is kept. -/
def HoldsId (storage : Storage) (slot : Slot) (id : String) : Prop :=
  storage.getText slot RememberedId.key = .ok (some id) ∧ VisitorId.Valid id

/-- What becomes of the slots when the id is looked for and a given one, or none, is found. -/
structure Heals (before after : Storage) (found : Option String) : Prop where
  /-- The id in the cookies is found, and else the one in the local area. -/
  found_iff : ∀ id, found = some id ↔ before.HoldsId .cookies id ∨
    (∀ other, ¬before.HoldsId .cookies other) ∧ before.HoldsId .localArea id
  remembers : ∀ id, found = some id → after.Remembers id
  leaves : found = none → after = before
  spares : ∀ slot key, key ≠ RememberedId.key → after.getText slot key = before.getText slot key

/-- What becomes of the slots when the id is looked for and one is created if there is none. -/
structure Settles (before : Storage) (fresh id : String) (after : Storage) : Prop where
  valid : VisitorId.Valid id
  remembers : after.Remembers id
  spares : ∀ slot key, key ≠ RememberedId.key → after.getText slot key = before.getText slot key
  /-- A fresh id is taken only if no slot holds one. -/
  found_or_fresh : (∃ slot, before.HoldsId slot id) ∨
    (∀ slot other, ¬before.HoldsId slot other) ∧ id = fresh
  /-- Whoever looks for the id from now on finds it and changes nothing. -/
  lasts : ∀ requests : List IdRequest, (∀ request ∈ requests, request.looks = true) →
    (requests.mapM IdRequest.serve).on after = (.ok (requests.map fun _ => some id), after)

/-! ## Slots that hold entries -/

/-- Slots hold an id if it is among the entries and valid. -/
theorem Holds.holdsId_iff (holds : storage.Holds entries) :
    storage.HoldsId slot id ↔ valid? ((entries slot).get? RememberedId.key) = some id := by
  rw [HoldsId, holds.getText, Except.ok.injEq, valid?_eq_some]

/-- They hold none if there is none or it is not valid. -/
theorem Holds.not_holdsId_iff (holds : storage.Holds entries) :
    (∀ id, ¬storage.HoldsId slot id) ↔ valid? ((entries slot).get? RememberedId.key) = none := by
  rw [Option.eq_none_iff_forall_ne_some]
  exact forall_congr' fun id => not_congr holds.holdsId_iff

/-- The id that is found is that of the cookies, or else that of the local area. -/
theorem Holds.found?_eq_some_iff (holds : storage.Holds entries) :
    found? entries = some id ↔ storage.HoldsId .cookies id ∨
      (∀ other, ¬storage.HoldsId .cookies other) ∧ storage.HoldsId .localArea id := by
  rw [found?, Option.or_eq_some_iff, holds.holdsId_iff, holds.holdsId_iff, holds.not_holdsId_iff]

/-- Entries that are the same but for the id of the visitor make no other difference. -/
theorem Holds.spares {entries' : Slot → Entries} (holds : before.Holds entries)
    (holds' : after.Holds entries')
    (same : ∀ slot key, key ≠ RememberedId.key →
      (entries' slot).get? key = (entries slot).get? key) (slot : Slot) (key : String)
    (other : key ≠ RememberedId.key) : after.getText slot key = before.getText slot key := by
  rw [holds.getText, holds'.getText, same slot key other]

end Storage

namespace RememberedId

open StorageM Storage

section

variable {storage after : Storage} {entries : Slot → Entries} {id : String}

/-- Mending leaves whatever is under another key. -/
theorem mended_get?_of_ne (entries : Slot → Entries) (id : String) (slot : Slot) {key : String}
    (other : key ≠ RememberedId.key) :
    (mended entries id slot).get? key = (entries slot).get? key := by
  unfold mended
  split
  · rfl
  · rw [Entries.get?_insert, if_neg other]

/-- Where no slot holds an id, none is found and nothing changes. -/
theorem load_on_of_missing (texts : Slot → Option String)
    (gets : ∀ slot, storage.getText slot key = .ok (texts slot))
    (missing : ∀ slot, valid? (texts slot) = none) : load.on storage = (.ok none, storage) := by
  unfold load
  rw [on_bind_of_ok (on_get_of_ok (gets .cookies)), on_bind_of_ok (on_get_of_ok (gets .localArea)),
    missing, missing]
  rfl

/-- Where no id is found, no slot holds a valid one. -/
theorem missing_of_found?_none (missing : found? entries = none) (slot : Slot) :
    valid? ((entries slot).get? key) = none := by
  obtain ⟨cookie, other⟩ := Option.or_eq_none_iff.1 missing
  cases slot with
  | cookies => exact cookie
  | localArea => exact other

/-- Finding the remembered id heals the slots. -/
theorem load_heals (holds : storage.Holds entries) :
    ∃ after, load.on storage = (.ok (found? entries), after) ∧
      storage.Heals after (found? entries) := by
  have found_iff (id : String) : found? entries = some id ↔ _ := holds.found?_eq_some_iff
  cases found : found? entries with
  | none =>
      have missing := load_on_of_missing _ (fun slot => holds.getText slot key)
        (missing_of_found?_none found)
      exact ⟨storage, missing,
        { found_iff := fun id => found ▸ found_iff id
          remembers := nofun
          leaves := fun _ => rfl
          spares := fun _ _ _ => rfl }⟩
  | some id =>
      obtain ⟨after, loads, holds'⟩ := load_on holds
      rw [found] at loads holds'
      exact ⟨after, loads,
        { found_iff := fun id => found ▸ found_iff id
          remembers := by
            rintro _ ⟨⟩
            exact holds'.remembers_iff.2 (mended_get? entries id)
          leaves := nofun
          spares := holds.spares holds' fun slot _ => mended_get?_of_ne entries id slot }⟩

/-- A second look finds the same on all slots in which the same is read as after the first one, be
it that they cannot be written. -/
theorem load_again (holds : storage.Holds entries) (heals : storage.Heals after (found? entries))
    {later : Storage} (reads : ∀ slot, later.getText slot key = after.getText slot key) :
    load.on later = (.ok (found? entries), later) := by
  cases found : found? entries with
  | some id =>
      have remembers : later.Remembers id := fun slot =>
        (reads slot).trans (heals.remembers id found slot)
      exact remembers.load_on (valid_of_found? found)
  | none =>
      refine load_on_of_missing (fun slot => (entries slot).get? key) (fun slot => ?_)
        (missing_of_found?_none found)
      rw [reads, heals.leaves found, holds.getText]

/-- Whoever looks for an id that both slots hold finds it and changes nothing. -/
theorem looks_on (remembers : storage.Remembers id) (valid : VisitorId.Valid id)
    {requests : List IdRequest} (looks : ∀ request ∈ requests, request.looks = true) :
    (requests.mapM IdRequest.serve).on storage =
      (.ok (requests.map fun _ => some id), storage) := by
  have look {request : IdRequest} (looks : request.looks = true) :
      request.serve.on storage = (.ok (some id), storage) := by
    cases request with
    | load => exact remembers.load_on valid
    | loadOrCreate bytes =>
        rw [IdRequest.serve, on_map, remembers.loadOrCreate_on valid]
        rfl
    | persist | clear => cases looks
  induction requests with
  | nil => rfl
  | cons request requests ih =>
      obtain ⟨first, further⟩ := List.forall_mem_cons.1 looks
      rw [List.mapM_cons, on_bind_of_ok (look first), on_bind_of_ok (ih further)]
      rfl

/-- An id that is found is kept in place of a fresh one. -/
theorem settles_of_heals (heals : storage.Heals after (some id)) (fresh : String) :
    storage.Settles fresh id after := by
  have held : ∃ slot, storage.HoldsId slot id := by
    rcases (heals.found_iff id).1 rfl with cookie | ⟨_, other⟩
    · exact ⟨.cookies, cookie⟩
    · exact ⟨.localArea, other⟩
  obtain ⟨slot, holdsId⟩ := held
  have remembers := heals.remembers id rfl
  exact
    { valid := holdsId.2
      remembers := remembers
      spares := heals.spares
      found_or_fresh := .inl ⟨slot, holdsId⟩
      lasts := fun _ looks => looks_on remembers holdsId.2 looks }

/-- Creating an id where none is found puts it into both slots. -/
theorem settles_of_missing (holds : storage.Holds entries) (missing : found? entries = none)
    {fresh : String} (valid : VisitorId.Valid fresh) :
    ∃ after, (persist fresh).on storage = (.ok (), after) ∧ storage.Settles fresh fresh after := by
  obtain ⟨after, persists, holds'⟩ := persist_on holds fresh
  have remembers : after.Remembers fresh :=
    holds'.remembers_iff.2 fun slot => (Entries.get?_insert _ _ _ _).trans (if_pos rfl)
  exact ⟨after, persists,
    { valid := valid
      remembers := remembers
      spares := holds.spares holds' fun slot key other =>
        (Entries.get?_insert _ _ _ _).trans (if_neg other)
      found_or_fresh := .inr
        ⟨fun slot => holds.not_holdsId_iff.2 (missing_of_found?_none missing slot), rfl⟩
      lasts := fun _ looks => looks_on remembers valid looks }⟩

end

/-- In slots that do not fail, a look for the id finds the one in the cookies, or else the one in
the local area, puts it into both slots and touches nothing else, and a second look finds the same
without a need to write. Where an id is created if there is none, it is the one that is found, or
else a fresh one, and it lasts. -/
theorem looking_heals {storage : Storage} (faultless : storage.Faultless) :
    ∃ found after, load.on storage = (.ok found, after) ∧ storage.Heals after found ∧
      (∀ later : Storage, (∀ slot, later.getText slot key = after.getText slot key) →
        load.on later = (.ok found, later)) ∧
      ∀ bytes, let fresh := (Uuid.ofRandom bytes).hyphenated
        ∃ id last, (loadOrCreate fresh).on storage = (.ok id, last) ∧
          storage.Settles fresh id last ∧
            ∀ known, found = some known → id = known ∧ last = after := by
  obtain ⟨entries, holds⟩ := faultless.holds
  obtain ⟨after, loads, heals⟩ := load_heals holds
  refine ⟨found? entries, after, loads, heals, fun later => load_again holds heals, fun bytes => ?_⟩
  intro fresh
  unfold loadOrCreate
  rw [on_bind_of_ok loads]
  cases found : found? entries with
  | some id =>
      rw [found] at heals
      exact ⟨id, after, rfl, settles_of_heals heals fresh,
        fun known same => ⟨Option.some.inj same, rfl⟩⟩
  | none =>
      rw [found] at heals
      rw [heals.leaves rfl]
      obtain ⟨last, persists, settles⟩ :=
        settles_of_missing holds found (VisitorId.valid_hyphenated_ofRandom bytes)
      refine ⟨fresh, last, ?_, settles, nofun⟩
      dsimp only
      rw [on_bind_of_ok persists]
      rfl

namespace OneSlot

def localId : String := "5f0c1f4e-8f0b-4c55-9d2a-3a6f1d9b7e21"

/-- Something that is no id, beside the page that the visitor came from. -/
def cookies : Entries := (Entries.empty.insert key "nobody").insert "original_referrer" "page"

def localArea : Entries := Entries.empty.insert key localId

end OneSlot

open OneSlot in
/-- The id in the local area is put into the cookies in place of what is no id, and the page that is
kept there stays. -/
theorem local_id_heals_cookies :
    ∃ after, (Storage.memory { entries := cookies } { entries := localArea }).Faultless ∧
      load.on (.memory { entries := cookies } { entries := localArea }) =
        (.ok (some localId), after) ∧
      after.Remembers localId ∧ after.getText .cookies "original_referrer" = .ok (some "page") := by
  have holds : (Storage.memory { entries := cookies } { entries := localArea }).Holds fun slot =>
      if slot = .cookies then cookies else localArea := by
    intro slot
    cases slot <;> exact .inMemory rfl
  obtain ⟨found, after, loads, heals, _⟩ := looking_heals holds.faultless
  have nobody : valid? (cookies.get? key) = none := (by decide : valid? (some "nobody") = none)
  have valid : VisitorId.Valid localId := by decide
  obtain rfl : found = some localId :=
    (heals.found_iff localId).2 (.inr ⟨holds.not_holdsId_iff.2 nobody, rfl, valid⟩)
  exact ⟨after, holds.faultless, loads, heals.remembers localId rfl,
    heals.spares .cookies "original_referrer" (by decide)⟩

end RememberedId

end VisitorLink
