import Mathlib.Logic.Relation
import VisitorLink.Proofs.Storage.Slots
import VisitorLink.Proofs.Visitor.Ids
import VisitorLink.Visitor.Remembered

/-!
# What becomes of the slots when an id is remembered

On slots whose operations do not fail, finding the remembered id mends the slot that lacks it,
remembering an id puts it into both slots, and no other entry is touched. An id that both slots hold
is found again, and finding it changes nothing.

Main statements: `RememberedId.load_on`, `RememberedId.persist_on` and
`RememberedId.loadOrCreate_on`.
-/

namespace VisitorLink

namespace StorageM

variable {α β : Type} {operation : StorageM α} {storage after : Storage}

/-- An operation that succeeds is followed by the rest. -/
theorem on_bind_of_ok {result : α} (ends : operation.on storage = (.ok result, after))
    (rest : α → StorageM β) : (operation >>= rest).on storage = (rest result).on after := by
  change (match operation.on storage with
    | (ended, after) => (ExceptT.bindCont rest ended) after) = _
  rw [ends]
  rfl

theorem on_get (storage : Storage) (slot : Slot) (key : String) :
    (get slot key).on storage = (storage.getText slot key, storage) := rfl

/-- A text that can be got is got. -/
theorem on_get_of_ok {slot : Slot} {key : String} {found : Option String}
    (gets : storage.getText slot key = .ok found) :
    (get slot key).on storage = (.ok found, storage) :=
  (on_get storage slot key).trans (congrArg (·, storage) gets)

theorem on_set (storage : Storage) (slot : Slot) (key text : String) :
    (set slot key text).on storage = storage.setText slot key text := rfl

end StorageM

namespace RememberedId

open StorageM

variable {storage : Storage} {entries : Slot → Entries} {id : String}

/-- A found text is taken for an id exactly if it is valid. -/
theorem valid?_eq_some {found : Option String} :
    valid? found = some id ↔ found = some id ∧ VisitorId.Valid id := by
  unfold valid?
  rw [Option.filter_eq_some_iff, decide_eq_true_iff]

/-- The id that is found in slots with given entries, the cookies first. -/
def found? (entries : Slot → Entries) : Option String :=
  (valid? ((entries .cookies).get? key)).or (valid? ((entries .localArea).get? key))

/-- The entries of the slots with an id put where it is missing. -/
def mended (entries : Slot → Entries) (id : String) (slot : Slot) : Entries :=
  if (entries slot).get? key = some id then entries slot else (entries slot).insert key id

/-- Mended slots hold the id. -/
theorem mended_get? (entries : Slot → Entries) (id : String) (slot : Slot) :
    (mended entries id slot).get? key = some id := by
  unfold mended
  split
  case isTrue holds => exact holds
  case isFalse => exact (Entries.get?_insert _ _ _ _).trans (if_pos rfl)

/-- There is nothing to mend where the id is held. -/
theorem mended_of_held (held : ∀ slot, (entries slot).get? key = some id) :
    mended entries id = entries := by
  funext slot
  exact if_pos (held slot)

/-- The slot that lacks an id is mended by setting it there. -/
theorem mend_on (holds : storage.Holds entries) {slot : Slot}
    (held : ∀ other, other ≠ slot → (entries other).get? key = some id)
    (lacks : (entries slot).get? key ≠ some id) :
    ∃ after, (do StorageM.set slot key id; return some id : StorageM _).on storage =
      (.ok (some id), after) ∧ after.Holds (mended entries id) := by
  obtain ⟨after, sets, holds'⟩ := holds.setText slot key id
  have same : Function.update entries slot ((entries slot).insert key id) = mended entries id := by
    funext other
    rw [Function.update_apply]
    unfold mended
    split
    case isTrue here =>
      subst here
      exact (if_neg lacks).symm
    case isFalse there => exact (if_pos (held other there)).symm
  rw [on_bind_of_ok ((on_set storage slot key id).trans sets)]
  exact ⟨after, rfl, same ▸ holds'⟩

/-- Finding the remembered id puts it where it is missing, and changes nothing else. -/
theorem load_on (holds : storage.Holds entries) :
    ∃ after, load.on storage = (.ok (found? entries), after) ∧
      after.Holds ((found? entries).elim entries (mended entries)) := by
  unfold load
  rw [on_bind_of_ok (on_get_of_ok (holds.getText .cookies key)),
    on_bind_of_ok (on_get_of_ok (holds.getText .localArea key))]
  unfold found?
  cases cookie : valid? ((entries .cookies).get? key) with
  | some id =>
      obtain ⟨held, valid⟩ := valid?_eq_some.1 cookie
      dsimp only [Option.some_or, Option.elim_some]
      split
      case isTrue other =>
        refine mend_on holds (fun slot different => ?_) fun holds => ?_
        · cases slot with
          | cookies => exact held
          | localArea => exact absurd rfl different
        · exact other (valid?_eq_some.2 ⟨holds, valid⟩)
      case isFalse same =>
        have both : ∀ slot, (entries slot).get? key = some id := by
          intro slot
          cases slot with
          | cookies => exact held
          | localArea => exact (valid?_eq_some.1 (not_not.1 same)).1
        refine ⟨storage, rfl, ?_⟩
        rwa [mended_of_held both]
  | none =>
      cases other : valid? ((entries .localArea).get? key) with
      | some id =>
          obtain ⟨held, valid⟩ := valid?_eq_some.1 other
          refine mend_on holds (fun slot different => ?_) fun holds => ?_
          · cases slot with
            | cookies => exact absurd rfl different
            | localArea => exact held
          · cases cookie.symm.trans (valid?_eq_some.2 ⟨holds, valid⟩)
      | none => exact ⟨storage, rfl, holds⟩

/-- Remembering an id puts it into both slots, and changes nothing else. -/
theorem persist_on (holds : storage.Holds entries) (id : String) :
    ∃ after, (persist id).on storage = (.ok (), after) ∧
      after.Holds fun slot => (entries slot).insert key id := by
  obtain ⟨middle, sets, holds'⟩ := holds.setText .cookies key id
  obtain ⟨after, sets', holds''⟩ := holds'.setText .localArea key id
  refine ⟨after, ?_, ?_⟩
  · unfold persist
    rw [on_bind_of_ok ((on_set storage _ _ _).trans sets)]
    exact sets'
  · refine (congrArg after.Holds (funext fun slot => ?_)).mp holds''
    cases slot <;> rfl

/-- The remembered id is found if there is one, and else a fresh one is remembered. -/
theorem loadOrCreate_on (holds : storage.Holds entries) (fresh : String) :
    ∃ after, (loadOrCreate fresh).on storage = (.ok ((found? entries).getD fresh), after) ∧
      after.Holds (match found? entries with
        | some id => mended entries id
        | none => fun slot => (entries slot).insert key fresh) := by
  obtain ⟨middle, loads, holds'⟩ := load_on holds
  unfold loadOrCreate
  rw [on_bind_of_ok loads]
  cases found : found? entries with
  | some id =>
      rw [found] at holds'
      exact ⟨middle, rfl, holds'⟩
  | none =>
      rw [found] at holds'
      obtain ⟨after, persists, holds''⟩ := persist_on holds' fresh
      dsimp only
      rw [on_bind_of_ok persists]
      exact ⟨after, rfl, holds''⟩

/-- Only a valid id is found. -/
theorem valid_of_found? (found : found? entries = some id) : VisitorId.Valid id := by
  unfold found? at found
  rcases Option.or_eq_some_iff.1 found with cookie | ⟨_, other⟩
  · exact (valid?_eq_some.1 cookie).2
  · exact (valid?_eq_some.1 other).2

end RememberedId

/-! ## Slots that hold an id -/

namespace Storage

open RememberedId

/-- That both slots hold an id where the id of the visitor is kept. -/
def Remembers (storage : Storage) (id : String) : Prop :=
  ∀ slot, storage.getText slot RememberedId.key = .ok (some id)

variable {storage : Storage} {entries : Slot → Entries} {id : String}

/-- Slots remember an id exactly if it is held in both. -/
theorem Holds.remembers_iff (holds : storage.Holds entries) :
    storage.Remembers id ↔ ∀ slot, (entries slot).get? key = some id := by
  refine forall_congr' fun slot => ?_
  rw [holds.getText, Except.ok.injEq]

/-- Slots remember one id only. -/
theorem Remembers.eq {other : String} (remembers : storage.Remembers id)
    (remembers' : storage.Remembers other) : id = other := by
  have same := (remembers .cookies).symm.trans (remembers' .cookies)
  injection same with same
  exact Option.some.inj same

/-- An id that both slots hold is found there, and finding it changes nothing. -/
theorem Remembers.load_on (remembers : storage.Remembers id) (valid : VisitorId.Valid id) :
    load.on storage = (.ok (some id), storage) := by
  unfold load
  rw [StorageM.on_bind_of_ok (StorageM.on_get_of_ok (remembers .cookies)),
    StorageM.on_bind_of_ok (StorageM.on_get_of_ok (remembers .localArea))]
  rw [valid?_eq_some.2 ⟨rfl, valid⟩]
  dsimp only
  rw [if_neg (not_not.2 rfl)]
  rfl

/-- A remembered id is found again, and nothing is written. -/
theorem Remembers.loadOrCreate_on (remembers : storage.Remembers id) (valid : VisitorId.Valid id)
    (fresh : String) : (loadOrCreate fresh).on storage = (.ok id, storage) := by
  unfold loadOrCreate
  rw [StorageM.on_bind_of_ok (remembers.load_on valid)]
  rfl

/-- Where nothing fails, an id that is stored is remembered. -/
theorem Faultless.persist_on (faultless : storage.Faultless) (id : String) :
    ∃ after, (persist id).on storage = (.ok (), after) ∧ after.Faultless ∧ after.Remembers id := by
  obtain ⟨entries, holds⟩ := faultless.holds
  obtain ⟨after, persists, holds'⟩ := RememberedId.persist_on holds id
  refine ⟨after, persists, holds'.faultless, holds'.remembers_iff.2 fun slot => ?_⟩
  exact (Entries.get?_insert _ _ _ _).trans (if_pos rfl)

/-- Where nothing fails, an id can be stored. -/
theorem Faultless.persists (faultless : storage.Faultless) (id : String) :
    ((persist id).on storage).1 = .ok () := by
  obtain ⟨after, persists, _⟩ := faultless.persist_on id
  rw [persists]

/-- Where nothing fails, there is an id after looking for it, and it is remembered. -/
theorem Faultless.loadOrCreate_on (faultless : storage.Faultless) {fresh : String}
    (valid : VisitorId.Valid fresh) :
    ∃ id after, (loadOrCreate fresh).on storage = (.ok id, after) ∧ VisitorId.Valid id ∧
      after.Faultless ∧ after.Remembers id := by
  obtain ⟨entries, holds⟩ := faultless.holds
  obtain ⟨after, loads, holds'⟩ := RememberedId.loadOrCreate_on holds fresh
  cases found : found? entries with
  | some id =>
      rw [found] at loads holds'
      exact ⟨id, after, loads, valid_of_found? found, holds'.faultless,
        holds'.remembers_iff.2 (mended_get? entries id)⟩
  | none =>
      rw [found] at loads holds'
      refine ⟨fresh, after, loads, valid, holds'.faultless,
        holds'.remembers_iff.2 fun slot => ?_⟩
      exact (Entries.get?_insert _ _ _ _).trans (if_pos rfl)

end Storage

/-! ## What is written -/

/-- That the slots differ at most in texts that were set under the key of the id. -/
def Storage.StoresId : Storage → Storage → Prop :=
  Relation.ReflTransGen fun before after =>
    ∃ slot id, after = (before.setText slot RememberedId.key id).2

namespace StorageM

variable {α β : Type}

/-- That all that an operation does is to set texts under the key of the id. -/
def StoresId (operation : StorageM α) : Prop :=
  ∀ storage : Storage, storage.StoresId (operation.on storage).2

/-- Doing nothing stores no more than the id. -/
theorem storesId_pure (result : α) : StoresId (pure result) :=
  fun _ => .refl

/-- Reading stores nothing. -/
theorem storesId_get (slot : Slot) (key : String) : StoresId (get slot key) :=
  fun _ => .refl

/-- Setting the id stores no more than the id. -/
theorem storesId_set (slot : Slot) (id : String) : StoresId (set slot RememberedId.key id) :=
  fun _ => .single ⟨slot, id, rfl⟩

/-- One operation after another stores no more than the id if neither does. -/
theorem StoresId.bind {operation : StorageM α} {rest : α → StorageM β}
    (stores : StoresId operation) (after : ∀ result, StoresId (rest result)) :
    StoresId (operation >>= rest) := by
  intro storage
  change storage.StoresId (match operation.on storage with
    | (ended, after) => (ExceptT.bindCont rest ended) after).2
  have first := stores storage
  match ends : operation.on storage with
  | (.ok result, middle) =>
      rw [ends] at first
      exact first.trans (after result middle)
  | (.error error, middle) =>
      rw [ends] at first
      exact first

end StorageM

namespace RememberedId

open StorageM

/-- Storing the id stores no more than the id. -/
theorem storesId_persist (id : String) : StoresId (persist id) :=
  (storesId_set .cookies id).bind fun _ => storesId_set .localArea id

/-- Looking for the id stores no more than the id, where it heals a slot. -/
theorem storesId_load : StoresId load := by
  refine (storesId_get .cookies key).bind fun cookie => ?_
  refine (storesId_get .localArea key).bind fun other => ?_
  dsimp only
  split
  · split
    · exact (storesId_set .localArea _).bind fun _ => storesId_pure _
    · exact storesId_pure _
  · exact (storesId_set .cookies _).bind fun _ => storesId_pure _
  · exact storesId_pure _

/-- Looking for the id and making one up stores no more than the id. -/
theorem storesId_loadOrCreate (fresh : String) : StoresId (loadOrCreate fresh) := by
  refine storesId_load.bind fun found => ?_
  cases found with
  | some id => exact storesId_pure _
  | none => exact (storesId_persist fresh).bind fun _ => storesId_pure _

end RememberedId

end VisitorLink
