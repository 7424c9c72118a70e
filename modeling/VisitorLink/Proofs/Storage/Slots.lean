import Mathlib.Logic.Function.Basic
import VisitorLink.Proofs.Storage.Files
import VisitorLink.Storage.Slots

/-!
# Slots as maps

Slots whose operations do not fail are two maps of texts, be each of them in memory or in a file:
what is set in a slot is found there afterwards, and nothing else changes. In particular no
operation on them can make a later one fail.

Main statements: `Storage.faultless_iff_holds`, and what the operations do to slots that hold given
entries (`Storage.Holds.getText`, `Storage.Holds.setText` and `Storage.Holds.removeText`).
-/

namespace VisitorLink

/-- There is nothing to erase where nothing is held. -/
theorem Entries.erase_of_get?_none {entries : Entries} {key : String}
    (missing : entries.get? key = none) : entries.erase key = entries := by
  refine eq_of_pairs (List.filter_eq_self.2 fun pair mem => ?_)
  rw [bne_comm]
  exact List.lookup_eq_none_iff.1 missing pair mem

/-- What succeeds is a success. -/
theorem eq_ok_of_toOption {ε α : Type} {answer : Except ε α} {result : α}
    (succeeds : answer.toOption = some result) : answer = .ok result := by
  cases answer with
  | ok found => exact congrArg Except.ok (Option.some.inj succeeds)
  | error error => cases succeeds

/-! ## Files -/

namespace Folder

variable {folder : Folder} {slot : Slot} {entries : Entries}

/-- A slot whose entries can be read is no folder. -/
theorem isFolder_of_entries (reads : folder.entries slot.route = .ok entries) :
    folder.isFolder slot.path = false := by
  have located : folder.locate slot.route = some slot.path := by
    cases slot <;> rfl
  refine Bool.of_not_eq_true fun blocked => ?_
  unfold Folder.entries read at reads
  rw [located] at reads
  dsimp only at reads
  rw [if_pos blocked] at reads
  cases reads

/-- The file of a slot is spelled by its name. -/
theorem spells_route (slot : Slot) : slot.route.Spells [slot.fileName] := by
  cases slot <;> exact ⟨by decide, by decide, by decide⟩

/-- There is room for the file of a slot unless a folder is in its place. -/
theorem hasRoom_route (free : folder.isFolder slot.path = false) :
    folder.HasRoom [slot.fileName] slot.path where
  leads := ⟨.top, slot.fileName, rfl, rfl, by cases slot <;> rfl⟩
  free := free

/-- A file that can be read as entries can be written as such. -/
theorem writeEntries_route (reads : folder.entries slot.route = .ok entries) (written : Entries) :
    folder.writeEntries slot.route written =
      (.ok (), folder.put slot.path written.toDocument.toUTF8) := by
  unfold writeEntries write
  rw [(hasRoom_route (isFolder_of_entries reads)).makeRoom (spells_route slot)]

/-- A document in the file of a slot is read there, and only there. -/
theorem entries_put (free : folder.isFolder slot.path = false) (document : String) (other : Slot) :
    (folder.put slot.path document.toUTF8).entries other.route =
      if other = slot then Entries.ofDocument document else folder.entries other.route := by
  split
  case isTrue same =>
    subst same
    exact entries_putDocument (hasRoom_route free) (spells_route other) document
  case isFalse different =>
    have apart : other.path ≠ slot.path := by
      cases other <;> cases slot <;> first | exact absurd rfl different | decide
    have located (folder : Folder) : folder.locate other.route = some other.path := by
      cases other <;> rfl
    have kept : (folder.put slot.path document.toUTF8).read other.route =
        folder.read other.route := by
      have file := folder.file?_put slot.path document.toUTF8 other.path
      rw [if_neg apart] at file
      unfold read
      rw [located, located]
      dsimp only
      rw [file]
      rfl
    unfold Folder.entries
    rw [kept]

/-- Entries written to the file of a slot are read there, and only there. -/
theorem entries_putEntries (reads : folder.entries slot.route = .ok entries) (written : Entries)
    (other : Slot) :
    (folder.put slot.path written.toDocument.toUTF8).entries other.route =
      if other = slot then .ok written else folder.entries other.route := by
  rw [entries_put (isFolder_of_entries reads), Entries.ofDocument_toDocument]

end Folder

/-! ## Slots -/

/-- A slot on which every operation succeeds is not made to fail. -/
theorem MemorySlot.eq_of_succeeds {slot : MemorySlot} {key text : String} {found : Option String}
    (gets : slot.getText key = .ok found) (sets : (slot.setText key text).1 = .ok ())
    (removes : (slot.removeText key).1 = .ok ()) : slot = { entries := slot.entries } := by
  rcases slot with ⟨entries, _ | _, setFails, removeFails⟩
  · cases setFails
    · cases removeFails
      · rfl
      · cases removes
    · cases sets
  · cases gets

namespace Storage

/-- That no operation on the slots fails. -/
structure Faultless (storage : Storage) : Prop where
  get : ∀ slot key, ∃ found, storage.getText slot key = .ok found
  set : ∀ slot key text, (storage.setText slot key text).1 = .ok ()
  remove : ∀ slot key, (storage.removeText slot key).1 = .ok ()

/-- That a slot holds given entries and no operation on it is made to fail. -/
inductive HoldsAt (storage : Storage) (slot : Slot) (entries : Entries) : Prop
  | inMemory (kept : storage.kept slot = .inMemory { entries := entries })
  | inFile (kept : storage.kept slot = .inFile)
      (reads : storage.root.entries slot.route = .ok entries)

/-- That the slots hold given entries and no operation on them is made to fail. -/
def Holds (storage : Storage) (entries : Slot → Entries) : Prop :=
  ∀ slot, storage.HoldsAt slot (entries slot)

/-- That no operation on slots in memory is made to fail. Files may be in any state. -/
def Unhindered (storage : Storage) : Prop :=
  ∀ slot held, storage.kept slot = .inMemory held → held = { entries := held.entries }

variable {storage : Storage} {entries : Slot → Entries} {slot other : Slot} {key text : String}

/-! ### What is kept -/

/-- Keeping a slot leaves the other one as it is. -/
theorem kept_keep (storage : Storage) (held : MemorySlot) (slot other : Slot) :
    (storage.keep held slot).kept other =
      if other = slot then .inMemory held else storage.kept other := by
  cases slot <;> cases other <;> rfl

/-- Keeping a slot in memory leaves the folder as it is. -/
theorem root_keep (storage : Storage) (held : MemorySlot) (slot : Slot) :
    (storage.keep held slot).root = storage.root := by
  cases slot <;> rfl

/-- Files are written without a change in how the slots are kept. -/
theorem kept_root (storage : Storage) (root : Folder) (slot : Slot) :
    ({ storage with root := root } : Storage).kept slot = storage.kept slot := by
  cases slot <;> rfl

@[simp] theorem kept_folder (root : Folder) (slot : Slot) :
    (Storage.folder root).kept slot = .inFile := by
  cases slot <;> rfl

section InMemory

variable {held : MemorySlot} (kept : storage.kept slot = .inMemory held)

include kept

/-- A slot in memory is asked itself. -/
theorem getText_inMemory (key : String) : storage.getText slot key = held.getText key := by
  unfold getText
  rw [kept]

/-- A slot in memory is written to in its place. -/
theorem setText_inMemory (key text : String) : storage.setText slot key text =
    ((held.setText key text).1, storage.keep (held.setText key text).2 slot) := by
  unfold setText
  rw [kept]

/-- A slot in memory is removed from in its place. -/
theorem removeText_inMemory (key : String) : storage.removeText slot key =
    ((held.removeText key).1, storage.keep (held.removeText key).2 slot) := by
  unfold removeText
  rw [kept]

/-- A slot in memory always holds entries. -/
theorem entries?_inMemory : storage.entries? slot = some held.entries := by
  unfold entries?
  rw [kept]

end InMemory

section InFile

variable (kept : storage.kept slot = .inFile)

include kept

/-- A slot in a file is asked in the folder. -/
theorem getText_inFile (key : String) :
    storage.getText slot key = storage.root.getText slot.route key := by
  unfold getText
  rw [kept]

/-- A slot in a file is written to in the folder. -/
theorem setText_inFile (key text : String) : storage.setText slot key text =
    ((storage.root.setText slot.route key text).1,
      { storage with root := (storage.root.setText slot.route key text).2 }) := by
  unfold setText
  rw [kept]

/-- A slot in a file is removed from in the folder. -/
theorem removeText_inFile (key : String) : storage.removeText slot key =
    ((storage.root.removeText slot.route key).1,
      { storage with root := (storage.root.removeText slot.route key).2 }) := by
  unfold removeText
  rw [kept]

/-- The entries of a slot in a file are those that its document tells. -/
theorem entries?_inFile :
    storage.entries? slot = (storage.root.entries slot.route).toOption := by
  unfold entries?
  rw [kept]

end InFile

/-! ### Slots that can be read -/

/-- A slot in a file can be read unless reading the file fails. -/
theorem readable_inFile (kept : storage.kept slot = .inFile)
    (reads : ∀ error, storage.root.entries slot.route ≠ .error error) :
    ∃ entries, storage.entries? slot = some entries := by
  cases held : storage.root.entries slot.route with
  | ok entries => exact ⟨entries, (entries?_inFile kept).trans (congrArg Except.toOption held)⟩
  | error error => exact absurd held (reads error)

/-- A slot that was asked holds entries. -/
theorem readable_of_getText {found : Option String}
    (gets : storage.getText slot key = .ok found) :
    ∃ entries, storage.entries? slot = some entries := by
  cases kept : storage.kept slot with
  | inMemory held => exact ⟨_, entries?_inMemory kept⟩
  | inFile =>
      refine readable_inFile kept fun error fails => ?_
      rw [getText_inFile kept, Folder.getText, fails] at gets
      cases gets

/-- A slot that was written to holds entries. -/
theorem readable_of_setText (sets : (storage.setText slot key text).1 = .ok ()) :
    ∃ entries, storage.entries? slot = some entries := by
  cases kept : storage.kept slot with
  | inMemory held => exact ⟨_, entries?_inMemory kept⟩
  | inFile =>
      refine readable_inFile kept fun error fails => ?_
      rw [setText_inFile kept, Folder.setText, fails] at sets
      cases sets

/-- Unhindered slots hold entries if both can be read. -/
theorem Unhindered.exists_holds (unhindered : storage.Unhindered)
    (readable : ∀ slot, ∃ entries, storage.entries? slot = some entries) :
    ∃ entries, storage.Holds entries := by
  choose entries reads using readable
  refine ⟨entries, fun slot => ?_⟩
  have reads := reads slot
  cases kept : storage.kept slot with
  | inMemory held =>
      rw [entries?_inMemory kept] at reads
      rw [← Option.some.inj reads]
      exact .inMemory (kept.trans (congrArg Keeping.inMemory (unhindered slot held kept)))
  | inFile =>
      rw [entries?_inFile kept] at reads
      exact .inFile kept (eq_ok_of_toOption reads)

/-- Where nothing fails, no slot in memory is made to fail. -/
theorem Faultless.unhindered (faultless : storage.Faultless) : storage.Unhindered := by
  intro slot held kept
  obtain ⟨found, gets⟩ := faultless.get slot ""
  have sets := faultless.set slot "" ""
  have removes := faultless.remove slot ""
  rw [getText_inMemory kept] at gets
  rw [setText_inMemory kept] at sets
  rw [removeText_inMemory kept] at removes
  exact MemorySlot.eq_of_succeeds gets sets removes

/-- Where nothing fails, the slots hold entries. -/
theorem Faultless.holds (faultless : storage.Faultless) : ∃ entries, storage.Holds entries :=
  faultless.unhindered.exists_holds fun slot =>
    readable_of_getText (faultless.get slot "").choose_spec

/-! ### Slots that hold entries -/

/-- The entries that slots hold can be read. -/
theorem Holds.entries? (holds : storage.Holds entries) (slot : Slot) :
    storage.entries? slot = some (entries slot) := by
  cases holds slot with
  | inMemory kept => exact entries?_inMemory kept
  | inFile kept reads => exact (entries?_inFile kept).trans (congrArg Except.toOption reads)

/-- The text under a key of a slot is the one that the slot holds. -/
theorem Holds.getText (holds : storage.Holds entries) (slot : Slot) (key : String) :
    storage.getText slot key = .ok ((entries slot).get? key) := by
  cases holds slot with
  | inMemory kept => exact getText_inMemory kept key
  | inFile kept reads =>
      rw [getText_inFile kept]
      unfold Folder.getText
      rw [reads]
      rfl

/-- One slot in memory is replaced. -/
theorem holds_keep (holds : storage.Holds entries) (slot : Slot) (changed : Entries) :
    (storage.keep { entries := changed } slot).Holds (Function.update entries slot changed) := by
  intro other
  have kept := storage.kept_keep { entries := changed } slot other
  rw [Function.update_apply]
  split
  case isTrue same => exact .inMemory (kept.trans (if_pos same))
  case isFalse different =>
    rw [if_neg different] at kept
    cases holds other with
    | inMemory kept' => exact .inMemory (kept.trans kept')
    | inFile kept' reads =>
        have root := root_keep storage { entries := changed } slot
        exact .inFile (kept.trans kept') ((congrArg (·.entries other.route) root).trans reads)

/-- The file of one slot is written. -/
theorem holds_put (holds : storage.Holds entries) (kept : storage.kept slot = .inFile)
    (reads : storage.root.entries slot.route = .ok (entries slot)) (changed : Entries) :
    ({ storage with
        root := storage.root.put slot.path changed.toDocument.toUTF8 } : Storage).Holds
      (Function.update entries slot changed) := by
  intro other
  have put := Folder.entries_putEntries reads changed other
  have kept' := storage.kept_root (storage.root.put slot.path changed.toDocument.toUTF8) other
  rw [Function.update_apply]
  split
  case isTrue same =>
    rw [if_pos same] at put
    exact .inFile (kept'.trans (same ▸ kept)) put
  case isFalse different =>
    rw [if_neg different] at put
    cases holds other with
    | inMemory kept => exact .inMemory (kept'.trans kept)
    | inFile kept reads => exact .inFile (kept'.trans kept) (put.trans reads)

/-- Setting a text in one slot makes no difference to the other one. -/
theorem entries?_setText_of_ne (storage : Storage) (different : other ≠ slot) (key text : String) :
    (storage.setText slot key text).2.entries? other = storage.entries? other := by
  cases kept : storage.kept slot with
  | inMemory held =>
      rw [setText_inMemory kept]
      unfold entries?
      rw [kept_keep, if_neg different, root_keep]
  | inFile =>
      rw [setText_inFile kept]
      unfold entries?
      rw [kept_root]
      unfold Folder.setText
      cases held : storage.root.entries slot.route with
      | error error => rfl
      | ok entries =>
          dsimp only
          rw [Folder.writeEntries_route held, Folder.entries_putEntries held, if_neg different]

/-- Setting a text in a slot succeeds, and changes nothing but what is under its key there. -/
theorem Holds.setText (holds : storage.Holds entries) (slot : Slot) (key text : String) :
    ∃ after, storage.setText slot key text = (.ok (), after) ∧
      after.Holds (Function.update entries slot ((entries slot).insert key text)) := by
  cases holds slot with
  | inMemory kept => exact ⟨_, setText_inMemory kept key text, holds_keep holds slot _⟩
  | inFile kept reads =>
      refine ⟨_, ?_, holds_put holds kept reads _⟩
      rw [setText_inFile kept]
      unfold Folder.setText
      rw [reads]
      dsimp only
      rw [Folder.writeEntries_route reads]

/-- Removing a text from a slot succeeds, and changes nothing but what is under its key there. -/
theorem Holds.removeText (holds : storage.Holds entries) (slot : Slot) (key : String) :
    ∃ after, storage.removeText slot key = (.ok (), after) ∧
      after.Holds (Function.update entries slot ((entries slot).erase key)) := by
  cases holds slot with
  | inMemory kept => exact ⟨_, removeText_inMemory kept key, holds_keep holds slot _⟩
  | inFile kept reads =>
      rw [removeText_inFile kept]
      cases held : (entries slot).get? key with
      | some text =>
          have removes : storage.root.removeText slot.route key =
              storage.root.writeEntries slot.route ((entries slot).erase key) := by
            simp only [Folder.removeText, reads, held]
          rw [removes, Folder.writeEntries_route reads]
          exact ⟨_, rfl, holds_put holds kept reads _⟩
      | none =>
          -- A file that lacks the key is not written.
          have removes : storage.root.removeText slot.route key = (.ok (), storage.root) := by
            simp only [Folder.removeText, reads, held]
          rw [removes, Entries.erase_of_get?_none held, Function.update_eq_self]
          exact ⟨storage, rfl, holds⟩

/-- Slots that hold entries do not fail. -/
theorem Holds.faultless (holds : storage.Holds entries) : storage.Faultless where
  get slot key := ⟨_, holds.getText slot key⟩
  set slot key text := by
    obtain ⟨after, sets, _⟩ := holds.setText slot key text
    rw [sets]
  remove slot key := by
    obtain ⟨after, removes, _⟩ := holds.removeText slot key
    rw [removes]

/-- Slots on which no operation fails hold entries, and no operation on slots that hold entries
fails. -/
theorem faultless_iff_holds : storage.Faultless ↔ ∃ entries, storage.Holds entries :=
  ⟨Faultless.holds, fun ⟨_, holds⟩ => holds.faultless⟩

end Storage

end VisitorLink
