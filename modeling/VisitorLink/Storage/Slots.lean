import VisitorLink.Storage.Document

/-!
# The two slots of a visitor

What is kept of a visitor between visits lies in two slots, the cookies and the local area of the
browser. Each is kept in memory or in a file of a folder, whichever way the other one is kept. A
slot in memory may be made to fail, one operation at a time.
-/

namespace VisitorLink

/-- The two slots. -/
inductive Slot
  | cookies
  | localArea
deriving DecidableEq, Repr

namespace Slot

/-- The name of the file that holds a slot. -/
def fileName : Slot → String
  | .cookies => "cookies.json"
  | .localArea => "local_storage.json"

/-- The place of the file that holds a slot. -/
def path (slot : Slot) : Path :=
  Path.top.inside slot.fileName

/-- The route to the file that holds a slot. -/
def route (slot : Slot) : Route where
  steps := [slot.fileName]

end Slot

/-- A slot in memory, and which of its operations fail. -/
structure MemorySlot where
  entries : Entries := .empty
  getFails : Bool := false
  setFails : Bool := false
  removeFails : Bool := false
deriving DecidableEq

namespace MemorySlot

/-- The error of an operation that is made to fail. -/
def fault : StorageError := .io "fault"

/-- The text under a key. -/
def getText (slot : MemorySlot) (key : String) : Except StorageError (Option String) :=
  if slot.getFails then .error fault else .ok (slot.entries.get? key)

/-- Sets the text under a key. -/
def setText (slot : MemorySlot) (key text : String) : Except StorageError Unit × MemorySlot :=
  if slot.setFails then (.error fault, slot)
  else (.ok (), { slot with entries := slot.entries.insert key text })

/-- Removes the text under a key. -/
def removeText (slot : MemorySlot) (key : String) : Except StorageError Unit × MemorySlot :=
  if slot.removeFails then (.error fault, slot)
  else (.ok (), { slot with entries := slot.entries.erase key })

end MemorySlot

/-- How a slot is kept. -/
inductive Keeping
  | inMemory (held : MemorySlot)
  | inFile

/-- The two slots, and the folder with the files of those that are kept in files. -/
structure Storage where
  cookies : Keeping
  localArea : Keeping
  root : Folder := {}

namespace Storage

/-- Two slots in memory. -/
def memory (cookies localArea : MemorySlot) : Storage where
  cookies := .inMemory cookies
  localArea := .inMemory localArea

/-- Two slots in files of a folder. -/
def folder (root : Folder) : Storage where
  cookies := .inFile
  localArea := .inFile
  root := root

/-- How a slot is kept. -/
def kept (storage : Storage) : Slot → Keeping
  | .cookies => storage.cookies
  | .localArea => storage.localArea

/-- The slots with one of them in memory. -/
def keep (storage : Storage) (held : MemorySlot) : Slot → Storage
  | .cookies => { storage with cookies := .inMemory held }
  | .localArea => { storage with localArea := .inMemory held }

/-- The text under a key of a slot. -/
def getText (storage : Storage) (slot : Slot) (key : String) :
    Except StorageError (Option String) :=
  match storage.kept slot with
  | .inMemory held => held.getText key
  | .inFile => storage.root.getText slot.route key

/-- Sets the text under a key of a slot. -/
def setText (storage : Storage) (slot : Slot) (key text : String) :
    Except StorageError Unit × Storage :=
  match storage.kept slot with
  | .inMemory held =>
      let (answer, changed) := held.setText key text
      (answer, storage.keep changed slot)
  | .inFile =>
      let (answer, changed) := storage.root.setText slot.route key text
      (answer, { storage with root := changed })

/-- Removes the text under a key of a slot. -/
def removeText (storage : Storage) (slot : Slot) (key : String) :
    Except StorageError Unit × Storage :=
  match storage.kept slot with
  | .inMemory held =>
      let (answer, changed) := held.removeText key
      (answer, storage.keep changed slot)
  | .inFile =>
      let (answer, changed) := storage.root.removeText slot.route key
      (answer, { storage with root := changed })

/-- The entries of a slot, if they can be read. A slot in memory shows its entries also while
reading it fails. -/
def entries? (storage : Storage) (slot : Slot) : Option Entries :=
  match storage.kept slot with
  | .inMemory held => some held.entries
  | .inFile => (storage.root.entries slot.route).toOption

end Storage

/-! ## Operations on the slots -/

/-- What is done with the slots. A failure keeps what was changed before it. -/
abbrev StorageM := ExceptT StorageError (StateM Storage)

namespace StorageM

/-- The answer of an operation, and the slots after it. -/
def on {α : Type} (operation : StorageM α) (storage : Storage) :
    Except StorageError α × Storage :=
  (ExceptT.run operation).run storage

/-- An operation that changes nothing. -/
def ofRead {α : Type} (read : Storage → Except StorageError α) : StorageM α :=
  ExceptT.mk fun storage => (read storage, storage)

/-- An operation that may change the slots. -/
def ofWrite (write : Storage → Except StorageError Unit × Storage) : StorageM Unit :=
  ExceptT.mk write

/-- The text under a key of a slot. -/
def get (slot : Slot) (key : String) : StorageM (Option String) :=
  ofRead fun storage => storage.getText slot key

/-- Sets the text under a key of a slot. -/
def set (slot : Slot) (key text : String) : StorageM Unit :=
  ofWrite fun storage => storage.setText slot key text

/-- Removes the text under a key of a slot. -/
def remove (slot : Slot) (key : String) : StorageM Unit :=
  ofWrite fun storage => storage.removeText slot key

end StorageM

end VisitorLink
