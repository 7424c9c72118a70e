import VisitorLink.Proofs.Storage.Slots

/-!
# Slots that may fail

A slot in memory may be made to fail, and a slot in a file fails in every operation if the file
cannot be read as entries. In either case a slot behaves as one in memory does, or not at all, so
that what is set and removed can be told of all slots at once.

Main statements: what is read in any slot (`Storage.getText_toOption`), and what setting and
removing a text, be it done or refused, does to all slots (`Storage.slot?_setText` and
`Storage.slot?_removeText`).
-/

namespace VisitorLink.Storage

/-- The slot in memory that behaves as a file of entries. -/
def sound (entries : Entries) : MemorySlot where
  entries := entries

/-- The slot in memory that a slot behaves as, unless it is a file that cannot be read. -/
def slot? (storage : Storage) (slot : Slot) : Option MemorySlot :=
  match storage.kept slot with
  | .inMemory held => some held
  | .inFile => (storage.root.entries slot.route).toOption.map sound

variable {storage : Storage} {slot : Slot}

/-- A slot in memory behaves as itself. -/
theorem slot?_inMemory {held : MemorySlot} (kept : storage.kept slot = .inMemory held) :
    storage.slot? slot = some held := by
  unfold slot?
  rw [kept]

/-- A slot in a file behaves as one in memory with the entries of the file. -/
theorem slot?_inFile (kept : storage.kept slot = .inFile) :
    storage.slot? slot = (storage.root.entries slot.route).toOption.map sound := by
  unfold slot?
  rw [kept]

/-- What a slot behaves as is told by how it is kept, and by the file if it is kept in one. -/
theorem slot?_congr {before after : Storage} (kept : after.kept slot = before.kept slot)
    (reads : (after.root.entries slot.route).toOption =
      (before.root.entries slot.route).toOption) :
    after.slot? slot = before.slot? slot := by
  unfold slot?
  rw [kept, reads]

/-- Keeping a slot leaves the other one as it is. -/
theorem slot?_keep (storage : Storage) (changed : MemorySlot) (slot other : Slot) :
    (storage.keep changed slot).slot? other =
      if other = slot then some changed else storage.slot? other := by
  have kept := storage.kept_keep changed slot other
  split
  case isTrue same => exact slot?_inMemory (kept.trans (if_pos same))
  case isFalse different => exact slot?_congr (kept.trans (if_neg different)) (by rw [root_keep])

section InFile

variable (kept : storage.kept slot = .inFile)

include kept

theorem slot?_of_reads {entries : Entries} (reads : storage.root.entries slot.route = .ok entries) :
    storage.slot? slot = some (sound entries) :=
  (slot?_inFile kept).trans (congrArg (·.toOption.map sound) reads)

theorem slot?_of_fails {error : StorageError}
    (fails : storage.root.entries slot.route = .error error) : storage.slot? slot = none :=
  (slot?_inFile kept).trans (congrArg (·.toOption.map sound) fails)

/-- A file that cannot be read is left as it is. -/
theorem slot?_of_left {error : StorageError}
    (fails : storage.root.entries slot.route = .error error) (change : MemorySlot → MemorySlot)
    (other : Slot) :
    storage.slot? other =
      if other = slot then (storage.slot? slot).map change else storage.slot? other := by
  split
  case isTrue same =>
    rw [same, slot?_of_fails kept fails]
    rfl
  case isFalse => rfl

/-- A file that can be read is written anew with other entries. -/
theorem slot?_put {entries : Entries} (reads : storage.root.entries slot.route = .ok entries)
    (changed : Entries) (other : Slot) :
    ({ storage with
        root := storage.root.put slot.path changed.toDocument.toUTF8 } : Storage).slot? other =
      if other = slot then some (sound changed) else storage.slot? other := by
  have put := Folder.entries_putEntries reads changed other
  have kept' := storage.kept_root (storage.root.put slot.path changed.toDocument.toUTF8) other
  split
  case isTrue same =>
    rw [if_pos same] at put
    exact slot?_of_reads (kept'.trans (same ▸ kept)) put
  case isFalse different =>
    rw [if_neg different] at put
    exact slot?_congr kept' (congrArg Except.toOption put)

end InFile

variable (storage : Storage) (slot other : Slot) (key text : String)

/-- The entries of a slot are those of the one it behaves as. -/
theorem entries?_eq : storage.entries? slot = (storage.slot? slot).map MemorySlot.entries := by
  cases kept : storage.kept slot with
  | inMemory held =>
      rw [entries?_inMemory kept, slot?_inMemory kept]
      rfl
  | inFile =>
      rw [entries?_inFile kept, slot?_inFile kept]
      cases storage.root.entries slot.route <;> rfl

/-- A slot gets what the one it behaves as gets. -/
theorem getText_toOption :
    (storage.getText slot key).toOption =
      (storage.slot? slot).bind fun held => (held.getText key).toOption := by
  cases kept : storage.kept slot with
  | inMemory held =>
      rw [getText_inMemory kept, slot?_inMemory kept]
      rfl
  | inFile =>
      rw [getText_inFile kept, slot?_inFile kept]
      unfold Folder.getText
      cases storage.root.entries slot.route <;> rfl

/-- Setting a text does to a slot what it does to the one it behaves as. -/
theorem slot?_setText :
    (storage.setText slot key text).2.slot? other =
      if other = slot then (storage.slot? slot).map fun held => (held.setText key text).2
      else storage.slot? other := by
  cases kept : storage.kept slot with
  | inMemory held =>
      rw [setText_inMemory kept, slot?_inMemory kept]
      exact storage.slot?_keep _ slot other
  | inFile =>
      rw [setText_inFile kept]
      unfold Folder.setText
      cases reads : storage.root.entries slot.route with
      | error error => exact slot?_of_left kept reads _ other
      | ok entries =>
          dsimp only
          rw [Folder.writeEntries_route reads, slot?_of_reads kept reads]
          exact slot?_put kept reads _ other

/-- Removing a text does to a slot what it does to the one it behaves as. -/
theorem slot?_removeText :
    (storage.removeText slot key).2.slot? other =
      if other = slot then (storage.slot? slot).map fun held => (held.removeText key).2
      else storage.slot? other := by
  cases kept : storage.kept slot with
  | inMemory held =>
      rw [removeText_inMemory kept, slot?_inMemory kept]
      exact storage.slot?_keep _ slot other
  | inFile =>
      rw [removeText_inFile kept]
      unfold Folder.removeText
      cases reads : storage.root.entries slot.route with
      | error error => exact slot?_of_left kept reads _ other
      | ok entries =>
          dsimp only
          rw [slot?_of_reads kept reads]
          cases found : entries.get? key with
          | some text =>
              dsimp only
              rw [Folder.writeEntries_route reads]
              exact slot?_put kept reads _ other
          | none =>
              -- A file that lacks the key is not written, and its entries are as if it were.
              dsimp only
              split
              case isTrue same =>
                rw [same, slot?_of_reads kept reads]
                exact congrArg (some <| sound ·) (Entries.erase_of_get?_none found).symm
              case isFalse => rfl

end VisitorLink.Storage
