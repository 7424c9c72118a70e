import VisitorLink.Storage.Slots
import VisitorLink.Visitor.Id

/-!
# The remembered id

The id of a visitor is kept in both slots, so that losing one of them does not lose the id. The
cookies are asked first, and a slot that does not hold the id is given it again. A text that is no
visitor id counts as missing.
-/

namespace VisitorLink.RememberedId

/-- The key that the id is kept under. -/
def key : String := "user_id"

/-- A text that was found where the id is kept, if it is an id. -/
def valid? (found : Option String) : Option String :=
  found.filter fun text => decide (VisitorId.Valid text)

/-- The remembered id. The slot that lacks it is mended. -/
def load : StorageM (Option String) := do
  let cookie := valid? (← StorageM.get .cookies key)
  let other := valid? (← StorageM.get .localArea key)
  match cookie, other with
  | some id, other =>
      if other ≠ some id then
        StorageM.set .localArea key id
      return some id
  | none, some id =>
      StorageM.set .cookies key id
      return some id
  | none, none => return none

/-- Remembers an id. -/
def persist (id : String) : StorageM Unit := do
  StorageM.set .cookies key id
  StorageM.set .localArea key id

/-- Forgets the id. -/
def clear : StorageM Unit := do
  StorageM.remove .cookies key
  StorageM.remove .localArea key

/-- The remembered id, or a fresh one that is remembered from now on. -/
def loadOrCreate (fresh : String) : StorageM String := do
  match ← load with
  | some id => return id
  | none =>
      persist fresh
      return fresh

end VisitorLink.RememberedId
