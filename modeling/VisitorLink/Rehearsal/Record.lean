import VisitorLink.Visit.Operation
import VisitorLink.Rehearsal.Script

/-!
# Records of a rehearsal

What a rehearsal tells of each step: its result, what was asked of the outside meanwhile, the
events, and how the visit stands after it.
-/

namespace VisitorLink.Rehearsal

/-- What a step ends with. -/
inductive Result
  /-- The rehearsal starts. -/
  | start
  | nothing
  | outcome (outcome : Outcome)
  | polled (outcome : PollOutcome) (elapsed : Nat)
  /-- Polling in the background was never started, or its end has been told. -/
  | notPolling
  | stillPolling
  | endings (first second : Bool)
  | changed (different : Bool)
  | text (result : Except StorageError (Option String))

/-- Something in the log of a step: an inquiry, or the records of the steps that were played while
a call was waiting, at the time of its answer. -/
inductive LogItem (Record : Type) where
  | inquiry (entry : JournalEntry)
  | during (name : CallName) (clock : Nat) (records : List Record)

/-- What is told of a step. -/
structure Record where
  result : Result
  log : List (LogItem Record)
  events : List Event
  state : State
  cookies : Entries
  localArea : Entries
  isActive : Bool
  isBeating : Bool

end VisitorLink.Rehearsal
