import VisitorLink.Visit.Connecting

/-!
# Looking for the provider

A provider may turn up some time after the visit was opened, so it is looked for several times, at
fixed distances from the first look. Polling ends when a wallet is connected, by whomever.
-/

namespace VisitorLink

/-- How polling ended. -/
inductive PollOutcome
  /-- A wallet was connected already. -/
  | alreadyConnected
  /-- The provider showed this address, which is connected now. -/
  | addressFound (address : String)
  /-- All looks were in vain. The last one found the provider there, or not. -/
  | exhausted (detected : Bool)
deriving DecidableEq, Repr

namespace Errand

/-- Looks for the provider once, and takes note if it came or went. -/
def detect : Errand Bool := do
  let present ← lookForProvider
  if (← visit).state.connection.detected != present then apply (.detect present)
  return present

/-- One look in the course of polling. -/
def pollOnce : Errand PollOutcome := do
  if (← visit).state.address?.isSome then return .alreadyConnected
  let present ← detect
  match ← shownIf present with
  | some address =>
      apply (.connect address)
      return .addressFound address
  | none => return .exhausted present

/-- Polls from a look on, with so many looks left. -/
def pollFrom (start interval : Nat) : (attempts tick : Nat) → (last : Bool) → Errand PollOutcome
  | 0, _, last => .done (.exhausted last)
  | attempts + 1, tick, _ => do
      .sleep (start + tick * interval) (.done ())
      match ← pollOnce with
      | .exhausted present => pollFrom start interval attempts (tick + 1) present
      | outcome => return outcome

/-- Looks for the provider so many times, with so many milliseconds from one look to the next. -/
def poll (attempts interval : Nat) : Errand PollOutcome := do
  pollFrom (← visit).outside.clock interval attempts 0 false

end Errand

end VisitorLink
