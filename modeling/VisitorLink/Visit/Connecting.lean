import VisitorLink.Visit.Errand

/-!
# Connecting to the provider

A connection is made by asking the provider for accounts, unless it already shows an address. Only
one connection is made at a time. Looking for an address that is already shown never asks anybody.
-/

namespace VisitorLink.Errand

/-- Gets the address that the provider shows after its answer to a request for accounts. -/
def receiveAccounts (answer : AccountsAnswer) : Errand (Except ConnectionError String) := do
  match answer.outcome with
  | .error error => return .error error
  | .ok () =>
      match (← visit).shownAddress? with
      | some address => return .ok address
      | none => return .error .addressUnavailable

/-- Gets an address from the provider, asking for accounts if it shows none. -/
def requestAddress : Errand (Except ConnectionError String) := do
  if !(← lookForProvider) then return .error .providerNotDetected
  match (← visit).shownAddress? with
  | some address => return .ok address
  | none =>
      apply .request
      receiveAccounts (← askProvider .requestAccounts)

/-- Takes note of how connecting to the provider went. -/
def settleConnection : Except ConnectionError String → Errand Unit
  | .ok address => apply (.connect address)
  | .error error => do
      apply (.failConnection error.message)
      notify .error error.message

/-- Ends the making of a connection. -/
def finishConnecting (outcome : Except ConnectionError String) :
    Errand (Except ConnectionError String) := do
  settleConnection outcome
  modify fun visit => { visit with connecting := false }
  return outcome

/-- Connects to the provider. While a connection is being made, another one is refused and changes
nothing. -/
def connect : Errand (Except ConnectionError String) := do
  if (← visit).connecting then return .error .inProgress
  modify fun visit => { visit with connecting := true }
  finishConnecting (← requestAddress)

/-- The address that the provider shows, if it is there at all. -/
def shownIf (present : Bool) : Errand (Option String) :=
  .look fun visit => .done (if present then visit.shownAddress? else none)

/-- Connects the address that the provider already shows, if there is one. -/
def checkShown : Errand (Option String) := do
  apply .check
  match ← shownIf (← lookForProvider) with
  | some address =>
      apply (.connect address)
      return some address
  | none =>
      apply .finishCheck
      return none

/-- Drops the connection. What the provider has granted stays granted. -/
def dropConnection : Errand Unit :=
  apply .disconnect

end VisitorLink.Errand
