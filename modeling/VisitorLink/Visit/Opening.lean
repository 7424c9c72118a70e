import VisitorLink.Visit.Account
import VisitorLink.Visit.Detection
import VisitorLink.Visit.Tracking

/-!
# Opening and leaving

A visit is opened by finding out who the visitor is: the remembered id, or a fresh one, is looked
up at the service. A wallet that the provider already shows is then connected and linked.
-/

namespace VisitorLink.Errand

/-- Remembers the id of a record that the service keeps under another id than it was asked for. -/
def adopt (id : String) (visitor : Visitor) : Errand (Except StorageError Unit) :=
  if visitor.id = id then return .ok () else slots (RememberedId.persist visitor.id)

/-- Takes over the record that the service has sent of the visitor. -/
def receiveVisitor (id : String) : Except ApiError Visitor → Errand (Except AppError Visitor)
  | .error error => return .error (.api error)
  | .ok visitor => do
      match ← adopt id visitor with
      | .error error => return .error (.storage error)
      | .ok () =>
          apply (.load visitor)
          return .ok visitor

/-- Finds out who the visitor is. -/
def identify : Errand (Except AppError Visitor) := do
  let fresh := (Uuid.ofRandom (← visit).outside.random).hyphenated
  match ← slots (RememberedId.loadOrCreate fresh) with
  | .error error => return .error (.storage error)
  | .ok id => receiveVisitor id (← askService (.fetchVisitor id))

/-- Connects and links the wallet that the provider shows, if it is known who the visitor is. -/
def pickUpWallet : Except AppError Visitor → Errand (Except AppError Visitor)
  | .error error => return .error error
  | .ok visitor => do
      let _ ← detect
      if (← checkShown).isSome then
        let _ ← link
      return .ok visitor

/-- Finds out who the visitor is, and connects and links the wallet that the provider shows. -/
def bootstrap : Errand (Except AppError Visitor) := do
  pickUpWallet (← identify)

/-- Starts the session of the visitor, if there is one. -/
def startSession (context : PageContext) : Errand Bool := do
  match (← visit).state.visitorId? with
  | some id => startTracking id context
  | none => return false

/-- Starts the session of the visitor that the visit goes on as, if it was swapped during a
session. -/
def followSwap (context : PageContext) :
    Except LinkError VerifyOutcome → Errand (Except LinkError VerifyOutcome)
  | .ok (.swapped previous current) => do
      if (← visit).tracker.isActive then
        let _ ← startTracking current context
      return .ok (.swapped previous current)
  | outcome => return outcome

/-- Proves the ownership of the connected wallet. If the visit goes on as another visitor, so does
the session. -/
def verifyAndFollow (context : PageContext) : Errand (Except LinkError VerifyOutcome) := do
  followSwap context (← verify)

/-- Stops the heartbeat if the visitor was logged out. -/
def followLogOut (outcome : Except LinkError Unit) : Errand (Except LinkError Unit) := do
  if outcome.isOk then stopHeartbeat
  return outcome

/-- Logs the visitor out and stops the heartbeat. -/
def leave : Errand (Except LinkError Unit) := do
  followLogOut (← logOut)

end VisitorLink.Errand
