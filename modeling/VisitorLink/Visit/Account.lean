import VisitorLink.Visit.Linking

/-!
# The account of a visitor

Removing a wallet, marking one as primary, logging in and logging out. What the service answers
counts only if the visitor is still the one that the request was made for.
-/

namespace VisitorLink.Errand

/-- Whether the visitor is the one with the given id. -/
def isVisitor (id : String) : Errand Bool :=
  .look fun visit => .done (visit.state.visitorId? == some id)

/-- Takes note that a wallet could not be changed. -/
def failUpdate (reason : String) : Errand (Except LinkError Unit) := do
  notify .error ("Failed to update wallet: " ++ reason)
  return .error (.walletUpdateFailed reason)

/-- Applies the service's answer to the removal of a wallet. -/
def receiveUnlinked (id address : String) :
    Except ApiError Visitor → Errand (Except LinkError Unit)
  | .error error => failUpdate error.userMessage
  | .ok visitor => do
      if !(← isVisitor id) then return .ok ()
      modify fun visit => { visit with attempted := visit.attempted.filter (· != address) }
      apply (.load visitor)
      notify .info "Wallet removed"
      return .ok ()

/-- Asks the service to remove a wallet and applies its answer. -/
def requestUnlink (id address : String) (request : UnlinkRequest) :
    Errand (Except LinkError Unit) := do
  receiveUnlinked id address (← askService (.unlinkWallet id address request))

/-- Sends the signature of a challenge to the service, which then removes the wallet. -/
def receiveUnlinkSignature (id address message : String) :
    Except String String → Errand (Except LinkError Unit)
  | .error reason => failUpdate ("Signature request failed: " ++ reason)
  | .ok signature => requestUnlink id address ⟨message, signature⟩

/-- Removes a wallet, which takes a signature. -/
def unlink (address : String) : Errand (Except LinkError Unit) := do
  let before ← visit
  match before.state.visitorId? with
  | none => return .error .noIdentity
  | some id =>
      if !before.outside.providerSigns then return .error .signatureUnavailable
      let message := challenge .unlink address before.outside.time
      receiveUnlinkSignature id address message (← askProvider (.signMessage message))

/-- Applies the service's answer to the marking of a wallet. -/
def receivePrimary (id : String) : Except ApiError Visitor → Errand (Except LinkError Unit)
  | .error error => failUpdate error.userMessage
  | .ok visitor => do
      if ← isVisitor id then apply (.load visitor)
      return .ok ()

/-- Marks a wallet as primary. -/
def setPrimary (address : String) : Errand (Except LinkError Unit) := do
  match (← visit).state.visitorId? with
  | none => return .error .noIdentity
  | some id => receivePrimary id (← askService (.setPrimaryWallet id address))

/-- Applies the service's answer to a log-in. -/
def receiveLogIn (id : String) : Except ApiError Visitor → Errand (Except LinkError Unit)
  | .error error => do
      notify .error ("Login failed: " ++ error.userMessage)
      return .error (.loginFailed error.userMessage)
  | .ok visitor => do
      if ← isVisitor id then apply (.logIn visitor)
      return .ok ()

/-- Logs the visitor in. -/
def logIn : Errand (Except LinkError Unit) := do
  match (← visit).state.visitorId? with
  | none => return .error .noIdentity
  | some id => receiveLogIn id (← askService (.logIn id))

/-- Applies the service's answer to a log-out, and drops the connection. -/
def receiveLogOut (id : String) : Except ApiError Visitor → Errand (Except LinkError Unit)
  | .error error => do
      notify .error ("Logout failed: " ++ error.userMessage)
      return .error (.logoutFailed error.userMessage)
  | .ok visitor => do
      if ← isVisitor id then apply (.logOut visitor)
      disconnect
      return .ok ()

/-- Logs the visitor out and drops the connection. -/
def logOut : Errand (Except LinkError Unit) := do
  match (← visit).state.visitorId? with
  | none => return .error .noIdentity
  | some id => receiveLogOut id (← askService (.logOut id))

end VisitorLink.Errand
