import VisitorLink.Visit.Connecting
import VisitorLink.Visitor.Remembered
import VisitorLink.Wallet.Challenge

/-!
# Linking a wallet

A wallet is linked in two steps. The first one tells the service the connected address, which is
linked without proof. The second one proves the ownership of the wallet by a signature; if the
wallet belongs to another visitor, the visit goes on as that visitor.

What the service answers counts only if the visitor and the connected address are still those that
the request was made for.
-/

namespace VisitorLink

/-- How the first step of linking ended. -/
inductive LinkOutcome
  | linked
  /-- The wallet belongs to another visitor. -/
  | loginRequired (owner : String)
  /-- The visitor's record has the wallet already. -/
  | known (verified : Bool)
  /-- The service has been asked already. -/
  | attempted
  /-- There is no visitor or no wallet. -/
  | skipped
  /-- The answer came too late. -/
  | stale
deriving DecidableEq, Repr

/-- How the second step of linking ended. -/
inductive VerifyOutcome
  | verified
  | swapped (previous current : String)
  | alreadyVerified
  /-- The answer came too late. -/
  | stale
deriving DecidableEq, Repr

/-- What the service has decided about an address. -/
inductive LinkDecision
  | linked (visitor : Option Visitor)
  | loginRequired (owner : String)
  | refused (reason : String)
deriving DecidableEq

/-- The decision that an answer holds. An owner counts before anything else. -/
def LinkDecision.ofAnswer : Except ApiError ConnectAnswer → LinkDecision
  | .error error => .refused error.userMessage
  | .ok answer =>
      if answer.loginRequired then
        match answer.owner with
        | some owner => .loginRequired owner
        | none => .refused "Backend reported an owner conflict without an owner id"
      else if answer.success then .linked answer.visitor
      else .refused (answer.message.getD "Wallet connection was not accepted")

namespace Errand

/-- Whether the visitor and the connected address are the given ones. -/
def isCurrent (id address : String) : Errand Bool :=
  .look fun visit => .done (visit.state.isCurrent id address)

/-! ## The first step -/

/-- Applies a decision about the connected address. -/
def applyDecision (address : String) : LinkDecision → Errand (Except LinkError LinkOutcome)
  | .loginRequired owner => do
      apply (.requireLogin address owner)
      emit (.loginRequired address owner)
      return .ok (.loginRequired owner)
  | .linked visitor => do
      apply (.link visitor)
      return .ok .linked
  | .refused reason => do
      modify fun visit => { visit with attempted := visit.attempted.filter (· != address) }
      apply (.failLink reason)
      notify .error ("Failed to connect wallet: " ++ reason)
      return .error (.connectFailed reason)

/-- Applies the decision that the service has sent about an address, unless it comes too late. -/
def receiveDecision (id address : String) (answer : Except ApiError ConnectAnswer) :
    Errand (Except LinkError LinkOutcome) := do
  if !(← isCurrent id address) then return .ok .stale
  applyDecision address (.ofAnswer answer)

/-- Asks the service to link an address and applies its decision. -/
def requestLink (id address : String) : Errand (Except LinkError LinkOutcome) := do
  receiveDecision id address (← askService (.connectWallet id address))

/-- Links the connected wallet without proof. The service is asked once for each address, until the
attempts are forgotten. -/
def link : Errand (Except LinkError LinkOutcome) := do
  let before ← visit
  match before.state.visitor, before.state.address? with
  | some visitor, some address =>
      match visitor.wallet? address with
      | some wallet => return .ok (.known wallet.verified)
      | none =>
          if address ∈ before.attempted then return .ok .attempted
          modify fun visit => { visit with attempted := address :: visit.attempted }
          requestLink visitor.id address
  | _, _ => return .ok .skipped

/-- Links the connected wallet if connecting to the provider went well. -/
def linkConnected : Except ConnectionError String → Errand (Except LinkError LinkOutcome)
  | .error error => return .error (.connectFailed error.message)
  | .ok _ => link

/-- Connects to the provider and links the connected wallet. -/
def connectWallet : Errand (Except LinkError LinkOutcome) := do
  linkConnected (← connect)

/-! ## The second step -/

/-- Takes note that a verification failed. -/
def failVerification (reason : String) : Errand (Except LinkError VerifyOutcome) := do
  apply (.failVerification reason)
  notify .error ("Failed to verify wallet: " ++ reason)
  return .error (.verifyFailed reason)

/-- Applies the answer to an accepted signature that was given as the visitor with the given id. If
the answer is about another visitor, the visit goes on as that one. -/
def applyProof (id : String) (answer : LinkAnswer) : Errand (Except LinkError VerifyOutcome) := do
  apply (.verify answer.visitor)
  let current := answer.visitor.id
  if !answer.swapped && current == id then
    notify .success "Wallet verified"
    return .ok .verified
  let previous := answer.previous.getD id
  if (← visit).settings.remembersSwap then
    let _ ← slots (RememberedId.persist current)
  modify fun visit => { visit with attempted := [] }
  emit (.swapped previous current)
  notify .success "Signed in with wallet"
  return .ok (.swapped previous current)

/-- Applies the service's answer to a signature, unless it comes too late. -/
def receiveProof (id address : String) (answer : Except ApiError LinkAnswer) :
    Errand (Except LinkError VerifyOutcome) := do
  if !(← isCurrent id address) then return .ok .stale
  match answer with
  | .error error => failVerification error.userMessage
  | .ok answer => applyProof id answer

/-- Sends a signature to the service and applies its answer. -/
def submitProof (id : String) (request : LinkRequest) :
    Errand (Except LinkError VerifyOutcome) := do
  receiveProof id request.address (← askService (.linkWallet id request))

/-- Sends the signature of a challenge to the service, or takes note that there is none. -/
def receiveSignature (id address message : String) (time : Int64) :
    Except String String → Errand (Except LinkError VerifyOutcome)
  | .error reason => do
      if !(← isCurrent id address) then return .ok .stale
      failVerification ("Signature request failed: " ++ reason)
  | .ok signature => submitProof id ⟨address, message, signature, time⟩

/-- Has a challenge signed and sends the signature to the service. -/
def prove (id address : String) (purpose : Purpose) : Errand (Except LinkError VerifyOutcome) := do
  let time := (← visit).outside.time
  let message := challenge purpose address time
  apply .startVerification
  receiveSignature id address message time (← askProvider (.signMessage message))

/-- Proves the ownership of the connected wallet. One verification is made at a time. -/
def verify : Errand (Except LinkError VerifyOutcome) := do
  let before ← visit
  let connection := before.state.connection
  match before.state.visitorId?, connection.address with
  | none, _ => return .error .noIdentity
  | some _, none => return .error .noConnectedWallet
  | some id, some address =>
      if connection.pendingLogin.isNone && connection.verified then
        return .ok .alreadyVerified
      if connection.verifying then
        return .error (.verifyFailed "A verification is already in progress")
      if !before.outside.providerSigns then
        apply (.failVerification LinkError.signatureUnavailable.message)
        notify .error LinkError.signatureUnavailable.message
        return .error .signatureUnavailable
      prove id address (if connection.pendingLogin.isSome then .login else .link)

/-! ## Giving up -/

/-- Forgets which addresses the service has been asked to link. -/
def forgetAttempts : Errand Unit :=
  modify fun visit => { visit with attempted := [] }

/-- Gives up a pending log-in, and the connection with it. -/
def cancelLogin : Errand Unit := do
  forgetAttempts
  apply .cancelLogin

/-- Drops the connection, so that the wallet can be linked anew. -/
def disconnect : Errand Unit := do
  forgetAttempts
  dropConnection

end Errand

end VisitorLink
