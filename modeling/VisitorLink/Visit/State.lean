import VisitorLink.Visitor.Record

/-!
# The state of a visit

What a visit knows of its visitor and of the wallet connection, and the changes that can happen to
it. `State.apply` is the only way in which the state changes; what asks the provider and the
service decides which change to apply.

A visit is in one of four phases of linking, which follow from the connection:

* unlinked, without a connected wallet;
* connected with a wallet that is not verified;
* verified;
* waiting for a log-in, where the wallet belongs to another visitor.
-/

namespace VisitorLink

/-- How far the connection to the wallet provider is. -/
inductive ConnectionStatus
  | idle
  /-- Looking for an address that the provider already shows. -/
  | checking
  /-- Waiting for the answer to a request for accounts. -/
  | connecting
  | connected
  | error
deriving DecidableEq, Repr

/-- The name of a status. -/
def ConnectionStatus.name : ConnectionStatus → String
  | .idle => "idle"
  | .checking => "checking"
  | .connecting => "connecting"
  | .connected => "connected"
  | .error => "error"

/-- A wallet that another visitor has verified. Signing with it means to go on as that visitor. -/
structure PendingLogin where
  address : String
  owner : String
deriving DecidableEq, Repr

/-- The phase of linking. -/
inductive LinkPhase
  | unlinked
  | unverified
  | verified
  | loginRequired (owner : String)
deriving DecidableEq, Repr

/-- The connection to the wallet provider. -/
structure Connection where
  address : Option String := none
  status : ConnectionStatus := .idle
  /-- Whether the provider was there when it was last looked for. -/
  detected : Bool := false
  error : Option String := none
  verified : Bool := false
  pendingLogin : Option PendingLogin := none
  /-- Whether a verification is under way. -/
  verifying : Bool := false
  /-- Why the last attempt to link or verify failed. -/
  linkError : Option String := none
deriving DecidableEq, Repr

namespace Connection

/-- The phase of linking that the connection is in. -/
def phase (connection : Connection) : LinkPhase :=
  match connection.pendingLogin with
  | some pending => .loginRequired pending.owner
  | none =>
      match connection.address, connection.verified with
      | none, _ => .unlinked
      | some _, true => .verified
      | some _, false => .unverified

/-- The connection without a wallet. Whether the provider is there stays known. -/
def reset (connection : Connection) : Connection :=
  { detected := connection.detected }

end Connection

/-- The state of a visit. -/
structure State where
  visitor : Option Visitor := none
  connection : Connection := {}
deriving DecidableEq

/-- What can happen to the state of a visit. -/
inductive Change
  /-- The visitor is known before the visit starts. -/
  | hydrate (visitor : Visitor)
  /-- The service has sent the visitor's record. -/
  | load (visitor : Visitor)
  | detect (present : Bool)
  | check
  | finishCheck
  | request
  | connect (address : String)
  | failConnection (message : String)
  | disconnect
  /-- The service has linked the connected address. -/
  | link (visitor : Option Visitor)
  | failLink (message : String)
  /-- The connected address belongs to another visitor. -/
  | requireLogin (address owner : String)
  | startVerification
  /-- The service has accepted a signature. The visitor may be another one than before. -/
  | verify (visitor : Visitor)
  | failVerification (message : String)
  | cancelLogin
  | logIn (visitor : Visitor)
  | logOut (visitor : Visitor)
deriving DecidableEq

namespace State

/-- The id of the visitor. -/
def visitorId? (state : State) : Option String :=
  state.visitor.map Visitor.id

/-- The address of the connected wallet. -/
def address? (state : State) : Option String :=
  state.connection.address

/-- Whether the visitor has logged in. -/
def isLoggedIn (state : State) : Bool :=
  state.visitor.any Visitor.isLoggedIn

/-- The wallet shown as the visitor's. -/
def primaryWallet? (state : State) : Option Wallet :=
  state.visitor.bind Visitor.primaryWallet?

/-- Whether a visitor with the given id is loaded and a wallet with the given address connected. -/
def isCurrent (state : State) (id address : String) : Bool :=
  state.visitorId? == some id && state.address? == some address

/-- The state of a visit whose visitor is known before it starts: the primary wallet counts as
connected. -/
def hydrate (state : State) (visitor : Visitor) : State where
  visitor := some visitor
  connection :=
    { state.connection with
      address := visitor.primaryWallet?.map Wallet.address
      status := if visitor.primaryWallet?.isSome then .connected else .idle
      verified := visitor.primaryWallet?.any Wallet.verified
      detected := false
      error := none
      pendingLogin := none }

/-- The state after a visitor's record has come. The record of another visitor ends a verification
that is under way. -/
def load (state : State) (visitor : Visitor) : State where
  visitor := some visitor
  connection :=
    { state.connection with
      verifying :=
        state.connection.verifying && !state.visitor.any fun other => other.id != visitor.id
      verified :=
        match state.connection.address with
        | some address => visitor.hasVerified address
        | none => state.connection.verified }

/-- The state after looking for an address has found none. -/
def finishCheck (state : State) : State :=
  if state.connection.status = .checking then
    { state with
      connection.status := if state.connection.address.isSome then .connected else .idle }
  else state

/-- The state with a wallet connected. Nothing that concerns another wallet is kept. -/
def connect (state : State) (address : String) : State :=
  let kept : Connection :=
    if state.connection.address = some address then state.connection
    else { state.connection with pendingLogin := none, verifying := false, linkError := none }
  { state with
    connection :=
      { kept with
        verified := state.visitor.any fun visitor => visitor.hasVerified address
        address := some address
        status := .connected
        error := none } }

/-- The state after the service has linked the connected address. -/
def link (state : State) (visitor : Option Visitor) : State where
  visitor := visitor.or state.visitor
  connection :=
    { state.connection with
      verified :=
        visitor.any fun visitor => state.connection.address.any fun address =>
          visitor.hasVerified address
      pendingLogin := none
      linkError := none }

/-- The state after a change. -/
def apply (state : State) : Change → State
  | .hydrate visitor => state.hydrate visitor
  | .load visitor => state.load visitor
  | .detect present => { state with connection.detected := present }
  | .check => { state with connection.status := .checking }
  | .finishCheck => state.finishCheck
  | .request => { state with connection.status := .connecting, connection.error := none }
  | .connect address => state.connect address
  | .failConnection message =>
      { state with connection.status := .error, connection.error := some message }
  | .disconnect => { state with connection := state.connection.reset }
  | .link visitor => state.link visitor
  | .failLink message => { state with connection.linkError := some message }
  | .requireLogin address owner =>
      { state with
        connection.pendingLogin := some ⟨address, owner⟩
        connection.verified := false
        connection.linkError := none }
  | .startVerification =>
      { state with connection.verifying := true, connection.linkError := none }
  | .verify visitor =>
      { visitor := some visitor
        connection :=
          { state.connection with
            verifying := false, verified := true, pendingLogin := none, linkError := none } }
  | .failVerification message =>
      { state with connection.verifying := false, connection.linkError := some message }
  | .cancelLogin => { state with connection := state.connection.reset }
  | .logIn visitor => { state with visitor := some visitor }
  | .logOut visitor => { state with visitor := some visitor }

/-- Whether a change makes a difference. -/
def changes (state : State) (change : Change) : Bool :=
  decide (state.apply change ≠ state)

/-- The state of a visit that starts with a visitor it knows. -/
def hydrated (visitor : Visitor) : State :=
  State.apply {} (.hydrate visitor)

end State

end VisitorLink
