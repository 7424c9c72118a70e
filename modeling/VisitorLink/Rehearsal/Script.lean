import VisitorLink.Visit.Operation

/-!
# Scripts

A rehearsal plays a visit against a service and a provider whose answers are written down before.
A script is a list of steps. Some steps operate the client, others set up what the service and the
provider will answer, and an answer may have steps of its own, which are played while the call is
waiting for it.
-/

namespace VisitorLink.Rehearsal

/-- The kinds of calls. -/
inductive CallName
  | requestAccounts
  | signMessage
  | fetchVisitor
  | connectWallet
  | linkWallet
  | unlinkWallet
  | setPrimaryWallet
  | logIn
  | logOut
  | startSession
  | recordPage
  | heartbeat
  | endSession
deriving DecidableEq, Repr

/-- The kind of a call to the service. -/
def CallName.ofService : ServiceCall → CallName
  | .fetchVisitor _ => .fetchVisitor
  | .connectWallet _ _ => .connectWallet
  | .linkWallet _ _ => .linkWallet
  | .unlinkWallet _ _ _ => .unlinkWallet
  | .setPrimaryWallet _ _ => .setPrimaryWallet
  | .logIn _ => .logIn
  | .logOut _ => .logOut
  | .startSession _ _ => .startSession
  | .recordPage _ _ => .recordPage
  | .heartbeat _ => .heartbeat
  | .endSession _ => .endSession

/-- The kind of a call. -/
def CallName.of : Call → CallName
  | .provider .requestAccounts => .requestAccounts
  | .provider (.signMessage _) => .signMessage
  | .service call => ofService call

/-- What a call is answered with. An answer that does not fit the call counts as standard. -/
inductive Content
  /-- What a service with records of its visitors, and a willing provider, answer. -/
  | standard
  | failure (error : ApiError)
  | visitor (visitor : Visitor)
  | connected (answer : ConnectAnswer)
  | linked (answer : LinkAnswer)
  | signature (text : String)
  | unsigned (reason : String)
  /-- The answer to a request for accounts, and the address that the provider shows from then on. -/
  | accounts (answer : AccountsAnswer) (authorized : Option String)

namespace Content

/-- The visitor's record that is written down. -/
def visitor? : Content → Option Visitor
  | .visitor record => some record
  | _ => none

/-- The answer to a request to link an address that is written down. -/
def connected? : Content → Option ConnectAnswer
  | .connected answer => some answer
  | _ => none

/-- The answer to a proof of ownership that is written down. -/
def linked? : Content → Option LinkAnswer
  | .linked answer => some answer
  | _ => none

end Content

/-- New settings of the provider, and whether the end of a session can be sent without waiting.
What is none stays as it is. -/
structure ProviderChange where
  present : Option Bool := none
  address : Option (Option String) := none
  signs : Option Bool := none
  beacons : Option Bool := none
  code : Option (Option Int64) := none
  message : Option (Option String) := none
  authorized : Option (Option String) := none

mutual

/-- A step of a script. -/
inductive Step
  | operate (operation : Operation)
  /-- Polls to the end, by the settings of the visit where no others are given. -/
  | poll (attempts interval : Option Nat)
  | startPolling
  | pollingResult
  /-- Ends the session twice at the same time. -/
  | endTwice
  | change (change : Change)
  | loadId
  | loadOrCreateId
  | persistId (id : String)
  | clearId
  /-- Sets a text of a slot, or removes it. -/
  | setText (slot : Slot) (key : String) (text : Option String)
  | getCookie (key : String)
  /-- From now on these operations on a slot fail, and the others do not. -/
  | fail (slot : Slot) (get set remove : Bool)
  | provider (change : ProviderChange)
  /-- Adds answers to those that calls of a kind are going to get. -/
  | answer (name : CallName) (replies : List Reply)
  /-- Sets the answer that calls of a kind get when no other is left. -/
  | answerAlways (name : CallName) (reply : Reply)
  | advance (milliseconds : Nat)
  | stopListening

/-- An answer, with the steps that are played before it is given. -/
inductive Reply
  | mk (during : List Step) (content : Content)

end

instance : Inhabited Reply := ⟨.mk [] .standard⟩

/-- The steps that are played before an answer is given. -/
def Reply.during : Reply → List Step
  | .mk during _ => during

/-- What the call is answered with. -/
def Reply.content : Reply → Content
  | .mk _ content => content

end VisitorLink.Rehearsal
