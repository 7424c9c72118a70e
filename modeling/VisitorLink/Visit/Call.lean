import VisitorLink.Error
import VisitorLink.Exchange.Messages
import VisitorLink.Wallet.Accounts

/-!
# Calls to the outside

What a visit asks the wallet provider and the service for and then waits for, each kind of call
with the type of its answer. A call to the service either has a value or fails with an error; the
provider gives a reason where it does not sign.
-/

namespace VisitorLink

/-- A call to the wallet provider. -/
inductive ProviderCall
  | requestAccounts
  | signMessage (message : String)
deriving DecidableEq

/-- What the provider answers to a call. -/
def ProviderCall.Answer : ProviderCall → Type
  | .requestAccounts => AccountsAnswer
  | .signMessage _ => Except String String

/-- A call to the service, on behalf of the visitor with the given id. -/
inductive ServiceCall
  | fetchVisitor (id : String)
  | connectWallet (id address : String)
  | linkWallet (id : String) (request : LinkRequest)
  | unlinkWallet (id address : String) (request : UnlinkRequest)
  | setPrimaryWallet (id address : String)
  | logIn (id : String)
  | logOut (id : String)
  | startSession (id : String) (request : StartRequest)
  | recordPage (id path : String)
  | heartbeat (id : String)
  | endSession (id : String)
deriving DecidableEq

/-- The id of the visitor that a call is about. -/
def ServiceCall.visitor : ServiceCall → String
  | .fetchVisitor id => id
  | .connectWallet id _ => id
  | .linkWallet id _ => id
  | .unlinkWallet id _ _ => id
  | .setPrimaryWallet id _ => id
  | .logIn id => id
  | .logOut id => id
  | .startSession id _ => id
  | .recordPage id _ => id
  | .heartbeat id => id
  | .endSession id => id

/-- The value of a call that does not fail. -/
def ServiceCall.Value : ServiceCall → Type
  | .fetchVisitor _ => Visitor
  | .connectWallet _ _ => ConnectAnswer
  | .linkWallet _ _ => LinkAnswer
  | .unlinkWallet _ _ _ => Visitor
  | .setPrimaryWallet _ _ => Visitor
  | .logIn _ => Visitor
  | .logOut _ => Visitor
  | .startSession _ _ => SessionReport
  | .recordPage _ _ => Unit
  | .heartbeat _ => Unit
  | .endSession _ => Unit

/-- What the service answers to a call. -/
abbrev ServiceCall.Answer (call : ServiceCall) : Type :=
  Except ApiError call.Value

/-- A call whose answer is waited for. -/
inductive Call
  | provider (call : ProviderCall)
  | service (call : ServiceCall)
deriving DecidableEq

/-- What a call is answered with. -/
def Call.Answer : Call → Type
  | .provider call => call.Answer
  | .service call => call.Answer

/-- Something that a visit has asked of the outside: a call, a look for the provider, which is
answered at once, or the end of a session sent without waiting for an answer. -/
inductive Inquiry
  | call (call : Call)
  | detect
  | endBeacon (id : String)
deriving DecidableEq

end VisitorLink
