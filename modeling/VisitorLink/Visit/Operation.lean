import VisitorLink.Visit.Opening

/-!
# Operations of a client

Everything that can be asked of a client in the course of a visit, as one type, with the errand
that each operation is and the outcome it ends with.
-/

namespace VisitorLink

/-- Something that a client can be asked to do. -/
inductive Operation
  | identify
  | bootstrap
  | connect
  | checkShown
  | dropConnection
  | link
  | connectWallet
  | verify
  | verifyAndFollow (context : PageContext)
  | cancelLogin
  | disconnect
  | unlink (address : String)
  | setPrimary (address : String)
  | logIn
  | logOut
  | leave
  | detect
  | poll (attempts interval : Nat)
  | startSession (context : PageContext)
  | startTracking (id : String) (context : PageContext)
  | recordPage (path : String)
  | sendHeartbeat
  | hidePage
  | stopHeartbeat
  | endTracking
  | shutDown
deriving DecidableEq, Repr

/-- What an operation ends with. -/
inductive Outcome
  | nothing
  | flag (value : Bool)
  | visitor (result : Except AppError Visitor)
  | address (result : Except ConnectionError String)
  | shown (address : Option String)
  | link (result : Except LinkError LinkOutcome)
  | verify (result : Except LinkError VerifyOutcome)
  | account (result : Except LinkError Unit)
  | poll (result : PollOutcome)

namespace Operation

/-- The errand that an operation is. -/
def errand : Operation → Errand Outcome
  | .identify => .visitor <$> Errand.identify
  | .bootstrap => .visitor <$> Errand.bootstrap
  | .connect => .address <$> Errand.connect
  | .checkShown => .shown <$> Errand.checkShown
  | .dropConnection => (fun _ => .nothing) <$> Errand.dropConnection
  | .link => .link <$> Errand.link
  | .connectWallet => .link <$> Errand.connectWallet
  | .verify => .verify <$> Errand.verify
  | .verifyAndFollow context => .verify <$> Errand.verifyAndFollow context
  | .cancelLogin => (fun _ => .nothing) <$> Errand.cancelLogin
  | .disconnect => (fun _ => .nothing) <$> Errand.disconnect
  | .unlink address => .account <$> Errand.unlink address
  | .setPrimary address => .account <$> Errand.setPrimary address
  | .logIn => .account <$> Errand.logIn
  | .logOut => .account <$> Errand.logOut
  | .leave => .account <$> Errand.leave
  | .detect => .flag <$> Errand.detect
  | .poll attempts interval => .poll <$> Errand.poll attempts interval
  | .startSession context => .flag <$> Errand.startSession context
  | .startTracking id context => .flag <$> Errand.startTracking id context
  | .recordPage path => .flag <$> Errand.recordPage path
  | .sendHeartbeat => .flag <$> Errand.sendHeartbeat
  | .hidePage => .flag <$> Errand.hidePage
  | .stopHeartbeat => (fun _ => .nothing) <$> Errand.stopHeartbeat
  | .endTracking => .flag <$> Errand.endTracking
  | .shutDown => (fun _ => .nothing) <$> Errand.endTracking

/-! ## Operations in two parts -/

theorem errand_bootstrap :
    errand .bootstrap =
      Errand.identify >>= fun result => .visitor <$> Errand.pickUpWallet result :=
  map_bind _ _ _

theorem errand_connectWallet :
    errand .connectWallet =
      Errand.connect >>= fun outcome => .link <$> Errand.linkConnected outcome :=
  map_bind _ _ _

theorem errand_verifyAndFollow (context : PageContext) :
    errand (.verifyAndFollow context) =
      Errand.verify >>= fun outcome => .verify <$> Errand.followSwap context outcome :=
  map_bind _ _ _

theorem errand_leave :
    errand .leave = Errand.logOut >>= fun outcome => .account <$> Errand.followLogOut outcome :=
  map_bind _ _ _

end Operation

end VisitorLink
