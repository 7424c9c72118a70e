import VisitorLink.Proofs.Visit.Account
import VisitorLink.Visit.Operation

/-!
# Where operations wait

An operation that waits stands at a stage: it links an address, has a challenge signed, has sent a
signature, or does something that is not about a wallet. The stage holds the visitor and the address
that the operation took up, and it fixes what the operation does with the answer.
`Operation.WaitsAt` lists the stages of all operations.
-/

namespace VisitorLink

open Errand

/-- Whether an operation has ended because an answer came too late. -/
def Outcome.isStale : Outcome → Bool
  | .link (.ok .stale) | .verify (.ok .stale) => true
  | _ => false

/-- That an operation goes on quietly, with calls about the session only, and never ends because of
a late answer. -/
abbrev StaysAside (errand : Errand Outcome) : Prop :=
  Keeps Drifting (fun call => call.isSession = true) (fun outcome => outcome.isStale = false) errand

theorem Errand.Tracks.staysAside {errand : Errand Outcome}
    (tracks : Tracks (fun outcome => outcome.isStale = false) errand) : StaysAside errand :=
  tracks.mono (fun _ _ apart => .of_eq apart.state) (fun _ session => session) fun _ ends => ends

theorem Errand.Polls.staysAside {errand : Errand Outcome}
    (polls : Polls (fun outcome => outcome.isStale = false) errand) : StaysAside errand :=
  polls.mono (fun _ _ drifts => drifts) (fun _ never => never.elim) fun _ ends => ends

/-- What an operation that waits is at, with the visitor and the address that it took up. -/
inductive Stage
  /-- Something that is not about the wallet. -/
  | aside
  /-- Something that a stage about the wallet may follow on. -/
  | inquiring
  | linking (id address : String)
  | prompting (id address : String)
  | submitting (id address : String)
  | unlinking (id address : String)
  | removing (id address : String)

/-- That an operation comes to a stage by itself in a state with the visitor and the address of the
stage. The stages after a signature are not among these, and neither is the prompt for a
verification, which changes the state. -/
def Stage.OpensIn (state : State) : Stage → Prop
  | .aside | .inquiring => True
  | .linking id address => state.isCurrent id address = true
  | .unlinking id _ => state.visitorId? = some id
  | _ => False

namespace Operation

/-- What is left of an operation after the first step of linking. -/
inductive AfterLink : Operation → (Except LinkError LinkOutcome → Errand Outcome) → Prop
  | link : AfterLink .link fun result => pure (.link result)
  | connectWallet : AfterLink .connectWallet fun result => pure (.link result)
  | bootstrap (visitor : Visitor) :
      AfterLink .bootstrap fun _ => pure (.visitor (.ok visitor))

/-- What is left of an operation after the second step of linking. -/
inductive AfterVerify : Operation → (Except LinkError VerifyOutcome → Errand Outcome) → Prop
  | verify : AfterVerify .verify fun result => pure (.verify result)
  | verifyAndFollow (context : PageContext) :
      AfterVerify (.verifyAndFollow context) fun result => .verify <$> followSwap context result

/-- The stages at which operations wait. -/
inductive WaitsAt : Operation → Stage → Errand.Paused Outcome → Prop
  | identify (id : String) :
      WaitsAt .identify .inquiring (.calling (.service (.fetchVisitor id)) fun answer =>
        .visitor <$> receiveVisitor id answer)
  | bootstrap (id : String) :
      WaitsAt .bootstrap .inquiring (.calling (.service (.fetchVisitor id)) fun answer =>
        receiveVisitor id answer >>= fun result => .visitor <$> pickUpWallet result)
  | connect :
      WaitsAt .connect .inquiring (.calling (.provider .requestAccounts) fun answer =>
        .address <$> (receiveAccounts answer >>= finishConnecting))
  | connectWallet :
      WaitsAt .connectWallet .inquiring (.calling (.provider .requestAccounts) fun answer =>
        receiveAccounts answer >>= finishConnecting >>= fun outcome =>
          .link <$> linkConnected outcome)
  | setPrimary (id address : String) :
      WaitsAt (.setPrimary address) .inquiring
        (.calling (.service (.setPrimaryWallet id address)) fun answer =>
          .account <$> receivePrimary id answer)
  | logIn (id : String) :
      WaitsAt .logIn .inquiring (.calling (.service (.logIn id)) fun answer =>
        .account <$> receiveLogIn id answer)
  | logOut (id : String) :
      WaitsAt .logOut .inquiring (.calling (.service (.logOut id)) fun answer =>
        .account <$> receiveLogOut id answer)
  | leave (id : String) :
      WaitsAt .leave .inquiring (.calling (.service (.logOut id)) fun answer =>
        receiveLogOut id answer >>= fun outcome => .account <$> followLogOut outcome)
  | track {operation : Operation} {call : Call} {next : call.Answer → Errand Outcome}
      (session : call.isSession = true) (aside : ∀ answer, StaysAside (next answer)) :
      WaitsAt operation .aside (.calling call next)
  | sleep {operation : Operation} {wakeUp : Nat} {next : Errand Outcome}
      (aside : StaysAside next) : WaitsAt operation .aside (.sleeping wakeUp next)
  | link {operation : Operation} {rest : Except LinkError LinkOutcome → Errand Outcome}
      (after : operation.AfterLink rest) (id address : String) :
      WaitsAt operation (.linking id address)
        (.calling (.service (.connectWallet id address)) fun answer =>
          receiveDecision id address answer >>= rest)
  | prompt {operation : Operation} {rest : Except LinkError VerifyOutcome → Errand Outcome}
      (after : operation.AfterVerify rest) (id address message : String) (time : Int64) :
      WaitsAt operation (.prompting id address)
        (.calling (.provider (.signMessage message)) fun answer =>
          receiveSignature id address message time answer >>= rest)
  | submit {operation : Operation} {rest : Except LinkError VerifyOutcome → Errand Outcome}
      (after : operation.AfterVerify rest) (id : String) (request : LinkRequest) :
      WaitsAt operation (.submitting id request.address)
        (.calling (.service (.linkWallet id request)) fun answer =>
          receiveProof id request.address answer >>= rest)
  | unlink (id address message : String) :
      WaitsAt (.unlink address) (.unlinking id address)
        (.calling (.provider (.signMessage message)) fun answer =>
          .account <$> receiveUnlinkSignature id address message answer)
  | remove (id address : String) (request : UnlinkRequest) :
      WaitsAt (.unlink address) (.removing id address)
        (.calling (.service (.unlinkWallet id address request)) fun answer =>
          .account <$> receiveUnlinked id address answer)

end Operation

end VisitorLink
