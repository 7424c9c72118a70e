import VisitorLink.Proofs.Visit.Attempts

/-!
# What failures leave alone

An operation that fails has told why. Beyond that it takes back what it has done on the way: the
status of a connection that is not made, the note of an address that is not linked, the verification
under way. `Visit.Intact` is what no failure touches, and `Operation.Spares` what each kind of
operation may change.
-/

namespace VisitorLink

/-- Whether an operation that concerns the wallet or the account has failed. -/
def Outcome.isFailure : Outcome → Bool
  | .address (.error _) | .link (.error _) | .verify (.error _) | .account (.error _) => true
  | _ => false

/-- That a visit has kept its visitor, the connected address and what is known about it, its slots
and its tracking of pages. -/
structure Visit.Intact (before after : Visit) : Prop where
  visitor : after.state.visitor = before.state.visitor
  address : after.state.address? = before.state.address?
  verified : after.state.connection.verified = before.state.connection.verified
  pendingLogin : after.state.connection.pendingLogin = before.state.connection.pendingLogin
  detected : after.state.connection.detected = before.state.connection.detected
  storage : after.storage = before.storage
  tracker : after.tracker = before.tracker

@[simp] theorem Visit.emit_storage (visit : Visit) (event : Event) :
    (visit.emit event).storage = visit.storage := by
  unfold emit
  split <;> rfl

@[simp] theorem Visit.emit_tracker (visit : Visit) (event : Event) :
    (visit.emit event).tracker = visit.tracker := by
  unfold emit
  split <;> rfl

namespace Operation

/-- Whether an operation is about the account of the visitor. -/
def isAccount : Operation → Bool
  | .unlink _ | .setPrimary _ | .logIn | .logOut | .leave => true
  | _ => false

/-- What an operation that fails may change in the state and in the addresses tried, by the piece
that it ends with. -/
inductive Spares : Operation → Cue → Visit → Visit → Prop
  | connecting {operation : Operation} {cue : Cue} {before after : Visit}
      (connects : operation = .connect ∨ operation = .connectWallet) (status : ConnectionStatus)
      (error : Option String)
      (state : after.state =
        { before.state with connection.status := status, connection.error := error })
      (attempted : after.attempted = before.attempted) : Spares operation cue before after
  /-- The address that the service refuses to link may be tried again. -/
  | linking {operation : Operation} {id address reason : String}
      {answer : Except ApiError ConnectAnswer} {before after : Visit}
      (links : operation = .link ∨ operation = .connectWallet)
      (current : before.state.isCurrent id address = true)
      (refused : LinkDecision.ofAnswer answer = .refused reason)
      (state : after.state = { before.state with connection.linkError := some reason })
      (attempted : after.attempted = before.attempted.filter (· != address)) :
      Spares operation (.answer (.service (.connectWallet id address)) answer) before after
  | verifying {operation : Operation} {cue : Cue} {before after : Visit}
      (verifies : operation = .verify ∨ ∃ context, operation = .verifyAndFollow context)
      (underWay : Bool) (error : Option String)
      (state : after.state =
        { before.state with connection.verifying := underWay, connection.linkError := error })
      (attempted : after.attempted = before.attempted) : Spares operation cue before after
  | account {operation : Operation} {cue : Cue} {before after : Visit}
      (account : operation.isAccount = true) (state : after.state = before.state)
      (attempted : after.attempted = before.attempted) : Spares operation cue before after

/-- How an operation that fails leaves the visit. -/
structure Failure (operation : Operation) (cue : Cue) (before after : Visit) : Prop where
  spares : operation.Spares cue before after
  storage : after.storage = before.storage
  tracker : after.tracker = before.tracker

/-- Whatever an operation may change when it fails, the rest stays intact. -/
theorem Failure.intact {operation : Operation} {cue : Cue} {before after : Visit}
    (failure : operation.Failure cue before after) : before.Intact after := by
  obtain ⟨spares, storage, tracker⟩ := failure
  cases spares with
  | connecting _ _ _ state | linking _ _ _ state | verifying _ _ _ state | account _ state =>
      constructor
      case storage => exact storage
      case tracker => exact tracker
      all_goals simp only [state, State.address?]

end Operation

end VisitorLink
