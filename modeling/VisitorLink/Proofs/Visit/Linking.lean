import VisitorLink.Proofs.Errand.Pieces
import VisitorLink.Proofs.Visit.Effect
import VisitorLink.Visit.Opening

/-!
# The pieces of connecting and linking

What each piece of connecting to the provider and of the two steps of linking a wallet does to the
visit, and where it stops. The pieces that begin with an answer about a wallet look first whether
the visitor and the address are still those that the call was made for.
-/

namespace VisitorLink

/-- Telling an event leaves the state. -/
@[simp] theorem Visit.emit_state (visit : Visit) (event : Event) :
    (visit.emit event).state = visit.state := by
  unfold emit
  split <;> rfl

@[simp] theorem Visit.apply_state (visit : Visit) (change : Change) :
    (visit.apply change).state = visit.state.apply change := rfl

namespace Errand

/-! ## Connecting -/

/-- Connecting ends with the settled connection, and the next one may be made. -/
theorem run_finishConnecting (outcome : Except ConnectionError String) (visit : Visit) :
    run (finishConnecting outcome) visit =
      match outcome with
      | .ok address =>
          (.finished (.ok address), { visit.apply (.connect address) with connecting := false })
      | .error error =>
          (.finished (.error error),
            { (visit.apply (.failConnection error.message)).emit (.notice .error error.message) with
              connecting := false }) := by
  cases outcome <;> rfl

/-- The answer to a request for accounts is read at once. -/
theorem run_receiveAccounts (answer : AccountsAnswer) (visit : Visit) :
    run (receiveAccounts answer) visit =
      (.finished (match answer.outcome with
        | .error error => .error error
        | .ok () =>
            match visit.shownAddress? with
            | some address => .ok address
            | none => .error .addressUnavailable), visit) := by
  unfold receiveAccounts
  cases answer.outcome with
  | error error => rfl
  | ok granted =>
      rw [run_visit_bind]
      cases visit.shownAddress? <;> rfl

/-- Connecting is refused while another connection is made, and otherwise ends or asks for accounts.
-/
theorem run_connect (visit : Visit) :
    run connect visit =
      if visit.connecting then (.finished (.error .inProgress), visit)
      else if visit.outside.providerPresent then
        match visit.shownAddress? with
        | some address =>
            run (finishConnecting (.ok address))
              ({ visit with connecting := true }.inquire .detect)
        | none =>
            (.calling (.provider .requestAccounts) fun answer =>
                receiveAccounts answer >>= finishConnecting,
              (({ visit with connecting := true }.inquire .detect).apply .request).inquire
                (.call (.provider .requestAccounts)))
      else
        run (finishConnecting (.error .providerNotDetected))
          ({ visit with connecting := true }.inquire .detect) := by
  unfold connect
  rw [run_visit_bind, run_ite]
  split
  · rfl
  · rw [run_modify_bind, run_bind]
    unfold requestAddress
    rw [run_lookForProvider_bind, run_ite]
    cases visit.outside.providerPresent with
    | false => rfl
    | true =>
        have shown : ({ visit with connecting := true }.inquire .detect).shownAddress? =
            visit.shownAddress? := rfl
        simp only [Bool.not_true, Bool.false_eq_true, ↓reduceIte, run_visit_bind, shown]
        cases visit.shownAddress? <;> rfl

/-- The shown address is asked for only if there is a provider. -/
theorem run_shownIf_bind {α : Type} (present : Bool) (rest : Option String → Errand α)
    (visit : Visit) :
    run (shownIf present >>= rest) visit =
      run (rest (if present then visit.shownAddress? else none)) visit := rfl

/-- A look at the address that the provider shows never waits, and it changes the state quietly. -/
theorem checkShown_finishes (visit : Visit) :
    ∃ shown after, run checkShown visit = (.finished shown, after) ∧
      visit.state.Drifts after.state := by
  have checks : visit.state.Drifts (visit.state.apply .check) := .of_change _ .check rfl
  unfold checkShown
  rw [run_apply_bind, run_lookForProvider_bind, run_shownIf_bind]
  split <;> rw [run_apply_bind]
  case h_1 address shown => exact ⟨_, _, rfl, .change checks (.connect address) rfl⟩
  case h_2 shown => exact ⟨_, _, rfl, .change checks .finishCheck rfl⟩

/-! ## The first step of linking -/

/-- A link request is made once per address, for the loaded visitor and the connected address. -/
theorem run_link (visit : Visit) :
    run link visit =
      match visit.state.visitor, visit.state.address? with
      | some visitor, some address =>
          match visitor.wallet? address with
          | some wallet => (.finished (.ok (.known wallet.verified)), visit)
          | none =>
              if address ∈ visit.attempted then (.finished (.ok .attempted), visit)
              else
                (.calling (.service (.connectWallet visitor.id address))
                    (receiveDecision visitor.id address),
                  { visit with attempted := address :: visit.attempted }.inquire
                    (.call (.service (.connectWallet visitor.id address))))
      | _, _ => (.finished (.ok .skipped), visit) := by
  unfold link
  rw [run_visit_bind]
  cases visit.state.visitor with
  | none => rfl
  | some visitor =>
      cases visit.state.address? with
      | none => rfl
      | some address =>
          dsimp only
          cases visitor.wallet? address with
          | some wallet => rfl
          | none =>
              dsimp only
              rw [run_ite]
              rfl

/-- The first step of linking ends at once, or it asks the service about the connected address. -/
theorem link_stops (visit : Visit) :
    (∃ result, run link visit = (.finished result, visit)) ∨
      ∃ id address after, run link visit =
          (.calling (.service (.connectWallet id address)) (receiveDecision id address), after) ∧
        visit.state.isCurrent id address = true ∧ after.state = visit.state := by
  rw [run_link]
  cases loaded : visit.state.visitor with
  | none => exact .inl ⟨_, rfl⟩
  | some visitor =>
      cases connected : visit.state.address? with
      | none => exact .inl ⟨_, rfl⟩
      | some address =>
          dsimp only
          split
          · exact .inl ⟨_, rfl⟩
          · split
            · exact .inl ⟨_, rfl⟩
            · have current := State.isCurrent_iff.2
                ⟨congrArg (Option.map Visitor.id) loaded, connected⟩
              exact .inr ⟨visitor.id, address, _, rfl, current, rfl⟩

/-- A decision is applied in one piece. -/
theorem run_applyDecision (address : String) (decision : LinkDecision) (visit : Visit) :
    run (applyDecision address decision) visit =
      match decision with
      | .loginRequired owner =>
          (.finished (.ok (.loginRequired owner)),
            (visit.apply (.requireLogin address owner)).emit (.loginRequired address owner))
      | .linked visitor => (.finished (.ok .linked), visit.apply (.link visitor))
      | .refused reason =>
          (.finished (.error (.connectFailed reason)),
            ({ visit with attempted := visit.attempted.filter (· != address) }.apply
              (.failLink reason)).emit
                (.notice .error ("Failed to connect wallet: " ++ reason))) := by
  cases decision <;> rfl

/-- An answer that comes too late is dropped. -/
theorem run_receiveDecision_of_late {id address : String} {visit : Visit}
    (late : visit.state.isCurrent id address = false) (answer : Except ApiError ConnectAnswer) :
    run (receiveDecision id address answer) visit = (.finished (.ok .stale), visit) := by
  unfold receiveDecision
  rw [run_isCurrent_bind, late]
  rfl

/-- In time, the answer to a link request is decided and the decision applied. -/
theorem run_receiveDecision {id address : String} {visit : Visit}
    (current : visit.state.isCurrent id address = true) (answer : Except ApiError ConnectAnswer) :
    run (receiveDecision id address answer) visit =
      run (applyDecision address (.ofAnswer answer)) visit := by
  unfold receiveDecision
  rw [run_isCurrent_bind, current]
  rfl

/-! ## The second step of linking -/

/-- A failed verification is noted and told. -/
theorem run_failVerification (reason : String) (visit : Visit) :
    run (failVerification reason) visit =
      (.finished (.error (.verifyFailed reason)),
        (visit.apply (.failVerification reason)).emit
          (.notice .error ("Failed to verify wallet: " ++ reason))) := rfl

/-- A prompt is opened with the challenge of the time, and the verification is noted. -/
theorem run_prove (id address : String) (purpose : Purpose) (visit : Visit) :
    run (prove id address purpose) visit =
      (.calling (.provider (.signMessage (challenge purpose address visit.outside.time)))
          (receiveSignature id address (challenge purpose address visit.outside.time)
            visit.outside.time),
        (visit.apply .startVerification).inquire
          (.call (.provider (.signMessage (challenge purpose address visit.outside.time))))) := rfl

/-- Verifying is refused for want of a visitor, an address or a provider that signs, for a wallet
that is verified and while another verification goes on, and otherwise opens the prompt. -/
theorem run_verify (visit : Visit) :
    run verify visit =
      match visit.state.visitorId?, visit.state.connection.address with
      | none, _ => (.finished (.error .noIdentity), visit)
      | some _, none => (.finished (.error .noConnectedWallet), visit)
      | some id, some address =>
          if visit.state.connection.pendingLogin.isNone && visit.state.connection.verified then
            (.finished (.ok .alreadyVerified), visit)
          else if visit.state.connection.verifying then
            (.finished (.error (.verifyFailed "A verification is already in progress")), visit)
          else if visit.outside.providerSigns then
            run (prove id address
              (if visit.state.connection.pendingLogin.isSome then .login else .link)) visit
          else
            (.finished (.error .signatureUnavailable),
              (visit.apply (.failVerification LinkError.signatureUnavailable.message)).emit
                (.notice .error LinkError.signatureUnavailable.message)) := by
  unfold verify
  rw [run_visit_bind]
  dsimp only
  cases visit.state.visitorId? with
  | none => rfl
  | some id =>
      cases visit.state.connection.address with
      | none => rfl
      | some address =>
          dsimp only
          rw [run_ite, run_ite, run_ite]
          cases visit.outside.providerSigns <;> rfl

/-- The second step of linking ends at once, or it has a challenge signed by the connected
wallet. -/
theorem verify_stops (visit : Visit) :
    (∃ result after, run verify visit = (.finished result, after) ∧
        visit.state.Drifts after.state) ∨
      ∃ id address message time after, run verify visit =
          (.calling (.provider (.signMessage message))
            (receiveSignature id address message time), after) ∧
        visit.state.isCurrent id address = true ∧ visit.state.connection.verifying = false ∧
        after.state = visit.state.apply .startVerification := by
  rw [run_verify]
  cases loaded : visit.state.visitorId? with
  | none => exact .inl ⟨_, visit, rfl, .refl⟩
  | some id =>
      cases connected : visit.state.connection.address with
      | none => exact .inl ⟨_, visit, rfl, .refl⟩
      | some address =>
          dsimp only
          split
          · exact .inl ⟨_, visit, rfl, .refl⟩
          · split
            · exact .inl ⟨_, visit, rfl, .refl⟩
            case isFalse idle =>
              split
              · exact .inr ⟨id, address, _, _, _, run_prove id address _ visit,
                  State.isCurrent_iff.2 ⟨loaded, connected⟩, eq_false_of_ne_true idle, rfl⟩
              · refine .inl ⟨_, _, rfl, ?_⟩
                rw [Visit.emit_state]
                exact .of_change visit.state (.failVerification _) rfl

/-- A refused signature that comes too late is dropped. -/
theorem run_receiveSignature_of_late {id address : String} {visit : Visit}
    (late : visit.state.isCurrent id address = false) (message : String) (time : Int64)
    (reason : String) :
    run (receiveSignature id address message time (.error reason)) visit =
      (.finished (.ok .stale), visit) := by
  unfold receiveSignature
  rw [run_isCurrent_bind, late]
  rfl

/-- In time, a refused signature fails the verification. -/
theorem run_receiveSignature_error {id address : String} {visit : Visit}
    (current : visit.state.isCurrent id address = true) (message : String) (time : Int64)
    (reason : String) :
    run (receiveSignature id address message time (.error reason)) visit =
      run (failVerification ("Signature request failed: " ++ reason)) visit := by
  unfold receiveSignature
  rw [run_isCurrent_bind, current]
  rfl

/-- A signature is sent on, whatever the visitor and the address are by then. -/
theorem run_receiveSignature_ok (id address message signature : String) (time : Int64)
    (visit : Visit) :
    run (receiveSignature id address message time (.ok signature)) visit =
      (.calling (.service (.linkWallet id ⟨address, message, signature, time⟩))
          (receiveProof id address),
        visit.inquire
          (.call (.service (.linkWallet id ⟨address, message, signature, time⟩)))) := rfl

/-- An answer to a signature that comes too late is dropped. -/
theorem run_receiveProof_of_late {id address : String} {visit : Visit}
    (late : visit.state.isCurrent id address = false) (answer : Except ApiError LinkAnswer) :
    run (receiveProof id address answer) visit = (.finished (.ok .stale), visit) := by
  unfold receiveProof
  rw [run_isCurrent_bind, late]
  rfl

/-- In time, a refused proof fails the verification. -/
theorem run_receiveProof_error {id address : String} {visit : Visit}
    (current : visit.state.isCurrent id address = true) (error : ApiError) :
    run (receiveProof id address (.error error)) visit =
      run (failVerification error.userMessage) visit := by
  unfold receiveProof
  rw [run_isCurrent_bind, current]
  rfl

/-- In time, an accepted proof is applied. -/
theorem run_receiveProof_ok {id address : String} {visit : Visit}
    (current : visit.state.isCurrent id address = true) (answer : LinkAnswer) :
    run (receiveProof id address (.ok answer)) visit = run (applyProof id answer) visit := by
  unfold receiveProof
  rw [run_isCurrent_bind, current]
  rfl

/-- An accepted signature puts the answered record in place, and the verification ends with it. -/
theorem run_applyProof (id : String) (answer : LinkAnswer) (visit : Visit) :
    ∃ outcome after, run (applyProof id answer) visit = (.finished (.ok outcome), after) ∧
      (outcome = .verified ∨ ∃ previous, outcome = .swapped previous answer.visitor.id) ∧
      after.state = visit.state.apply (.verify answer.visitor) := by
  unfold applyProof
  rw [run_apply_bind, run_ite]
  split
  · exact ⟨_, _, rfl, .inl rfl, by simp⟩
  · rw [run_visit_bind, run_ite]
    split
    · exact ⟨_, _, rfl, .inr ⟨_, rfl⟩, by simp⟩
    · exact ⟨_, _, rfl, .inr ⟨_, rfl⟩, by simp⟩

end Errand

end VisitorLink
