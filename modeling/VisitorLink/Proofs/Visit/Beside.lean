import VisitorLink.Proofs.Visit.Handover
import VisitorLink.Proofs.Visit.Pages
import VisitorLink.Proofs.Visit.Stages

/-!
# Beside the tracking of pages

What is done about the wallet and the account changes nothing that the tracking of pages sees but
who the visitor is. Two operations end in the tracking of pages: a log-out stops the heartbeat, and
a verification is followed by the session if the visit goes on as another visitor.

Main statements: unless there is such a swap, every piece of every operation but a log-out that is
not on the session itself is beside the tracking of pages (`Operation.goesBeside_start`,
`Operation.WaitsBeside.answered` and `Operation.WaitsBeside.woken`).
-/

namespace VisitorLink

open Errand

namespace Visit

/-- That one visit came from another with nothing changed that the tracking of pages sees, but who
the visitor is. -/
def Beside (before after : Visit) : Prop :=
  after.pagesView = { before.pagesView with visitorId? := after.state.visitorId? }

/-- An inquiry off the sessions is not seen. -/
theorem pagesView_inquire_of_other (visit : Visit) {inquiry : Inquiry}
    (other : inquiry.isSession = false) : (visit.inquire inquiry).pagesView = visit.pagesView := by
  rw [pagesView_inquire, List.filter_singleton, other, cond_false, List.append_nil]

/-- Telling an event is not seen. -/
theorem pagesView_emit (visit : Visit) (event : Event) :
    (visit.emit event).pagesView = visit.pagesView := by
  unfold emit
  split <;> rfl

namespace Beside

variable {before after : Visit}

/-- A visit that looks the same has stayed beside. -/
theorem of_eq (same : after.pagesView = before.pagesView) : before.Beside after := by
  have known : after.state.visitorId? = before.state.visitorId? :=
    congrArg PagesView.visitorId? same
  rw [Beside, same, known]
  rfl

theorem refl (visit : Visit) : visit.Beside visit := rfl

/-- Staying beside can be chained. -/
theorem trans (first middle last : Visit) (before : first.Beside middle)
    (after : middle.Beside last) : first.Beside last := by
  rw [Beside, before] at after
  exact after

/-- Staying beside is a frame. -/
theorem frame : Frame Beside where
  refl := refl
  trans := trans
  apply _ _ _ := rfl
  emit visit event := .of_eq (visit.pagesView_emit event)
  attempt _ _ := rfl
  store visit storage stores :=
    .of_eq (congrArg (fun found => { visit.pagesView with referrer? := found })
      stores.referrerView?_eq)
  detect visit := .of_eq (visit.pagesView_inquire_of_other rfl)
  ask visit call ordinary :=
    .of_eq (visit.pagesView_inquire_of_other (Call.not_isSession_of_isOrdinary ordinary))
  check visit _ _ := by
    have checks : visit.Beside (visit.apply .check) := rfl
    have looks : (visit.apply .check).Beside ((visit.apply .check).inquire .detect) :=
      .of_eq (pagesView_inquire_of_other _ rfl)
    exact trans _ _ _ checks (trans _ _ _ looks rfl)

/-- Connecting stays beside as well. -/
theorem connectingFrame : ConnectingFrame Beside where
  toFrame := frame
  connecting _ _ := rfl
  request _ := rfl
  fail _ _ := rfl
  dial visit := .of_eq (visit.pagesView_inquire_of_other rfl)

end Beside

/-- Whether the visit goes on as another visitor when a cue sets an operation going. -/
def Swaps (visit : Visit) : Cue → Prop
  | .answer (.service (.linkWallet id request)) (.ok answer) =>
      visit.state.isCurrent id request.address = true ∧ answer.swaps id = true
  | _ => False

end Visit

namespace Errand

variable {α : Type}

/-- That all pieces of an errand are beside the tracking of pages. -/
abbrev StaysBeside (errand : Errand α) : Prop :=
  Keeps Visit.Beside (fun call => call.isSession = false) (fun _ => True) errand

/-- A verification does not end with a swap before there is an answer to its signature. -/
theorem not_swapped_of_verify {visit after : Visit} {result : Except LinkError VerifyOutcome}
    (stops : run verify visit = (.finished result, after)) (previous current : String) :
    result ≠ .ok (.swapped previous current) := by
  rintro rfl
  rw [run_verify] at stops
  split at stops
  · cases stops
  · cases stops
  · split at stops
    · cases stops
    · split at stops
      · cases stops
      · split at stops <;> cases stops

end Errand

namespace Operation

/-- Whether an operation neither tracks pages nor ends with a log-out that stops the heartbeat. -/
def isBeside : Operation → Bool
  | .leave => false
  | operation => !operation.isOnSession

/-- An operation beside the tracking of pages is not on the session. -/
theorem isOnSession_of_isBeside {operation : Operation} (beside : operation.isBeside = true) :
    operation.isOnSession = false := by
  cases operation <;> first | rfl | cases beside

/-- What an operation waits at beside the tracking of pages: anything that stays there, or an answer
in a verification. -/
inductive WaitsBeside : Operation → Errand.Paused Outcome → Prop
  | keeps {operation : Operation} {paused : Errand.Paused Outcome}
      (keeps : StillKeeps Visit.Beside (fun call => call.isSession = false) (fun _ => True)
        paused) :
      WaitsBeside operation paused
  | prompt {operation : Operation} {rest : Except LinkError VerifyOutcome → Errand Outcome}
      (after : operation.AfterVerify rest) (id address message : String) (time : Int64) :
      WaitsBeside operation (.calling (.provider (.signMessage message)) fun answer =>
        receiveSignature id address message time answer >>= rest)
  | submit {operation : Operation} {rest : Except LinkError VerifyOutcome → Errand Outcome}
      (after : operation.AfterVerify rest) (id : String) (request : LinkRequest) :
      WaitsBeside operation (.calling (.service (.linkWallet id request)) fun answer =>
        receiveProof id request.address answer >>= rest)

/-- That a piece of an operation is beside the tracking of pages, and what is left of the operation
waits there. -/
structure GoesBeside (operation : Operation) (before : Visit)
    (piece : Errand.Paused Outcome × Visit) : Prop where
  beside : before.Beside piece.2
  waits : operation.WaitsBeside piece.1

variable {operation : Operation} {visit middle : Visit}
  {rest : Except LinkError VerifyOutcome → Errand Outcome}

/-- An errand that stays beside is a piece that goes beside. -/
theorem goesBeside_of_keeps {errand : Errand Outcome} (stays : StaysBeside errand)
    (visit : Visit) : operation.GoesBeside visit (errand.run visit) :=
  ⟨stays.moves visit, .keeps (stays.stillKeeps visit)⟩

/-- The session follows after a swap only. -/
theorem AfterVerify.goesBeside (after : operation.AfterVerify rest)
    {errand : Errand (Except LinkError VerifyOutcome)} {result : Except LinkError VerifyOutcome}
    (stops : run errand visit = (.finished result, middle)) (beside : visit.Beside middle)
    (stays : ∀ previous current, result ≠ .ok (.swapped previous current)) :
    operation.GoesBeside visit ((errand >>= rest).run visit) := by
  have ends : rest result = pure (.verify result) := by
    cases after with
    | verify => rfl
    | verifyAndFollow context =>
        rcases result with error | _ | ⟨previous, current⟩ | _ | _
        case ok.swapped => exact absurd rfl (stays previous current)
        all_goals rfl
  rw [run_bind_of_finished stops, ends]
  exact ⟨beside, .keeps trivial⟩

/-- Verifying goes beside until it is answered. -/
theorem goesBeside_verify (after : operation.AfterVerify rest) (visit : Visit) :
    operation.GoesBeside visit ((Errand.verify >>= rest).run visit) := by
  have moves := Visit.Beside.frame.within_verify.moves visit
  rcases verify_stops visit with
    ⟨result, middle, stops, _⟩ | ⟨id, address, message, time, middle, stops, _⟩
  · rw [stops] at moves
    exact after.goesBeside stops moves (not_swapped_of_verify stops)
  · rw [stops] at moves
    rw [run_bind_of_calling stops]
    exact ⟨moves, .prompt after id address message time⟩

/-- A verification that fails goes beside. -/
theorem goesBeside_failVerification (after : operation.AfterVerify rest)
    {errand : Errand (Except LinkError VerifyOutcome)} {reason : String}
    (fails : run errand visit = run (failVerification reason) visit) :
    operation.GoesBeside visit ((errand >>= rest).run visit) :=
  after.goesBeside (fails.trans (run_failVerification reason visit))
    (.of_eq (Visit.pagesView_emit _ _)) nofun

/-- The answer of the prompt goes beside, signed or refused. -/
theorem goesBeside_receiveSignature (after : operation.AfterVerify rest)
    (id address message : String) (time : Int64) (answer : Except String String) (visit : Visit) :
    operation.GoesBeside visit
      ((receiveSignature id address message time answer >>= rest).run visit) := by
  cases answer with
  | error reason =>
      cases current : visit.state.isCurrent id address with
      | false =>
          exact after.goesBeside (run_receiveSignature_of_late current message time reason)
            (.refl visit) nofun
      | true =>
          exact goesBeside_failVerification after
            (run_receiveSignature_error current message time reason)
  | ok signature =>
      rw [run_bind_of_calling (run_receiveSignature_ok id address message signature time visit)]
      exact ⟨.of_eq (visit.pagesView_inquire_of_other rfl), .submit after id _⟩

/-- The answer to a signature goes beside, unless it swaps the visitor. -/
theorem goesBeside_receiveProof (after : operation.AfterVerify rest) (id : String)
    (request : LinkRequest) (answer : Except ApiError LinkAnswer) (visit : Visit)
    (stays : ¬ visit.Swaps (.answer (.service (.linkWallet id request)) answer)) :
    operation.GoesBeside visit ((receiveProof id request.address answer >>= rest).run visit) := by
  cases current : visit.state.isCurrent id request.address with
  | false =>
      exact after.goesBeside (run_receiveProof_of_late current answer) (.refl visit) nofun
  | true =>
      cases answer with
      | error error =>
          exact goesBeside_failVerification after (run_receiveProof_error current error)
      | ok answer =>
          have own : answer.swaps id = false :=
            Bool.eq_false_iff.2 fun swaps => stays ⟨current, swaps⟩
          have proves := (run_receiveProof_ok current answer).trans
            (run_applyProof_of_not_swaps own visit)
          have verifies : visit.Beside (visit.apply (.verify answer.visitor)) := rfl
          refine after.goesBeside proves (verifies.trans _ _ _ (.of_eq ?_)) nofun
          exact Visit.pagesView_emit _ _

/-- An operation that is beside goes beside from its start. -/
theorem goesBeside_start (beside : operation.isBeside = true) (visit : Visit) :
    operation.GoesBeside visit (operation.errand.run visit) := by
  cases connects : operation.connects with
  | true =>
      exact goesBeside_of_keeps (Visit.Beside.connectingFrame.keeps_errand connects) visit
  | false =>
      cases operation with
      | verifyAndFollow context =>
          rw [errand_verifyAndFollow]
          exact goesBeside_verify (.verifyAndFollow context) visit
      | leave | startSession | startTracking | recordPage | sendHeartbeat | hidePage
      | stopHeartbeat | endTracking | shutDown => cases beside
      | _ =>
          have within := Visit.Beside.frame.within_errand connects rfl rfl
          exact goesBeside_of_keeps within.offSession visit

/-- What waits beside goes beside when it is answered, unless the visitor is swapped. -/
theorem WaitsBeside.answered {call : Call} {next : call.Answer → Errand Outcome}
    (waits : operation.WaitsBeside (.calling call next)) (answer : call.Answer)
    (stays : ¬ visit.Swaps (.answer call answer)) :
    operation.GoesBeside visit ((next answer).run visit) := by
  cases waits with
  | keeps keeps => exact goesBeside_of_keeps (keeps answer) visit
  | prompt after id address message time =>
      exact goesBeside_receiveSignature after id address message time answer visit
  | submit after id request => exact goesBeside_receiveProof after id request answer visit stays

/-- What sleeps beside goes beside when it wakes. -/
theorem WaitsBeside.woken {wakeUp : Nat} {next : Errand Outcome}
    (waits : operation.WaitsBeside (.sleeping wakeUp next)) (visit : Visit) :
    operation.GoesBeside visit (next.run visit) := by
  cases waits with
  | keeps keeps => exact goesBeside_of_keeps keeps visit

end Operation

end VisitorLink
