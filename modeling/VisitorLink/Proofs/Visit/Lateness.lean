import VisitorLink.Proofs.Visit.Turns

/-!
# Answers that come too late

An operation that links or verifies a wallet has taken up a visitor and an address. Unless it is a
signature, the answer that it waits for counts only if both are the present ones: a late answer ends
the operation without changing anything, and only a late answer ends it in this way.
-/

namespace VisitorLink

open Errand

/-! ## The check -/

/-- That an errand ends at once, with the given result and without any change if the visitor and the
address are not the present ones, and with another result if they are. -/
def Errand.ChecksFor {α : Type} (id address : String) (late : α) (errand : Errand α) : Prop :=
  ∀ visit, ∃ result after, run errand visit = (.finished result, after) ∧
    (visit.state.isCurrent id address = false → result = late ∧ after = visit) ∧
    (visit.state.isCurrent id address = true → result ≠ late)

/-- The decision on a link request is applied only if it is in time. -/
theorem Errand.receiveDecision_checksFor (id address : String)
    (answer : Except ApiError ConnectAnswer) :
    ChecksFor id address (.ok .stale) (receiveDecision id address answer) := by
  intro visit
  cases current : visit.state.isCurrent id address with
  | false =>
      exact ⟨_, visit, run_receiveDecision_of_late current answer, fun _ => ⟨rfl, rfl⟩, nofun⟩
  | true =>
      have runs := run_receiveDecision current answer
      rw [run_applyDecision] at runs
      cases decided : LinkDecision.ofAnswer answer <;>
        simp only [decided] at runs <;> exact ⟨_, _, runs, nofun, fun _ => nofun⟩

/-- A refused signature is told only if it is in time. -/
theorem Errand.receiveSignature_checksFor (id address message : String) (time : Int64)
    (reason : String) :
    ChecksFor id address (.ok .stale)
      (receiveSignature id address message time (.error reason)) := by
  intro visit
  cases current : visit.state.isCurrent id address with
  | false =>
      exact ⟨_, visit, run_receiveSignature_of_late current message time reason,
        fun _ => ⟨rfl, rfl⟩, nofun⟩
  | true =>
      have runs := run_receiveSignature_error current message time reason
      exact ⟨_, _, runs.trans (run_failVerification _ _), nofun, fun _ => nofun⟩

/-- The answer to a signature is applied only if it is in time. -/
theorem Errand.receiveProof_checksFor (id address : String) (answer : Except ApiError LinkAnswer) :
    ChecksFor id address (.ok .stale) (receiveProof id address answer) := by
  intro visit
  cases current : visit.state.isCurrent id address with
  | false =>
      exact ⟨_, visit, run_receiveProof_of_late current answer, fun _ => ⟨rfl, rfl⟩, nofun⟩
  | true =>
      cases answer with
      | error error =>
          have runs := run_receiveProof_error current error
          exact ⟨_, _, runs.trans (run_failVerification _ _), nofun, fun _ => nofun⟩
      | ok answer =>
          obtain ⟨outcome, after, stops, ends, _⟩ := run_applyProof id answer visit
          refine ⟨_, after, (run_receiveProof_ok current answer).trans stops, nofun, fun _ => ?_⟩
          rcases ends with rfl | ⟨previous, rfl⟩ <;> exact nofun

/-! ## Operations -/

/-- Whether a call is one that operations make when they link or verify a wallet. -/
def Call.isAboutWallet : Call → Bool
  | .provider (.signMessage _) | .service (.connectWallet _ _) | .service (.linkWallet _ _) => true
  | _ => false

/-- A call about the session is not about a wallet. -/
theorem Call.not_isAboutWallet {call : Call} (session : call.isSession = true) :
    ¬ call.isAboutWallet = true := by
  intro wallet
  cases call with
  | provider call => cases session
  | service call => cases call <;> simp [Call.isSession, Call.isAboutWallet] at session wallet

/-- Whether an operation is set going by a signature. -/
def Cue.isSignature : Cue → Bool
  | .answer (.provider (.signMessage _)) (.ok _) => true
  | _ => false

/-- A signature is what a prompt to sign is answered with. -/
theorem Cue.eq_of_isSignature {cue : Cue} (signed : cue.isSignature = true) :
    ∃ message signature, cue = .answer (.provider (.signMessage message)) (.ok signature) := by
  unfold isSignature at signed
  split at signed
  · exact ⟨_, _, rfl⟩
  · cases signed

/-- That a stage is about the given visitor and address, if it is about a wallet at all. -/
def Stage.IsAbout (id address : String) : Stage → Prop
  | .aside => True
  | .linking visitor wallet | .prompting visitor wallet | .submitting visitor wallet =>
      visitor = id ∧ wallet = address
  | _ => False

namespace Operation

variable {operation : Operation}

/-- That an operation has not ended because of a late answer, and is not going to. -/
inductive InTime (operation : Operation) : Errand.Paused Outcome → Prop
  | finished {outcome : Outcome} (fresh : outcome.isStale = false) :
      InTime operation (.finished outcome)
  | aside {paused : Errand.Paused Outcome} (waits : operation.WaitsAt .aside paused) :
      InTime operation paused

/-- What an operation ends with because of a late answer. The opening of a visit does not tell how
the linking ended. -/
inductive EndsLate : Operation → Outcome → Prop
  | link : EndsLate .link (.link (.ok .stale))
  | connectWallet : EndsLate .connectWallet (.link (.ok .stale))
  | bootstrap (visitor : Visitor) : EndsLate .bootstrap (.visitor (.ok visitor))
  | verify : EndsLate .verify (.verify (.ok .stale))
  | verifyAndFollow (context : PageContext) :
      EndsLate (.verifyAndFollow context) (.verify (.ok .stale))

/-- What stays aside does not end late. -/
theorem inTime_of_staysAside {errand : Errand Outcome} (aside : StaysAside errand)
    (visit : Visit) : operation.InTime (run errand visit).1 := by
  cases stops : (run errand visit).1 with
  | finished outcome => exact .finished (aside.ends stops)
  | calling call next =>
      obtain ⟨session, onwards⟩ := aside.asks stops
      exact .aside (.track session onwards)
  | sleeping wakeUp next => exact .aside (.sleep (aside.sleeps stops))

/-! ### A late answer -/

/-- A late decision ends a link request, whatever comes after it, and changes nothing. -/
theorem AfterLink.run_late {rest : Except LinkError LinkOutcome → Errand Outcome}
    (after : operation.AfterLink rest) {errand : Errand (Except LinkError LinkOutcome)}
    {visit : Visit} (stops : run errand visit = (.finished (.ok .stale), visit)) :
    ∃ outcome, run (errand >>= rest) visit = (.finished outcome, visit) ∧
      operation.EndsLate outcome := by
  rw [run_bind_of_finished stops]
  cases after with
  | link => exact ⟨_, rfl, .link⟩
  | connectWallet => exact ⟨_, rfl, .connectWallet⟩
  | bootstrap visitor => exact ⟨_, rfl, .bootstrap visitor⟩

/-- A late answer ends a verification, whatever comes after it, and changes nothing. -/
theorem AfterVerify.run_late {rest : Except LinkError VerifyOutcome → Errand Outcome}
    (after : operation.AfterVerify rest) {errand : Errand (Except LinkError VerifyOutcome)}
    {visit : Visit} (stops : run errand visit = (.finished (.ok .stale), visit)) :
    ∃ outcome, run (errand >>= rest) visit = (.finished outcome, visit) ∧
      operation.EndsLate outcome := by
  rw [run_bind_of_finished stops, after.run_stale]
  cases after with
  | verify => exact ⟨_, rfl, .verify⟩
  | verifyAndFollow context => exact ⟨_, rfl, .verifyAndFollow context⟩

variable {stage : Stage} {call : Call} {next : call.Answer → Errand Outcome} {id address : String}

/-- A late answer that is not a signature ends the operation and changes nothing. -/
theorem WaitsAt.late (waits : operation.WaitsAt stage (.calling call next))
    (about : stage.IsAbout id address) (wallet : call.isAboutWallet = true) {answer : call.Answer}
    (unsigned : (Cue.answer call answer).isSignature = false) {visit : Visit}
    (late : visit.state.isCurrent id address = false) :
    ∃ outcome, run (next answer) visit = (.finished outcome, visit) ∧
      operation.EndsLate outcome := by
  cases waits with
  | link after visitor wallet =>
      obtain ⟨rfl, rfl⟩ := about
      exact after.run_late (run_receiveDecision_of_late late answer)
  | prompt after visitor wallet message time =>
      obtain ⟨rfl, rfl⟩ := about
      cases answer with
      | error reason => exact after.run_late (run_receiveSignature_of_late late message time reason)
      | ok signature => cases unsigned
  | submit after visitor request =>
      obtain ⟨rfl, rfl⟩ := about
      exact after.run_late (run_receiveProof_of_late late answer)
  | track session aside => exact absurd wallet (Call.not_isAboutWallet session)
  | _ => cases about

/-! ### An answer in time -/

/-- After any other result, what comes after a link request stays aside. -/
theorem AfterLink.staysAside {rest : Except LinkError LinkOutcome → Errand Outcome}
    (after : operation.AfterLink rest) {result : Except LinkError LinkOutcome}
    (fresh : result ≠ .ok .stale) : StaysAside (rest result) := by
  have named : (Outcome.link result).isStale = false := by
    cases result with
    | error error => rfl
    | ok outcome =>
        cases outcome with
        | stale => exact absurd rfl fresh
        | _ => rfl
  cases after with
  | bootstrap visitor => exact keeps_done Drifting.refl rfl
  | _ => exact keeps_done Drifting.refl named

/-- An errand that checks whether it is in time does not end late while it is. -/
theorem ChecksFor.inTime {α : Type} {late : α} {errand : Errand α} {rest : α → Errand Outcome}
    (checks : ChecksFor id address late errand)
    (aside : ∀ {result}, result ≠ late → StaysAside (rest result)) {visit : Visit}
    (current : visit.state.isCurrent id address = true) :
    operation.InTime (run (errand >>= rest) visit).1 := by
  obtain ⟨result, later, stops, _, fresh⟩ := checks visit
  rw [run_bind_of_finished stops]
  exact inTime_of_staysAside (aside (fresh current)) later

/-- An answer that is not late and not a signature never ends the operation because of a late
answer, neither at once nor later. -/
theorem WaitsAt.inTime (waits : operation.WaitsAt stage (.calling call next))
    (about : stage.IsAbout id address) {answer : call.Answer}
    (unsigned : (Cue.answer call answer).isSignature = false) {visit : Visit}
    (current : visit.state.isCurrent id address = true) :
    operation.InTime (run (next answer) visit).1 := by
  cases waits with
  | link after visitor wallet =>
      obtain ⟨rfl, rfl⟩ := about
      exact ChecksFor.inTime (receiveDecision_checksFor _ _ answer) after.staysAside current
  | prompt after visitor wallet message time =>
      obtain ⟨rfl, rfl⟩ := about
      cases answer with
      | error reason =>
          exact ChecksFor.inTime (receiveSignature_checksFor _ _ message time reason)
            (fun fresh => (after.tracks fresh).staysAside) current
      | ok signature => cases unsigned
  | submit after visitor request =>
      obtain ⟨rfl, rfl⟩ := about
      exact ChecksFor.inTime (receiveProof_checksFor _ _ answer)
        (fun fresh => (after.tracks fresh).staysAside) current
  | track session aside => exact inTime_of_staysAside (aside answer) visit
  | _ => cases about

/-! ### A signature -/

/-- A signature for a verification is sent on, with the visitor and the address of the prompt. -/
theorem WaitsAt.signed {message : String} {next : Except String String → Errand Outcome}
    (waits : operation.WaitsAt stage (.calling (.provider (.signMessage message)) next))
    (about : stage.IsAbout id address) (signature : String) (visit : Visit) :
    ∃ request next', request.address = address ∧ request.message = message ∧
      request.signature = signature ∧
      operation.WaitsAt (.submitting id address)
        (.calling (.service (.linkWallet id request)) next') ∧
      run (next (.ok signature)) visit = (.calling (.service (.linkWallet id request)) next',
        visit.inquire (.call (.service (.linkWallet id request)))) := by
  cases waits with
  | prompt after visitor wallet message time =>
      obtain ⟨rfl, rfl⟩ := about
      exact ⟨⟨_, message, signature, time⟩, _, rfl, rfl, rfl,
        .submit after _ ⟨_, message, signature, time⟩,
        run_bind_of_calling (run_receiveSignature_ok _ _ message signature time visit) _⟩
  | unlink => cases about
  | track session aside => cases session

/-! ### The stages about a wallet -/

/-- That an operation has ended, or waits at a stage about the given visitor and address. -/
inductive Pursues (id address : String) (operation : Operation) : Errand.Paused Outcome → Prop
  | finished (outcome : Outcome) : Pursues id address operation (.finished outcome)
  | waits {stage : Stage} {paused : Errand.Paused Outcome}
      (waits : operation.WaitsAt stage paused) (about : stage.IsAbout id address) :
      Pursues id address operation paused

/-- What pursues a visitor and an address stands at a stage about them. -/
theorem Pursues.stands (pursues : operation.Pursues id address (.calling call next)) :
    ∃ stage, operation.WaitsAt stage (.calling call next) ∧ stage.IsAbout id address := by
  cases pursues with
  | waits waits about => exact ⟨_, waits, about⟩

/-- What is in time pursues them or has ended. -/
theorem InTime.pursues {paused : Errand.Paused Outcome} (inTime : operation.InTime paused) :
    operation.Pursues id address paused := by
  cases inTime with
  | finished fresh => exact .finished _
  | aside waits => exact .waits waits trivial

/-- Who stands at a stage about a wallet waits for an answer about it. -/
theorem WaitsAt.isAboutWallet (waits : operation.WaitsAt stage (.calling call next))
    (about : stage.IsAbout id address) : stage = .aside ∨ call.isAboutWallet = true := by
  cases waits with
  | link | prompt | submit => exact .inr rfl
  | track => exact .inl rfl
  | _ => cases about

/-- An operation goes on with the visitor and the address that it has taken up. -/
theorem Pursues.answered (pursues : operation.Pursues id address (.calling call next))
    (answer : call.Answer) (visit : Visit) :
    operation.Pursues id address (run (next answer) visit).1 := by
  obtain ⟨stage, waits, about⟩ := pursues.stands
  cases signed : (Cue.answer call answer).isSignature with
  | true =>
      obtain ⟨message, signature, same⟩ := Cue.eq_of_isSignature signed
      cases same
      obtain ⟨request, next', rfl, _, _, sends, stops⟩ := waits.signed about signature visit
      rw [stops]
      exact .waits sends ⟨rfl, rfl⟩
  | false =>
      cases current : visit.state.isCurrent id address with
      | true => exact (waits.inTime about signed current).pursues
      | false =>
          rcases waits.isAboutWallet about with rfl | wallet
          · cases waits with
            | track session aside => exact (inTime_of_staysAside (aside answer) visit).pursues
          · obtain ⟨outcome, stops, _⟩ := waits.late about wallet signed current
            rw [stops]
            exact .finished outcome

/-- What waits aside stays in time when it is answered. -/
theorem InTime.answered (inTime : operation.InTime (.calling call next)) (answer : call.Answer)
    (visit : Visit) : operation.InTime (run (next answer) visit).1 := by
  cases inTime with
  | aside waits =>
      cases waits with
      | track session aside => exact inTime_of_staysAside (aside answer) visit

/-- What sleeps aside stays in time when it wakes. -/
theorem InTime.woken {wakeUp : Nat} {next : Errand Outcome}
    (inTime : operation.InTime (.sleeping wakeUp next)) (visit : Visit) :
    operation.InTime (run next visit).1 := by
  cases inTime with
  | aside waits =>
      cases waits with
      | sleep aside => exact inTime_of_staysAside aside visit

/-- What sleeps pursues what it pursued when it wakes. -/
theorem Pursues.woken {wakeUp : Nat} {next : Errand Outcome}
    (pursues : operation.Pursues id address (.sleeping wakeUp next)) (visit : Visit) :
    operation.Pursues id address (run next visit).1 := by
  cases pursues with
  | waits waits about =>
      cases waits with
      | sleep aside => exact (inTime_of_staysAside aside visit).pursues

end Operation

end VisitorLink
