import VisitorLink.Proofs.Visit.Stages

/-!
# Turns

Whenever an operation is started, answered or woken, it has a turn: it goes on to its end or to the
next stage. There are three kinds of turns. A verification opens its prompt; a signature is sent on
as it comes; and every other turn comes to rest at a stage that fits the state, with an effect on
the state that its cue allows.

Main statements: every turn is one of these (`turn_start`, `turn_answer`, `turn_wake`).
-/

namespace VisitorLink.Operation

open Errand

/-- That an operation has ended, or waits at a stage that it has opened by itself. -/
inductive Rests (operation : Operation) (state : State) : Errand.Paused Outcome → Prop
  | finished (outcome : Outcome) : Rests operation state (.finished outcome)
  | waits {stage : Stage} {paused : Errand.Paused Outcome}
      (waits : operation.WaitsAt stage paused) (opens : stage.OpensIn state) :
      Rests operation state paused

/-- What an operation does in one turn. -/
inductive Turn (operation : Operation) : Cue → Visit → Errand.Paused Outcome × Visit → Prop
  | rest {cue : Cue} {before : Visit} {piece : Errand.Paused Outcome × Visit}
      (effect : State.Effect cue before.state piece.2.state)
      (rests : operation.Rests piece.2.state piece.1) : Turn operation cue before piece
  | prompt {before : Visit} {id address : String} {piece : Errand.Paused Outcome × Visit}
      (current : before.state.isCurrent id address = true)
      (idle : before.state.connection.verifying = false)
      (waits : operation.WaitsAt (.prompting id address) piece.1)
      (starts : piece.2.state = before.state.apply .startVerification) :
      Turn operation .go before piece
  | submit {before : Visit} {id message signature : String} {request : LinkRequest}
      {next : Except ApiError LinkAnswer → Errand Outcome}
      (waits : operation.WaitsAt (.submitting id request.address)
        (.calling (.service (.linkWallet id request)) next)) :
      Turn operation (.answer (.provider (.signMessage message)) (.ok signature)) before
        (.calling (.service (.linkWallet id request)) next,
          before.inquire (.call (.service (.linkWallet id request))))
  | remove {before : Visit} {id address message signature : String} {request : UnlinkRequest}
      {next : Except ApiError Visitor → Errand Outcome}
      (waits : operation.WaitsAt (.removing id address)
        (.calling (.service (.unlinkWallet id address request)) next)) :
      Turn operation (.answer (.provider (.signMessage message)) (.ok signature)) before
        (.calling (.service (.unlinkWallet id address request)) next,
          before.inquire (.call (.service (.unlinkWallet id address request))))

variable {operation : Operation}

/-! ## Quiet turns -/

/-- That an operation comes to rest in a piece of an errand, which changes the state quietly. -/
def RestsQuietly (operation : Operation) (errand : Errand Outcome) (visit : Visit) : Prop :=
  visit.state.Drifts (run errand visit).2.state ∧
    operation.Rests (run errand visit).2.state (run errand visit).1

/-- What comes to rest quietly is a turn, whatever its cue. -/
theorem RestsQuietly.turn {errand : Errand Outcome} {visit : Visit}
    (rests : operation.RestsQuietly errand visit) (cue : Cue) :
    operation.Turn cue visit (run errand visit) :=
  .rest (.quiet rests.1) rests.2

/-- An operation that ends after quiet changes comes to rest quietly. -/
theorem restsQuietly_finished {errand : Errand Outcome} {visit after : Visit} {outcome : Outcome}
    (stops : run errand visit = (.finished outcome, after))
    (drifts : visit.state.Drifts after.state) : operation.RestsQuietly errand visit := by
  rw [RestsQuietly, stops]
  exact ⟨drifts, .finished outcome⟩

/-- So does one that waits at a stage that it has opened. -/
theorem restsQuietly_waits {errand : Errand Outcome} {visit after : Visit} {stage : Stage}
    {paused : Errand.Paused Outcome} (stops : run errand visit = (paused, after))
    (drifts : visit.state.Drifts after.state) (waits : operation.WaitsAt stage paused)
    (opens : stage.OpensIn after.state) : operation.RestsQuietly errand visit := by
  rw [RestsQuietly, stops]
  exact ⟨drifts, .waits waits opens⟩

/-- What ends quietly comes to rest quietly. -/
theorem RestsQuietly.of_endsQuietly {errand : Errand Outcome} {visit : Visit}
    (ends : EndsQuietly errand visit) : operation.RestsQuietly errand visit := by
  obtain ⟨outcome, after, stops, drifts⟩ := ends
  exact restsQuietly_finished stops drifts

/-- What stays aside comes to rest quietly. -/
theorem restsQuietly_aside {errand : Errand Outcome} (aside : StaysAside errand) (visit : Visit) :
    operation.RestsQuietly errand visit := by
  refine ⟨aside.moves visit, ?_⟩
  cases stops : (run errand visit).1 with
  | finished outcome => exact .finished outcome
  | calling call next =>
      obtain ⟨session, onwards⟩ := aside.asks stops
      exact .waits (.track session onwards) trivial
  | sleeping wakeUp next => exact .waits (.sleep (aside.sleeps stops)) trivial

/-- What follows on a quiet ending is another part of the same piece. -/
theorem RestsQuietly.of_bind {α : Type} {errand : Errand α} {visit : Visit}
    (ends : EndsQuietly errand visit) {rest : α → Errand Outcome}
    (rests : ∀ result visit, operation.RestsQuietly (rest result) visit) :
    operation.RestsQuietly (errand >>= rest) visit := by
  obtain ⟨result, middle, stops, drifts⟩ := ends
  rw [RestsQuietly, run_bind_of_finished stops]
  exact ⟨drifts.trans (rests result middle).1, (rests result middle).2⟩

/-! ## Linking -/

/-- Nothing but its outcome is left of an operation after a link request. -/
theorem AfterLink.ends {rest : Except LinkError LinkOutcome → Errand Outcome}
    (after : operation.AfterLink rest) (result : Except LinkError LinkOutcome) :
    ∃ outcome, rest result = pure outcome := by
  cases after <;> exact ⟨_, rfl⟩

/-- The first step of linking may end in any turn that its effect allows. -/
theorem AfterLink.turn {rest : Except LinkError LinkOutcome → Errand Outcome}
    (after : operation.AfterLink rest) {errand : Errand (Except LinkError LinkOutcome)}
    {cue : Cue} {visit later : Visit} {result : Except LinkError LinkOutcome}
    (stops : run errand visit = (.finished result, later))
    (effect : State.Effect cue visit.state later.state) :
    operation.Turn cue visit (run (errand >>= rest) visit) := by
  obtain ⟨outcome, same⟩ := after.ends result
  rw [run_bind_of_finished stops, same]
  exact .rest effect (.finished outcome)

/-- A link request comes to rest quietly: it ends, or it waits for the decision. -/
theorem restsQuietly_link {rest : Except LinkError LinkOutcome → Errand Outcome}
    (after : operation.AfterLink rest) (visit : Visit) :
    operation.RestsQuietly (Errand.link >>= rest) visit := by
  rcases link_stops visit with ⟨result, stops⟩ | ⟨id, address, later, stops, current, same⟩
  · obtain ⟨outcome, ends⟩ := after.ends result
    have finishes : run (Errand.link >>= rest) visit = (.finished outcome, visit) := by
      rw [run_bind_of_finished stops, ends]
      rfl
    exact restsQuietly_finished finishes .refl
  · refine restsQuietly_waits (run_bind_of_calling stops rest) (.of_eq same)
      (.link after id address) ?_
    rw [same]
    exact current

/-- The decision on a link request is a turn. -/
theorem turn_receiveDecision {rest : Except LinkError LinkOutcome → Errand Outcome}
    (after : operation.AfterLink rest) (id address : String)
    (answer : Except ApiError ConnectAnswer) (visit : Visit) :
    operation.Turn (.answer (.service (.connectWallet id address)) answer) visit
      (run (receiveDecision id address answer >>= rest) visit) := by
  cases current : visit.state.isCurrent id address with
  | false => exact after.turn (run_receiveDecision_of_late current answer) (.same rfl)
  | true =>
      have runs := run_receiveDecision current answer
      rw [run_applyDecision] at runs
      cases decided : LinkDecision.ofAnswer answer with
      | loginRequired owner =>
          simp only [decided] at runs
          refine after.turn runs ?_
          rw [Visit.emit_state]
          exact .required current decided
      | linked visitor =>
          simp only [decided] at runs
          exact after.turn runs (.linked current decided)
      | refused reason =>
          simp only [decided] at runs
          refine after.turn runs ?_
          rw [Visit.emit_state]
          exact .quiet (.of_change visit.state (.failLink reason) rfl)

/-! ## Verifying -/

/-- Nothing follows on a verification that has ended because of a late answer. -/
theorem AfterVerify.run_stale {rest : Except LinkError VerifyOutcome → Errand Outcome}
    (after : operation.AfterVerify rest) (visit : Visit) :
    run (rest (.ok .stale)) visit = (.finished (.verify (.ok .stale)), visit) := by
  cases after <;> rfl

/-- At most the session is followed after any other ending of a verification. -/
theorem AfterVerify.tracks {rest : Except LinkError VerifyOutcome → Errand Outcome}
    (after : operation.AfterVerify rest) {result : Except LinkError VerifyOutcome}
    (fresh : result ≠ .ok .stale) :
    Tracks (fun outcome => outcome.isStale = false) (rest result) := by
  have named : (Outcome.verify result).isStale = false := by
    cases result with
    | error error => rfl
    | ok outcome =>
        cases outcome with
        | stale => exact absurd rfl fresh
        | _ => rfl
  cases after with
  | verify => exact tracks_done named
  | verifyAndFollow context =>
      refine (tracks_followSwap context result).bind fun followed same => ?_
      exact tracks_done (same ▸ named)

/-- What follows on a verification leaves the state alone. -/
theorem AfterVerify.rests {rest : Except LinkError VerifyOutcome → Errand Outcome}
    (after : operation.AfterVerify rest) (result : Except LinkError VerifyOutcome)
    (visit : Visit) :
    operation.Rests visit.state (run (rest result) visit).1 ∧
      (run (rest result) visit).2.state = visit.state := by
  rcases Classical.em (result = .ok .stale) with rfl | fresh
  · rw [after.run_stale]
    exact ⟨.finished _, rfl⟩
  · have tracks := after.tracks fresh
    have same := (tracks.moves visit).state
    have rests := (restsQuietly_aside tracks.staysAside visit : operation.RestsQuietly _ _).2
    rw [same] at rests
    exact ⟨rests, same⟩

/-- What ends a verification is a turn, whatever comes after it. -/
theorem AfterVerify.turn {rest : Except LinkError VerifyOutcome → Errand Outcome}
    (after : operation.AfterVerify rest) {errand : Errand (Except LinkError VerifyOutcome)}
    {cue : Cue} {visit later : Visit} {result : Except LinkError VerifyOutcome}
    (stops : run errand visit = (.finished result, later))
    (effect : State.Effect cue visit.state later.state) :
    operation.Turn cue visit (run (errand >>= rest) visit) := by
  obtain ⟨rests, same⟩ := after.rests result later
  rw [run_bind_of_finished stops]
  refine .rest ?_ ?_
  · rw [same]
    exact effect
  · rw [same]
    exact rests

/-- Verifying starts with a turn: it is refused, or it opens the prompt. -/
theorem turn_verify {rest : Except LinkError VerifyOutcome → Errand Outcome}
    (after : operation.AfterVerify rest) (visit : Visit) :
    operation.Turn .go visit (run (Errand.verify >>= rest) visit) := by
  rcases verify_stops visit with ⟨result, later, stops, drifts⟩ |
    ⟨id, address, message, time, later, stops, current, idle, starts⟩
  · exact after.turn stops (.quiet drifts)
  · rw [run_bind_of_calling stops]
    exact .prompt current idle (.prompt after id address message time) starts

/-- The answer of the prompt is a turn: a signature is submitted, and a refusal settled. -/
theorem turn_receiveSignature {rest : Except LinkError VerifyOutcome → Errand Outcome}
    (after : operation.AfterVerify rest) (id address message : String) (time : Int64)
    (answer : Except String String) (visit : Visit) :
    operation.Turn (.answer (.provider (.signMessage message)) answer) visit
      (run (receiveSignature id address message time answer >>= rest) visit) := by
  cases answer with
  | ok signature =>
      rw [run_bind_of_calling (run_receiveSignature_ok id address message signature time visit)]
      exact .submit (.submit after id ⟨address, message, signature, time⟩)
  | error reason =>
      cases current : visit.state.isCurrent id address with
      | false =>
          exact after.turn (run_receiveSignature_of_late current message time reason) (.same rfl)
      | true =>
          have runs := run_receiveSignature_error current message time reason
          rw [run_failVerification] at runs
          refine after.turn runs ?_
          rw [Visit.emit_state]
          exact .quiet (.of_change visit.state (.failVerification _) rfl)

/-- The answer to a signature is a turn. -/
theorem turn_receiveProof {rest : Except LinkError VerifyOutcome → Errand Outcome}
    (after : operation.AfterVerify rest) (id : String) (request : LinkRequest)
    (answer : Except ApiError LinkAnswer) (visit : Visit) :
    operation.Turn (.answer (.service (.linkWallet id request)) answer) visit
      (run (receiveProof id request.address answer >>= rest) visit) := by
  cases current : visit.state.isCurrent id request.address with
  | false => exact after.turn (run_receiveProof_of_late current answer) (.same rfl)
  | true =>
      cases answer with
      | error error =>
          have runs := run_receiveProof_error current error
          rw [run_failVerification] at runs
          refine after.turn runs ?_
          rw [Visit.emit_state]
          exact .quiet (.of_change visit.state (.failVerification _) rfl)
      | ok answer =>
          obtain ⟨outcome, later, stops, _, proved⟩ := run_applyProof id answer visit
          refine after.turn ((run_receiveProof_ok current answer).trans stops) ?_
          rw [proved]
          exact .proved current

/-! ## Connecting and opening -/

/-- The answer to a request for accounts is read quietly. -/
theorem receiveAccounts_endsQuietly (answer : AccountsAnswer) (visit : Visit) :
    EndsQuietly (receiveAccounts answer) visit := by
  rw [EndsQuietly, run_receiveAccounts]
  exact ⟨_, visit, rfl, .refl⟩

/-- A connection is settled quietly. -/
theorem finishConnecting_endsQuietly (outcome : Except ConnectionError String) (visit : Visit) :
    EndsQuietly (finishConnecting outcome) visit := by
  rw [EndsQuietly, run_finishConnecting]
  cases outcome with
  | ok address => exact ⟨_, _, rfl, .of_change visit.state (.connect address) rfl⟩
  | error error =>
      refine ⟨_, _, rfl, ?_⟩
      dsimp only
      rw [Visit.emit_state]
      exact .of_change visit.state (.failConnection error.message) rfl

/-- Connecting ends at once, or it asks the provider for accounts. -/
theorem connect_stops (visit : Visit) :
    EndsQuietly Errand.connect visit ∨
      ∃ after, run Errand.connect visit =
          (.calling (.provider .requestAccounts) fun answer =>
            receiveAccounts answer >>= finishConnecting, after) ∧
        visit.state.Drifts after.state := by
  rw [EndsQuietly, run_connect]
  split
  · exact .inl ⟨_, visit, rfl, .refl⟩
  · split
    · split
      · exact .inl (finishConnecting_endsQuietly _ _)
      · exact .inr ⟨_, rfl, .of_change visit.state .request rfl⟩
    · exact .inl (finishConnecting_endsQuietly _ _)

/-- A link request after a connection comes to rest quietly. -/
theorem restsQuietly_linkConnected (outcome : Except ConnectionError String) (visit : Visit) :
    RestsQuietly .connectWallet (.link <$> linkConnected outcome) visit := by
  cases outcome with
  | error error => exact restsQuietly_finished rfl .refl
  | ok address => exact restsQuietly_link .connectWallet visit

/-- Picking up a wallet comes to rest quietly. -/
theorem restsQuietly_pickUpWallet (result : Except AppError Visitor) (visit : Visit) :
    RestsQuietly .bootstrap (.visitor <$> pickUpWallet result) visit := by
  cases result with
  | error error => exact restsQuietly_finished rfl .refl
  | ok visitor =>
      -- Looking for the provider and for its address belongs to the piece that goes on to the link.
      unfold pickUpWallet
      simp only [map_bind]
      refine .of_bind (detect_endsQuietly visit) fun _ visit => ?_
      refine .of_bind (checkShown_finishes visit) fun shown visit => ?_
      split
      · rw [map_bind]
        exact restsQuietly_link (.bootstrap visitor) visit
      · exact restsQuietly_finished rfl .refl

/-! ## The account -/

/-- What is asked on behalf of the visitor is asked if there is one. -/
theorem restsQuietly_asVisitor {errand : Errand (Except LinkError Unit)} {visit : Visit}
    {call : String → Call}
    {next : (id : String) → (call id).Answer → Errand (Except LinkError Unit)}
    {rest : Except LinkError Unit → Errand Outcome}
    (runs : run errand visit =
      match visit.state.visitorId? with
      | none => (.finished (.error .noIdentity), visit)
      | some id => (.calling (call id) (next id), visit.inquire (.call (call id))))
    (waits : ∀ id, operation.WaitsAt .inquiring
      (.calling (call id) fun answer => next id answer >>= rest))
    (rests : ∀ result visit, operation.RestsQuietly (rest result) visit) :
    operation.RestsQuietly (errand >>= rest) visit := by
  cases loaded : visit.state.visitorId? with
  | none =>
      simp only [loaded] at runs
      exact .of_bind ⟨_, visit, runs, .refl⟩ rests
  | some id =>
      simp only [loaded] at runs
      exact restsQuietly_waits (run_bind_of_calling runs rest) .refl (waits id) trivial

/-- The outcome of an update is at rest. -/
theorem restsQuietly_account (result : Except LinkError Unit) (visit : Visit) :
    operation.RestsQuietly (pure (.account result)) visit :=
  restsQuietly_finished rfl .refl

/-- What follows a log-out comes to rest quietly. -/
theorem restsQuietly_followLogOut (result : Except LinkError Unit) (visit : Visit) :
    operation.RestsQuietly (.account <$> followLogOut result) visit := by
  obtain ⟨after, stops, same⟩ := run_followLogOut result visit
  exact restsQuietly_finished (run_bind_of_finished stops _) (.of_eq same)

/-- The answer to a log-in is a turn, in time or late. -/
theorem turn_receiveLogIn (id : String) (answer : Except ApiError Visitor) (visit : Visit) :
    Turn .logIn (.answer (.service (.logIn id)) answer) visit
      (run (.account <$> receiveLogIn id answer) visit) := by
  cases answer with
  | error error =>
      refine (restsQuietly_finished (run_bind_of_finished (run_receiveLogIn_error id error visit) _)
        (.of_eq ?_)).turn _
      rw [Visit.emit_state]
  | ok visitor =>
      rw [map_eq_bind, run_bind_of_finished (run_receiveLogIn_ok id visitor visit)]
      refine .rest ?_ (.finished _)
      change State.Effect _ _
        (if visit.state.visitorId? = some id then visit.apply (.logIn visitor) else visit).state
      split
      case isTrue current => exact .loggedIn current
      case isFalse => exact .same rfl

/-- What follows on a log-out without waiting. -/
theorem turn_receiveLogOut {rest : Except LinkError Unit → Errand Outcome}
    (ends : ∀ result visit, ∃ outcome after, run (rest result) visit = (.finished outcome, after) ∧
      after.state = visit.state)
    (id : String) (answer : Except ApiError Visitor) (visit : Visit) :
    operation.Turn (.answer (.service (.logOut id)) answer) visit
      (run (receiveLogOut id answer >>= rest) visit) := by
  have closes {cue : Cue} (result : Except LinkError Unit) (middle : Visit)
      (effect : State.Effect cue visit.state middle.state) :
      operation.Turn cue visit (run (rest result) middle) := by
    obtain ⟨outcome, after, stops, same⟩ := ends result middle
    rw [← same] at effect
    rw [stops]
    exact .rest effect (.finished outcome)
  cases answer with
  | error error =>
      rw [run_bind_of_finished (run_receiveLogOut_error id error visit)]
      exact closes _ _ (.same (Visit.emit_state _ _))
  | ok visitor =>
      rw [run_bind_of_finished (run_receiveLogOut_ok id visitor visit)]
      refine closes _ _ ?_
      change State.Effect _ _ ((if visit.state.visitorId? = some id then
        visit.apply (.logOut visitor) else visit).apply .disconnect).state
      split
      case isTrue current => exact .loggedOut current
      case isFalse => exact .quiet (.of_change visit.state .disconnect rfl)

/-- The answer of the prompt to remove a wallet is a turn: a signature is submitted. -/
theorem turn_receiveUnlinkSignature (id address message : String)
    (answer : Except String String) (visit : Visit) :
    Turn (.unlink address) (.answer (.provider (.signMessage message)) answer) visit
      (run (.account <$> receiveUnlinkSignature id address message answer) visit) := by
  cases answer with
  | error reason =>
      have ends := failUpdate_endsQuietly ("Signature request failed: " ++ reason) visit
      exact (RestsQuietly.of_endsQuietly (ends.map Outcome.account)).turn _
  | ok signature =>
      have sends := run_receiveUnlinkSignature_ok id address message signature visit
      rw [map_eq_bind, run_bind_of_calling sends]
      exact .remove (.remove id address ⟨message, signature⟩)

/-! ## All turns -/

/-- An operation that only tracks pages makes turns without an effect. -/
theorem turn_tracking {α : Type} {errand : Errand α} (tracks : Tracks (fun _ => True) errand)
    {rename : α → Outcome} (fresh : ∀ result, (rename result).isStale = false) (visit : Visit) :
    operation.Turn .go visit (run (rename <$> errand) visit) := by
  have renamed : Tracks (fun outcome => outcome.isStale = false) (rename <$> errand) :=
    tracks.bind fun result _ => tracks_done (fresh result)
  exact (restsQuietly_aside renamed.staysAside visit).turn _

/-- An operation that is started has a turn. -/
theorem turn_start (operation : Operation) (visit : Visit) :
    operation.Turn .go visit (run operation.errand visit) := by
  cases operation with
  | identify =>
      refine RestsQuietly.turn ?_ _
      rcases run_identify visit with ⟨result, after, stops, same⟩ | ⟨id, after, stops, same⟩
      · exact restsQuietly_finished (run_bind_of_finished stops _) (.of_eq same)
      · exact restsQuietly_waits (run_bind_of_calling stops _) (.of_eq same) (.identify id) trivial
  | bootstrap =>
      refine RestsQuietly.turn ?_ _
      rw [errand_bootstrap]
      rcases run_identify visit with ⟨result, after, stops, same⟩ | ⟨id, after, stops, same⟩
      · have rests := restsQuietly_pickUpWallet result after
        rw [RestsQuietly, same] at rests
        rw [RestsQuietly, run_bind_of_finished stops]
        exact rests
      · exact restsQuietly_waits (run_bind_of_calling stops _) (.of_eq same) (.bootstrap id) trivial
  | connect =>
      refine RestsQuietly.turn ?_ _
      rcases connect_stops visit with ends | ⟨after, stops, drifts⟩
      · exact .of_endsQuietly (ends.map Outcome.address)
      · exact restsQuietly_waits (run_bind_of_calling stops _) drifts .connect trivial
  | checkShown => exact (RestsQuietly.of_endsQuietly
      (EndsQuietly.map (checkShown_finishes visit) Outcome.shown)).turn _
  | connectWallet =>
      refine RestsQuietly.turn ?_ _
      rw [errand_connectWallet]
      rcases connect_stops visit with ends | ⟨after, stops, drifts⟩
      · exact .of_bind ends restsQuietly_linkConnected
      · exact restsQuietly_waits (run_bind_of_calling stops _) drifts .connectWallet trivial
  | dropConnection => exact (RestsQuietly.of_endsQuietly
      ((endsQuietly_apply rfl visit).map fun _ => Outcome.nothing)).turn _
  | link => exact (restsQuietly_link .link visit).turn _
  | verify => exact turn_verify .verify visit
  | verifyAndFollow context =>
      rw [errand_verifyAndFollow]
      exact turn_verify (.verifyAndFollow context) visit
  | cancelLogin => exact (RestsQuietly.of_endsQuietly
      ((cancelLogin_endsQuietly visit).map fun _ => Outcome.nothing)).turn _
  | disconnect => exact (RestsQuietly.of_endsQuietly
      ((disconnect_endsQuietly visit).map fun _ => Outcome.nothing)).turn _
  | unlink address =>
      refine RestsQuietly.turn ?_ _
      have runs := run_unlink address visit
      cases loaded : visit.state.visitorId? with
      | none =>
          simp only [loaded] at runs
          exact restsQuietly_finished (run_bind_of_finished runs _) .refl
      | some id =>
          simp only [loaded] at runs
          split at runs
          · have waits := WaitsAt.unlink id address (challenge .unlink address visit.outside.time)
            exact restsQuietly_waits (run_bind_of_calling runs _) .refl waits loaded
          · exact restsQuietly_finished (run_bind_of_finished runs _) .refl
  | setPrimary address =>
      exact (restsQuietly_asVisitor (run_setPrimary address visit)
        (fun id => .setPrimary id address) restsQuietly_account).turn _
  | logIn =>
      exact (restsQuietly_asVisitor (run_logIn visit) .logIn restsQuietly_account).turn _
  | logOut =>
      exact (restsQuietly_asVisitor (run_logOut visit) .logOut restsQuietly_account).turn _
  | leave =>
      rw [errand_leave]
      exact (restsQuietly_asVisitor (run_logOut visit) .leave restsQuietly_followLogOut).turn _
  | detect => exact (RestsQuietly.of_endsQuietly
      ((detect_endsQuietly visit).map Outcome.flag)).turn _
  | poll attempts interval =>
      have polls : Polls (fun outcome => outcome.isStale = false)
          (Outcome.poll <$> Errand.poll attempts interval) :=
        (polls_poll attempts interval).bind fun _ _ => polls_done rfl
      exact (restsQuietly_aside polls.staysAside visit).turn _
  | startSession context =>
      exact turn_tracking (tracks_startSession context) (fun _ => rfl) visit
  | startTracking id context =>
      exact turn_tracking (tracks_startTracking id context) (fun _ => rfl) visit
  | recordPage path => exact turn_tracking (tracks_recordPage path) (fun _ => rfl) visit
  | sendHeartbeat => exact turn_tracking tracks_sendHeartbeat (fun _ => rfl) visit
  | hidePage => exact turn_tracking tracks_hidePage (fun _ => rfl) visit
  | stopHeartbeat => exact turn_tracking tracks_stopHeartbeat (fun _ => rfl) visit
  | endTracking => exact turn_tracking tracks_endTracking (fun _ => rfl) visit
  | shutDown => exact turn_tracking tracks_endTracking (fun _ => rfl) visit

/-- An operation that is answered has a turn. -/
theorem turn_answer {stage : Stage} {call : Call} {next : call.Answer → Errand Outcome}
    (waits : operation.WaitsAt stage (.calling call next)) (answer : call.Answer) (visit : Visit) :
    operation.Turn (.answer call answer) visit (run (next answer) visit) := by
  cases waits with
  | identify id =>
      have ends := (receiveVisitor_endsQuietly id answer visit).map Outcome.visitor
      exact (RestsQuietly.of_endsQuietly ends).turn _
  | bootstrap id =>
      exact (RestsQuietly.of_bind (receiveVisitor_endsQuietly id answer visit)
        restsQuietly_pickUpWallet).turn _
  | connect =>
      have ends := (receiveAccounts_endsQuietly answer visit).bind finishConnecting_endsQuietly
      exact (RestsQuietly.of_endsQuietly (ends.map Outcome.address)).turn _
  | connectWallet =>
      have ends := (receiveAccounts_endsQuietly answer visit).bind finishConnecting_endsQuietly
      exact (RestsQuietly.of_bind ends restsQuietly_linkConnected).turn _
  | setPrimary id address =>
      have ends := (receivePrimary_endsQuietly id answer visit).map Outcome.account
      exact (RestsQuietly.of_endsQuietly ends).turn _
  | logIn id => exact turn_receiveLogIn id answer visit
  | logOut id =>
      exact turn_receiveLogOut (fun result visit => ⟨_, visit, rfl, rfl⟩) id answer visit
  | leave id =>
      refine turn_receiveLogOut (fun result visit => ?_) id answer visit
      obtain ⟨after, stops, same⟩ := run_followLogOut result visit
      exact ⟨_, after, run_bind_of_finished stops _, same⟩
  | track session aside => exact (restsQuietly_aside (aside answer) visit).turn _
  | link after id address => exact turn_receiveDecision after id address answer visit
  | prompt after id address message time =>
      exact turn_receiveSignature after id address message time answer visit
  | submit after id request => exact turn_receiveProof after id request answer visit
  | unlink id address message =>
      exact turn_receiveUnlinkSignature id address message answer visit
  | remove id address request =>
      have ends := (receiveUnlinked_endsQuietly id address answer visit).map Outcome.account
      exact (RestsQuietly.of_endsQuietly ends).turn _

/-- An operation that is woken has a turn. -/
theorem turn_wake {stage : Stage} {wakeUp : Nat} {next : Errand Outcome}
    (waits : operation.WaitsAt stage (.sleeping wakeUp next)) (visit : Visit) :
    operation.Turn .go visit (run next visit) := by
  cases waits with
  | sleep aside => exact (restsQuietly_aside aside visit).turn _

end VisitorLink.Operation
