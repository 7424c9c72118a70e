import VisitorLink.Proofs.Conduct.Law

/-!
# Conduct about the wallet

The pieces of the two steps of linking a wallet and of connecting to the provider observe the law of
conduct, whatever the operation is that they belong to.
-/

namespace VisitorLink

open Errand

/-- That a visit came from another in the course of connecting to the provider. -/
structure Visit.Dials (before after : Visit) : Prop where
  state : ∃ status error, after.state =
    { before.state with connection.status := status, connection.error := error }
  attempted : after.attempted = before.attempted
  storage : after.storage = before.storage
  tracker : after.tracker = before.tracker

theorem Visit.Dials.refl (visit : Visit) : visit.Dials visit where
  state := ⟨visit.state.connection.status, visit.state.connection.error, rfl⟩
  attempted := rfl
  storage := rfl
  tracker := rfl

/-- Connecting leaves the visitor and the address where they are until it succeeds. -/
theorem Visit.Dials.stays {before after : Visit} (dials : before.Dials after) :
    before.state.Stays after.state := by
  obtain ⟨status, error, state⟩ := dials.state
  rw [state]
  exact ⟨rfl, rfl, rfl⟩

namespace Operation

variable {operation : Operation} {cue : Cue} {first visit : Visit}

/-! ## Linking -/

section Linking

variable {rest : Except LinkError LinkOutcome → Errand Outcome}

/-- An operation that links forgets no address when it starts. -/
theorem AfterLink.remembers (after : operation.AfterLink rest) (visit : Visit) (address : String) :
    ¬ visit.Forgets address operation .go := by
  cases after <;> exact nofun

/-- A link request that ended well, other than as a repeated one, ends the operation calmly. -/
theorem AfterLink.observes_ok (after : operation.AfterLink rest)
    (settles : operation.Settles cue first visit) {outcome : LinkOutcome}
    (other : outcome ≠ .attempted) :
    ObservesFrom operation.Conduct cue first (rest (.ok outcome)) visit := by
  have named : isCalm (.finished (.link (.ok outcome))) = true := by
    cases outcome with
    | attempted => exact absurd rfl other
    | _ => rfl
  cases after with
  | bootstrap visitor => exact settles.calm rfl
  | _ => exact settles.calm named

/-- An operation that ends because the address was tried before has the address among those tried.
-/
theorem AfterLink.observes_attempted (after : operation.AfterLink rest)
    (midway : operation.Midway cue first visit) {id address : String}
    (lacks : visit.state.Lacks id address) (tried : address ∈ visit.attempted) :
    ObservesFrom operation.Conduct cue first (rest (.ok .attempted)) visit := by
  have repeated : operation.Conduct cue first (.finished (.link (.ok .attempted)), visit) :=
    { attempts := .repeated midway.remembers midway.attempted lacks (midway.attempted ▸ tried)
      steady := midway.steady
      failure := by
        rintro _ ⟨⟩ failing
        cases failing
      woken := nofun }
  cases after with
  | bootstrap visitor => exact midway.settles.calm rfl
  | _ => exact repeated

/-- A refusal in time takes the address back. -/
theorem AfterLink.observes_refused (after : operation.AfterLink rest) {id address reason : String}
    {answer : Except ApiError ConnectAnswer} (current : visit.state.isCurrent id address = true)
    (refused : LinkDecision.ofAnswer answer = .refused reason) :
    ObservesFrom operation.Conduct (.answer (.service (.connectWallet id address)) answer) visit
      (applyDecision address (.refused reason) >>= rest) visit := by
  unfold applyDecision
  rw [bind_assoc, observesFrom_modify_bind, bind_assoc, observesFrom_apply_bind, bind_assoc,
    observesFrom_notify_bind, observesFrom_pure_bind]
  let forgetful : Visit := { visit with attempted := visit.attempted.filter (· != address) }
  let told : Visit := (forgetful.apply (.failLink reason)).emit
    (.notice .error ("Failed to connect wallet: " ++ reason))
  have attempted : told.attempted = visit.attempted.filter (· != address) :=
    Visit.emit_attempted _ _
  have state : told.state = { visit.state with connection.linkError := some reason } :=
    Visit.emit_state _ _
  have settles : operation.Settles (.answer (.service (.connectWallet id address)) answer) visit
      told := by
    constructor
    · intro other
      rw [attempted, List.mem_filter, Visit.forgets_refuse_iff]
      simp [current, refused]
    · intro _
      rw [state]
      exact State.steady_of_verifying rfl
  have failure (links : operation = .link ∨ operation = .connectWallet) :
      operation.Failure (.answer (.service (.connectWallet id address)) answer) visit told :=
    ⟨.linking links current refused state attempted, Visit.emit_storage _ _,
      Visit.emit_tracker _ _⟩
  cases after with
  | link => exact settles.fails rfl (failure (.inl rfl))
  | connectWallet => exact settles.fails rfl (failure (.inr rfl))
  | bootstrap visitor => exact settles.calm rfl

/-- What answers to the request to link an address do. -/
theorem AfterLink.observes_receiveDecision (after : operation.AfterLink rest)
    (id address : String) (answer : Except ApiError ConnectAnswer) (visit : Visit) :
    ObservesFrom operation.Conduct (.answer (.service (.connectWallet id address)) answer) visit
      (receiveDecision id address answer >>= rest) visit := by
  unfold receiveDecision
  rw [bind_assoc, observesFrom_isCurrent_bind]
  cases current : visit.state.isCurrent id address with
  | false =>
      have remembers (other : String) : ¬ visit.Forgets other operation
          (.answer (.service (.connectWallet id address)) answer) := by
        rw [Visit.forgets_refuse_iff, current]
        simp
      exact after.observes_ok (Midway.start remembers).settles nofun
  | true =>
      simp only [Bool.not_true, Bool.false_eq_true, ↓reduceIte]
      have midway (accepted : ∀ reason, LinkDecision.ofAnswer answer ≠ .refused reason) :
          operation.Midway (.answer (.service (.connectWallet id address)) answer) visit visit := by
        refine .start fun other => ?_
        rw [Visit.forgets_refuse_iff]
        rintro ⟨_, _, reason, refused⟩
        exact accepted reason refused
      cases decided : LinkDecision.ofAnswer answer with
      | loginRequired owner =>
          have start := midway fun reason refused => nomatch decided.symm.trans refused
          unfold applyDecision
          rw [bind_assoc, observesFrom_apply_bind, bind_assoc, observesFrom_emit_bind,
            observesFrom_pure_bind]
          refine after.observes_ok (Midway.settles ?_) nofun
          refine start.stays _ (Visit.emit_attempted _ _) ?_
          rw [Visit.emit_state]
          exact ⟨rfl, rfl, rfl⟩
      | linked visitor =>
          have start := midway fun reason refused => nomatch decided.symm.trans refused
          unfold applyDecision
          rw [bind_assoc, observesFrom_apply_bind, observesFrom_pure_bind]
          have linked : operation.Midway _ visit (visit.apply (.link visitor)) :=
            ⟨start.remembers, rfl, fun _ => State.steady_of_verifying rfl⟩
          exact after.observes_ok linked.settles nofun
      | refused reason => exact after.observes_refused current decided

/-- A link request observes the law, whatever comes after it. -/
theorem AfterLink.observes_link (after : operation.AfterLink rest)
    (midway : operation.Midway cue first visit) :
    ObservesFrom operation.Conduct cue first (Errand.link >>= rest) visit := by
  unfold Errand.link
  rw [bind_assoc, observesFrom_visit_bind]
  split
  case h_2 => exact after.observes_ok midway.settles nofun
  case h_1 visitor address loaded connected =>
    split
    case h_1 wallet known => exact after.observes_ok midway.settles nofun
    case h_2 unknown =>
      have current := State.isCurrent_iff.2 ⟨congrArg (Option.map Visitor.id) loaded, connected⟩
      split
      case isTrue tried =>
        refine after.observes_attempted midway ⟨current, fun other same => ?_⟩ tried
        cases loaded.symm.trans same
        exact unknown
      case isFalse untried =>
        rw [bind_assoc, observesFrom_modify_bind]
        unfold requestLink
        rw [bind_assoc, observesFrom_askService_bind]
        have kept := midway.attempted
        refine ⟨?_, fun answer later => after.observes_receiveDecision _ _ answer later⟩
        exact
          { attempts := .asks midway.remembers (kept ▸ untried) (congrArg (address :: ·) kept)
            steady := midway.steady
            failure := fun _ ends _ => nomatch ends
            woken := fun _ _ sleeps => nomatch sleeps }

end Linking

/-! ## Connecting -/

/-- What is left of an operation after connecting to the provider. -/
inductive AfterConnect : Operation → (Except ConnectionError String → Errand Outcome) → Prop
  | connect : AfterConnect .connect fun result => pure (.address result)
  | connectWallet : AfterConnect .connectWallet fun result => .link <$> linkConnected result

section Connecting

variable {rest : Except ConnectionError String → Errand Outcome}

/-- An operation that connects forgets no address when it starts. -/
theorem AfterConnect.remembers (after : operation.AfterConnect rest) (visit : Visit)
    (address : String) : ¬ visit.Forgets address operation .go := by
  cases after <;> exact nofun

/-- A failed connection ends the operation with a failure that the law names. -/
theorem AfterConnect.observes_error (after : operation.AfterConnect rest)
    (remembers : ∀ address, ¬ first.Forgets address operation cue) (dials : first.Dials visit)
    (error : ConnectionError) :
    ObservesFrom operation.Conduct cue first (rest (.error error)) visit := by
  have settles : operation.Settles cue first visit :=
    Midway.settles ⟨remembers, dials.attempted, fun _ => dials.stays.steady⟩
  obtain ⟨status, reason, state⟩ := dials.state
  have failure (connects : operation = .connect ∨ operation = .connectWallet) :
      operation.Failure cue first visit :=
    ⟨.connecting connects status reason state dials.attempted, dials.storage, dials.tracker⟩
  cases after with
  | connect => exact settles.fails rfl (failure (.inl rfl))
  | connectWallet => exact settles.fails rfl (failure (.inr rfl))

/-- After a connection, the operation ends or goes on to the link request. -/
theorem AfterConnect.observes_ok (after : operation.AfterConnect rest)
    (midway : operation.Midway cue first visit) (address : String) :
    ObservesFrom operation.Conduct cue first (rest (.ok address)) visit := by
  cases after with
  | connect => exact midway.settles.calm rfl
  | connectWallet => exact AfterLink.connectWallet.observes_link midway

/-- The end of connecting observes the law, whatever the outcome. -/
theorem AfterConnect.observes_finishConnecting (after : operation.AfterConnect rest)
    (remembers : ∀ address, ¬ first.Forgets address operation cue) (dials : first.Dials visit)
    (outcome : Except ConnectionError String) :
    ObservesFrom operation.Conduct cue first (finishConnecting outcome >>= rest) visit := by
  unfold finishConnecting
  cases outcome with
  | ok address =>
      have midway : operation.Midway cue first visit :=
        ⟨remembers, dials.attempted, fun _ => dials.stays.steady⟩
      have connected := (midway.connect dials.stays.address address).stays
        { visit.apply (.connect address) with connecting := false } rfl (.refl _)
      exact after.observes_ok connected address
  | error error =>
      refine after.observes_error remembers ?_ error
      obtain ⟨status, reason, state⟩ := dials.state
      constructor
      case state =>
        refine ⟨.error, some error.message, ?_⟩
        dsimp only
        rw [Visit.emit_state, Visit.apply_state, state]
        rfl
      case attempted => exact (Visit.emit_attempted _ _).trans dials.attempted
      case storage => exact (Visit.emit_storage _ _).trans dials.storage
      case tracker => exact (Visit.emit_tracker _ _).trans dials.tracker

/-- The answer to a request for accounts settles the connection. -/
theorem AfterConnect.observes_receiveAccounts (after : operation.AfterConnect rest)
    (answer : AccountsAnswer) (visit : Visit) :
    ObservesFrom operation.Conduct (.answer (.provider .requestAccounts) answer) visit
      (receiveAccounts answer >>= fun outcome => finishConnecting outcome >>= rest) visit := by
  have remembers (address : String) : ¬ visit.Forgets address operation
    (.answer (.provider .requestAccounts) answer) := nofun
  have finish := after.observes_finishConnecting remembers (.refl visit)
  unfold receiveAccounts
  split
  · exact finish _
  · rw [bind_assoc, observesFrom_visit_bind]
    split <;> exact finish _

/-- Connecting observes the law, whatever comes after it. -/
theorem AfterConnect.observes_connect (after : operation.AfterConnect rest) (visit : Visit) :
    ObservesFrom operation.Conduct .go visit (Errand.connect >>= rest) visit := by
  have remembers := after.remembers visit
  unfold Errand.connect
  rw [bind_assoc, observesFrom_visit_bind]
  split
  · exact after.observes_error remembers (.refl visit) .inProgress
  · rw [bind_assoc, observesFrom_modify_bind]
    unfold requestAddress
    rw [bind_assoc, bind_assoc, observesFrom_lookForProvider_bind]
    have dials : visit.Dials ({ visit with connecting := true }.inquire .detect) :=
      ⟨⟨_, _, rfl⟩, rfl, rfl, rfl⟩
    split
    · exact after.observes_finishConnecting remembers dials (.error .providerNotDetected)
    · rw [bind_assoc, observesFrom_visit_bind]
      split
      case h_1 address shown => exact after.observes_finishConnecting remembers dials (.ok address)
      case h_2 shown =>
        have requests := (Midway.start remembers).stays
          (({ visit with connecting := true }.inquire .detect).apply .request) rfl ⟨rfl, rfl, rfl⟩
        exact ⟨(requests.inquires _).settles.calm rfl, fun answer later =>
          after.observes_receiveAccounts answer later⟩

end Connecting

/-! ## Verifying -/

section Verifying

variable {rest : Except LinkError VerifyOutcome → Errand Outcome}

/-- An operation that verifies forgets no address when it starts. -/
theorem AfterVerify.remembers (after : operation.AfterVerify rest) (visit : Visit)
    (address : String) : ¬ visit.Forgets address operation .go := by
  cases after <;> exact nofun

/-- Such an operation is about a proof exactly where the cue is. -/
theorem AfterVerify.isProof_eq (after : operation.AfterVerify rest) (cue : Cue) :
    operation.isProof cue = cue.isProof := by
  cases after <;> rfl

/-- After verifying, an operation only tracks pages and ends with the result. -/
theorem AfterVerify.tracks_result (after : operation.AfterVerify rest)
    (result : Except LinkError VerifyOutcome) :
    Tracks (fun outcome => outcome = .verify result) (rest result) := by
  cases after with
  | verify => exact tracks_done rfl
  | verifyAndFollow context =>
      refine (tracks_followSwap context result).bind fun followed same => ?_
      exact tracks_done (congrArg Outcome.verify same)

/-- A verification that ended well ends the operation calmly. -/
theorem AfterVerify.observes_ok (after : operation.AfterVerify rest)
    (settles : operation.Settles cue first visit) (outcome : VerifyOutcome) :
    ObservesFrom operation.Conduct cue first (rest (.ok outcome)) visit := by
  refine settles.tracks after.remembers (after.tracks_result (.ok outcome)) ?_
  rintro _ rfl
  rfl

/-- A failed verification leaves all but the flag and the message as they were. -/
theorem AfterVerify.observes_error (after : operation.AfterVerify rest)
    (settles : operation.Settles cue first visit) (underWay : Bool) (reason : Option String)
    (state : visit.state =
      { first.state with connection.verifying := underWay, connection.linkError := reason })
    (attempted : visit.attempted = first.attempted) (storage : visit.storage = first.storage)
    (tracker : visit.tracker = first.tracker) (error : LinkError) :
    ObservesFrom operation.Conduct cue first (rest (.error error)) visit := by
  have failure (verifies : operation = .verify ∨ ∃ context, operation = .verifyAndFollow context) :
      operation.Failure cue first visit :=
    ⟨.verifying verifies underWay reason state attempted, storage, tracker⟩
  cases after with
  | verify => exact settles.fails rfl (failure (.inl rfl))
  | verifyAndFollow context => exact settles.fails rfl (failure (.inr ⟨context, rfl⟩))

/-- A failure that does not concern a verification under way. -/
theorem AfterVerify.observes_refused (after : operation.AfterVerify rest)
    (midway : operation.Midway cue visit visit) (error : LinkError) :
    ObservesFrom operation.Conduct cue visit (rest (.error error)) visit :=
  after.observes_error midway.settles visit.state.connection.verifying
    visit.state.connection.linkError rfl rfl rfl rfl error

/-- A failure that ends the verification under way, if there is one. -/
theorem AfterVerify.observes_failed (after : operation.AfterVerify rest)
    (remembers : ∀ address, ¬ visit.Forgets address operation cue)
    (idle : operation.isProof cue = false → visit.state.connection.verifying = false)
    (reason notice : String) (error : LinkError) :
    ObservesFrom operation.Conduct cue visit (rest (.error error))
      ((visit.apply (.failVerification reason)).emit (.notice .error notice)) := by
  let told : Visit := (visit.apply (.failVerification reason)).emit (.notice .error notice)
  have attempted : told.attempted = visit.attempted := Visit.emit_attempted _ _
  have midway : operation.Midway cue visit told := by
    refine ⟨remembers, attempted, fun proof _ _ _ _ underWay => ?_⟩
    cases (idle proof).symm.trans underWay
  exact after.observes_error midway.settles false (some reason) (Visit.emit_state _ _) attempted
    (Visit.emit_storage _ _) (Visit.emit_tracker _ _) error

/-- A verification that fails on an answer is over when its piece ends. -/
theorem AfterVerify.observes_failVerification (after : operation.AfterVerify rest)
    (remembers : ∀ address, ¬ visit.Forgets address operation cue)
    (proof : operation.isProof cue = true)
    (reason : String) :
    ObservesFrom operation.Conduct cue visit (failVerification reason >>= rest) visit := by
  unfold failVerification
  rw [bind_assoc, observesFrom_apply_bind, bind_assoc, observesFrom_notify_bind,
    observesFrom_pure_bind]
  exact after.observes_failed remembers (fun other => nomatch proof.symm.trans other) _ _ _

/-- An accepted signature may swap the visitor, and only then are addresses forgotten. -/
theorem AfterVerify.observes_applyProof (after : operation.AfterVerify rest) {id : String}
    {request : LinkRequest} {answer : LinkAnswer}
    (current : visit.state.isCurrent id request.address = true) :
    ObservesFrom operation.Conduct (.answer (.service (.linkWallet id request)) (.ok answer)) visit
      (applyProof id answer >>= rest) visit := by
  have forgets (address : String) : visit.Forgets address operation
      (.answer (.service (.linkWallet id request)) (.ok answer)) ↔ answer.swaps id = true := by
    refine (Visit.forgets_swap_iff (.ok answer)).trans ?_
    simp [current]
  have settles {later : Visit} (mem : ∀ address, address ∈ later.attempted ↔
      address ∈ visit.attempted ∧ answer.swaps id = false) :
      operation.Settles (.answer (.service (.linkWallet id request)) (.ok answer)) visit later := by
    refine ⟨fun address => ?_, fun other => ?_⟩
    · rw [mem, forgets, Bool.not_eq_true]
    · rw [after.isProof_eq] at other
      cases other
  unfold applyProof
  dsimp only
  rw [LinkAnswer.not_swaps_eq, bind_assoc, observesFrom_apply_bind]
  cases swaps : answer.swaps id with
  | false =>
      rw [Bool.not_false, if_pos rfl, bind_assoc, observesFrom_notify_bind, observesFrom_pure_bind]
      exact after.observes_ok (settles (by simp [swaps])) _
  | true =>
      rw [if_neg (by simp), bind_assoc, observesFrom_visit_bind]
      split
      · exact after.observes_ok (settles (by simp [swaps])) _
      · exact after.observes_ok (settles (by simp [swaps])) _

/-- The answer to a signature observes the law, in time or late. -/
theorem AfterVerify.observes_receiveProof (after : operation.AfterVerify rest) (id : String)
    (request : LinkRequest) (answer : Except ApiError LinkAnswer) (visit : Visit) :
    ObservesFrom operation.Conduct (.answer (.service (.linkWallet id request)) answer) visit
      (receiveProof id request.address answer >>= rest) visit := by
  unfold receiveProof
  rw [bind_assoc, observesFrom_isCurrent_bind]
  cases current : visit.state.isCurrent id request.address with
  | false =>
      have remembers (address : String) : ¬ visit.Forgets address operation
          (.answer (.service (.linkWallet id request)) answer) := by
        rw [Visit.forgets_swap_iff, current]
        simp
      exact after.observes_ok (Midway.start remembers).settles .stale
  | true =>
      cases answer with
      | error error =>
          have remembers (address : String) : ¬ visit.Forgets address operation
            (.answer (.service (.linkWallet id request)) (.error error)) := nofun
          exact after.observes_failVerification remembers (after.isProof_eq _) error.userMessage
      | ok answer => exact after.observes_applyProof current

/-- The answer of the prompt observes the law, signed or refused. -/
theorem AfterVerify.observes_receiveSignature (after : operation.AfterVerify rest)
    (id address message : String) (time : Int64) (answer : Except String String) (visit : Visit) :
    ObservesFrom operation.Conduct (.answer (.provider (.signMessage message)) answer) visit
      (receiveSignature id address message time answer >>= rest) visit := by
  have remembers (address : String) : ¬ visit.Forgets address operation
    (.answer (.provider (.signMessage message)) answer) := nofun
  have start := Midway.start remembers
  cases answer with
  | error reason =>
      unfold receiveSignature
      rw [bind_assoc, observesFrom_isCurrent_bind]
      split
      · exact after.observes_ok start.settles .stale
      · exact after.observes_failVerification start.remembers (after.isProof_eq _) _
  | ok signature =>
      exact ⟨(start.inquires _).settles.calm rfl, fun answer later =>
        after.observes_receiveProof id ⟨address, message, signature, time⟩ answer later⟩

/-- Verifying observes the law, whatever comes after it. -/
theorem AfterVerify.observes_verify (after : operation.AfterVerify rest) (visit : Visit) :
    ObservesFrom operation.Conduct .go visit (Errand.verify >>= rest) visit := by
  have start : operation.Midway .go visit visit := .start (after.remembers visit)
  unfold Errand.verify
  rw [bind_assoc, observesFrom_visit_bind]
  dsimp only
  split
  · exact after.observes_refused start .noIdentity
  · exact after.observes_refused start .noConnectedWallet
  · split
    · exact after.observes_ok start.settles .alreadyVerified
    · split
      · exact after.observes_refused start _
      case isFalse idle =>
        split
        · exact after.observes_failed start.remembers (fun _ => eq_false_of_ne_true idle) _ _ _
        case isFalse id address _ _ _ _ =>
          have starts : operation.Midway .go visit (visit.apply .startVerification) :=
            ⟨start.remembers, rfl, fun _ _ _ _ _ _ => rfl⟩
          exact ⟨(starts.inquires _).settles.calm rfl, fun answer later =>
            after.observes_receiveSignature _ _ _ _ answer later⟩

end Verifying

end Operation

end VisitorLink
