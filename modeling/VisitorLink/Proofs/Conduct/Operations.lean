import VisitorLink.Proofs.Conduct.Wallet

/-!
# The conduct of operations

The pieces of polling, of the account and of the opening of a visit observe the law of conduct as
well, and with them all operations (`observes_conduct`).
-/

namespace VisitorLink

open Errand

/-- That one visit came from another without touching the addresses tried, and without changing
anything about a connected wallet. -/
structure Visit.Glides (before after : Visit) : Prop where
  attempted : after.attempted = before.attempted
  stays : before.state.address? ≠ none → before.state.Stays after.state

theorem Visit.Glides.refl (visit : Visit) : visit.Glides visit where
  attempted := rfl
  stays _ := .refl visit.state

/-- Gliding twice is gliding. -/
theorem Visit.Glides.trans {first middle last : Visit} (before : first.Glides middle)
    (after : middle.Glides last) : first.Glides last where
  attempted := after.attempted.trans before.attempted
  stays connected := by
    have stays := before.stays connected
    have stays' := after.stays (stays.address ▸ connected)
    exact ⟨stays'.visitor.trans stays.visitor, stays'.address.trans stays.address,
      stays'.verifying.trans stays.verifying⟩

/-- A visit that glides is steady: a connected wallet stays what it was. -/
theorem Visit.Glides.steady {before after : Visit} (glides : before.Glides after) :
    before.state.Steady after.state := by
  by_cases unconnected : before.state.address? = none
  · exact State.steady_of_unconnected (.inl unconnected)
  · exact (glides.stays unconnected).steady

namespace Operation

variable {operation : Operation} {cue : Cue} {first visit : Visit}

/-! ## Polling -/

/-- Detecting the provider touches neither the addresses tried nor the wallet. -/
theorem observes_detect_bind {law : Law Outcome} {rest : Bool → Errand Outcome}
    (after : ∀ present later, later.attempted = visit.attempted → visit.state.Stays later.state →
      ObservesFrom law cue first (rest present) later) :
    ObservesFrom law cue first (Errand.detect >>= rest) visit := by
  unfold Errand.detect
  rw [bind_assoc, observesFrom_lookForProvider_bind, bind_assoc, observesFrom_visit_bind]
  dsimp only
  split
  · exact after _ _ rfl ⟨rfl, rfl, rfl⟩
  · exact after _ _ rfl (.refl visit.state)

/-- Polling forgets nothing and leaves a connected wallet alone. -/
theorem settles_glides {attempts interval : Nat} {first visit : Visit}
    (glides : first.Glides visit) : (Operation.poll attempts interval).Settles .go first visit := by
  have remembers (address : String) : ¬ first.Forgets address (.poll attempts interval) .go := nofun
  exact Midway.settles ⟨remembers, glides.attempted, fun _ => glides.steady⟩

/-- One look in the course of polling leaves a connected wallet alone. -/
theorem observes_pollOnce {attempts interval : Nat} {first visit : Visit}
    (glides : first.Glides visit) {rest : PollOutcome → Errand Outcome}
    (after : ∀ outcome later, first.Glides later →
      ObservesFrom (Operation.poll attempts interval).Conduct .go first (rest outcome) later) :
    ObservesFrom (Operation.poll attempts interval).Conduct .go first (pollOnce >>= rest)
      visit := by
  unfold pollOnce
  rw [bind_assoc, observesFrom_visit_bind]
  cases connected : visit.state.address? with
  | some address => exact after _ visit glides
  | none =>
      have glide {later : Visit} (same : later.attempted = visit.attempted) : first.Glides later :=
        glides.trans ⟨same, absurd connected⟩
      rw [if_neg (by simp), bind_assoc]
      refine observes_detect_bind fun present later same _ => ?_
      rw [bind_assoc, observesFrom_shownIf_bind]
      split
      · exact after _ _ (glide same)
      · exact after _ _ (glide same)

/-- Polling observes the law, by induction on the looks that are left. -/
theorem observes_pollFrom (attempts interval start period looks tick : Nat) (last : Bool)
    {first visit : Visit} (glides : first.Glides visit) :
    ObservesFrom (Operation.poll attempts interval).Conduct .go first
      (.poll <$> pollFrom start period looks tick last) visit := by
  induction looks generalizing tick last first visit with
  | zero => exact (settles_glides glides).calm rfl
  | succ looks ih =>
      have polls : Polls (fun outcome : Outcome => outcome.isFailure = false)
          (Outcome.poll <$> pollFrom start period (looks + 1) tick last) :=
        (polls_pollFrom start period (looks + 1) tick last).bind fun _ _ => polls_done rfl
      unfold pollFrom at polls ⊢
      rw [map_eq_bind, bind_assoc, bind_assoc] at polls ⊢
      have neverFails := Keeps.mono (polls visit).2.2 (fun _ _ _ => trivial) (fun _ _ => trivial)
        fun _ ends => ends
      rw [observesFrom_sleep_bind]
      refine ⟨(settles_glides glides).sleeps neverFails _,
        observes_pollOnce glides fun outcome later glides => ?_,
        fun later => observes_pollOnce (.refl later) fun outcome later glides => ?_⟩
      all_goals
        cases outcome with
        | exhausted present => exact ih _ _ glides
        | _ => exact (settles_glides glides).calm rfl

/-! ## The account -/

/-- An update that is refused at once leaves the visit as it was. -/
theorem Midway.refuses (midway : operation.Midway cue visit visit)
    (account : operation.isAccount = true) (error : LinkError) :
    operation.Conduct cue visit (.finished (.account (.error error)), visit) :=
  midway.settles.fails rfl ⟨.account account rfl rfl, rfl, rfl⟩

/-- The same, with an event told. -/
theorem Midway.refusesWith (midway : operation.Midway cue visit visit)
    (account : operation.isAccount = true) (event : Event) (error : LinkError) :
    operation.Conduct cue visit (.finished (.account (.error error)), visit.emit event) := by
  have told := midway.stays _ (visit.emit_attempted event) (by simp [State.Stays.refl])
  have failure : operation.Failure cue visit (visit.emit event) :=
    ⟨.account account (visit.emit_state event) (visit.emit_attempted event),
      visit.emit_storage event, visit.emit_tracker event⟩
  exact told.settles.fails rfl failure

/-- A record that is put in place for the present visitor only. -/
theorem Midway.loads (midway : operation.Midway cue visit visit) (visitor : Visitor) :
    operation.Midway cue visit (visit.apply (.load visitor)) :=
  ⟨midway.remembers, rfl, fun _ => visit.state.steady_load visitor⟩

/-- The record with another primary wallet observes the law, in time or late. -/
theorem observes_receivePrimary (id address : String) (answer : Except ApiError Visitor)
    (visit : Visit) :
    ObservesFrom (setPrimary address).Conduct (.answer (.service (.setPrimaryWallet id address))
      answer) visit (.account <$> receivePrimary id answer) visit := by
  have remembers (other : String) : ¬ visit.Forgets other (setPrimary address)
    (.answer (.service (.setPrimaryWallet id address)) answer) := nofun
  have start := Midway.start remembers
  cases answer with
  | error error => exact start.refusesWith rfl _ _
  | ok visitor =>
      unfold receivePrimary
      rw [map_eq_bind, bind_assoc, observesFrom_isVisitor_bind]
      split
      · exact (start.loads visitor).settles.calm rfl
      · exact start.settles.calm rfl

/-- The record of a log-in observes the law, in time or late. -/
theorem observes_receiveLogIn (id : String) (answer : Except ApiError Visitor) (visit : Visit) :
    ObservesFrom logIn.Conduct (.answer (.service (.logIn id)) answer) visit
      (.account <$> receiveLogIn id answer) visit := by
  have remembers (other : String) : ¬ visit.Forgets other logIn
    (.answer (.service (.logIn id)) answer) := nofun
  have start := Midway.start remembers
  cases answer with
  | error error => exact start.refusesWith rfl _ _
  | ok visitor =>
      have loggedIn : Midway logIn (.answer (.service (.logIn id)) (.ok visitor)) visit
          (visit.apply (.logIn visitor)) :=
        ⟨start.remembers, rfl, fun _ => State.steady_of_verifying rfl⟩
      unfold receiveLogIn
      rw [map_eq_bind, bind_assoc, observesFrom_isVisitor_bind]
      split
      · exact loggedIn.settles.calm rfl
      · exact start.settles.calm rfl

/-- What is left of an operation after a log-out. -/
inductive AfterLogOut : Operation → (Except LinkError Unit → Errand Outcome) → Prop
  | logOut : AfterLogOut .logOut fun result => pure (.account result)
  | leave : AfterLogOut .leave fun result => .account <$> followLogOut result

/-- A log-out that the service accepts drops the connection, whoever the visitor is by then. -/
theorem AfterLogOut.observes_receiveLogOut {rest : Except LinkError Unit → Errand Outcome}
    (after : operation.AfterLogOut rest) (id : String) (answer : Except ApiError Visitor)
    (visit : Visit) :
    ObservesFrom operation.Conduct (.answer (.service (.logOut id)) answer) visit
      (receiveLogOut id answer >>= rest) visit := by
  cases answer with
  | error error =>
      have remembers (other : String) : ¬ visit.Forgets other operation
        (.answer (.service (.logOut id)) (.error error)) := nofun
      have start := Midway.start remembers
      cases after with
      | logOut => exact start.refusesWith rfl _ _
      | leave => exact start.refusesWith rfl _ _
  | ok visitor =>
      have dropped {later : Visit} (cleared : later.attempted = [])
          (unconnected : later.state.address? = none) :
          operation.Settles (.answer (.service (.logOut id)) (.ok visitor)) visit later := by
        have forgets (address : String) : visit.Forgets address operation
          (.answer (.service (.logOut id)) (.ok visitor)) := .logOut
        refine ⟨fun address => ?_, fun _ => State.steady_of_unconnected (.inr unconnected)⟩
        simp [cleared, forgets]
      unfold receiveLogOut
      rw [bind_assoc, observesFrom_isVisitor_bind]
      cases after <;> split <;> exact (dropped rfl rfl).calm rfl

/-- The record without the address observes the law, in time or late. -/
theorem observes_receiveUnlinked (id address : String) (request : UnlinkRequest)
    (answer : Except ApiError Visitor) (visit : Visit) :
    ObservesFrom (unlink address).Conduct
      (.answer (.service (.unlinkWallet id address request)) answer) visit
      (.account <$> receiveUnlinked id address answer) visit := by
  cases answer with
  | error error =>
      have remembers (other : String) : ¬ visit.Forgets other (unlink address)
        (.answer (.service (.unlinkWallet id address request)) (.error error)) := nofun
      exact (Midway.start remembers).refusesWith rfl _ _
  | ok visitor =>
      unfold receiveUnlinked
      rw [map_eq_bind, bind_assoc, observesFrom_isVisitor_bind]
      have forgets (other : String) : visit.Forgets other (unlink address)
            (.answer (.service (.unlinkWallet id address request)) (.ok visitor)) ↔
          other = address ∧ visit.state.visitorId? = some id :=
        (Visit.forgets_unlink_iff (.ok visitor)).trans (by simp)
      split
      case isTrue other =>
        have changed : visit.state.visitorId? ≠ some id := by simpa using other
        have start := Midway.start fun wallet forgotten => changed ((forgets wallet).1 forgotten).2
        exact start.settles.calm rfl
      case isFalse same =>
        have current : visit.state.visitorId? = some id := by simpa using same
        rw [bind_assoc, observesFrom_modify_bind, bind_assoc, observesFrom_apply_bind, bind_assoc,
          observesFrom_notify_bind, observesFrom_pure_bind]
        refine Settles.calm ⟨fun wallet => ?_, fun _ => ?_⟩ rfl
        · refine Iff.trans ?_ (and_congr_right fun _ => not_congr (forgets wallet).symm)
          rw [Visit.emit_attempted, Visit.apply_attempted, List.mem_filter]
          simp [current]
        · rw [Visit.emit_state]
          exact visit.state.steady_load visitor

/-- A signed removal is sent on, and a refused one ends as a failure. -/
theorem observes_receiveUnlinkSignature (id address message : String)
    (answer : Except String String) (visit : Visit) :
    ObservesFrom (unlink address).Conduct (.answer (.provider (.signMessage message)) answer) visit
      (.account <$> receiveUnlinkSignature id address message answer) visit := by
  have remembers (other : String) : ¬ visit.Forgets other (unlink address)
    (.answer (.provider (.signMessage message)) answer) := nofun
  have start := Midway.start remembers
  cases answer with
  | error reason => exact start.refusesWith rfl _ _
  | ok signature =>
      exact ⟨(start.inquires _).settles.calm rfl, fun answer later =>
        observes_receiveUnlinked id address ⟨message, signature⟩ answer later⟩

/-- Unlinking observes the law. -/
theorem observes_unlink (address : String) (visit : Visit) :
    ObservesFrom (unlink address).Conduct .go visit (.account <$> Errand.unlink address) visit := by
  have start : (unlink address).Midway .go visit visit := .start fun _ => nofun
  unfold Errand.unlink
  rw [map_eq_bind, bind_assoc, observesFrom_visit_bind]
  split
  · exact start.refuses rfl .noIdentity
  · split
    · exact start.refuses rfl .signatureUnavailable
    · exact ⟨(start.inquires _).settles.calm rfl, fun answer later =>
        observes_receiveUnlinkSignature _ address _ answer later⟩

/-! ## Opening -/

/-- Looking at the shown address may connect it and forgets nothing. -/
theorem observes_checkShown (midway : operation.Midway cue first visit)
    (same : visit.state.address? = first.state.address?) {rest : Option String → Errand Outcome}
    (after : ∀ shown later, operation.Midway cue first later →
      ObservesFrom operation.Conduct cue first (rest shown) later) :
    ObservesFrom operation.Conduct cue first (Errand.checkShown >>= rest) visit := by
  have checks := midway.stays ((visit.apply .check).inquire .detect) rfl ⟨rfl, rfl, rfl⟩
  unfold Errand.checkShown
  rw [bind_assoc, observesFrom_apply_bind, bind_assoc, observesFrom_lookForProvider_bind,
    bind_assoc, observesFrom_shownIf_bind]
  split
  case h_1 address shown => exact after _ _ (checks.connect same address)
  case h_2 shown => exact after _ _ (checks.stays _ rfl (State.stays_finishCheck _))

/-- What is left of an operation after finding out who the visitor is. -/
inductive AfterIdentify : Operation → (Except AppError Visitor → Errand Outcome) → Prop
  | identify : AfterIdentify .identify fun result => pure (.visitor result)
  | bootstrap : AfterIdentify .bootstrap fun result => .visitor <$> pickUpWallet result

section Opening

variable {rest : Except AppError Visitor → Errand Outcome}

/-- Picking up a wallet observes the law: what it links was not tried before. -/
theorem observes_pickUpWallet (midway : bootstrap.Midway cue first visit)
    (same : visit.state.address? = first.state.address?) (visitor : Visitor) :
    ObservesFrom bootstrap.Conduct cue first (.visitor <$> pickUpWallet (.ok visitor)) visit := by
  unfold pickUpWallet
  rw [map_eq_bind, bind_assoc]
  refine observes_detect_bind fun present later kept stays => ?_
  rw [bind_assoc]
  have looked := midway.stays later kept stays
  refine observes_checkShown looked (stays.address.trans same) fun shown last connected => ?_
  split
  · rw [bind_assoc]
    exact (AfterLink.bootstrap visitor).observes_link connected
  · exact connected.settles.calm rfl

/-- An opening goes on to the wallet once there is a record. -/
theorem AfterIdentify.observes_ok (after : operation.AfterIdentify rest)
    (midway : operation.Midway cue first visit)
    (same : visit.state.address? = first.state.address?) (visitor : Visitor) :
    ObservesFrom operation.Conduct cue first (rest (.ok visitor)) visit := by
  cases after with
  | identify => exact midway.settles.calm rfl
  | bootstrap => exact observes_pickUpWallet midway same visitor

/-- An opening without a record ends as a failure. -/
theorem AfterIdentify.observes_error (after : operation.AfterIdentify rest)
    (midway : operation.Midway cue first visit) (error : AppError) :
    ObservesFrom operation.Conduct cue first (rest (.error error)) visit := by
  cases after <;> exact midway.settles.calm rfl

/-- The record of an opening observes the law, also where it brings another id. -/
theorem AfterIdentify.observes_receiveVisitor (after : operation.AfterIdentify rest) (id : String)
    (answer : Except ApiError Visitor) (visit : Visit) :
    ObservesFrom operation.Conduct (.answer (.service (.fetchVisitor id)) answer) visit
      (receiveVisitor id answer >>= rest) visit := by
  have remembers (address : String) : ¬ visit.Forgets address operation
    (.answer (.service (.fetchVisitor id)) answer) := nofun
  have start := Midway.start remembers
  cases answer with
  | error error => exact after.observes_error start (.api error)
  | ok visitor =>
      have loads {middle : Visit} (attempted : middle.attempted = visit.attempted)
          (state : middle.state = visit.state) :
          ObservesFrom operation.Conduct (.answer (.service (.fetchVisitor id)) (.ok visitor))
            visit (rest (.ok visitor)) (middle.apply (.load visitor)) := by
        have loaded : operation.Midway (.answer (.service (.fetchVisitor id)) (.ok visitor)) visit
            (middle.apply (.load visitor)) := by
          refine ⟨start.remembers, attempted, fun _ => ?_⟩
          rw [Visit.apply_state, state]
          exact visit.state.steady_load visitor
        refine after.observes_ok loaded ?_ visitor
        rw [Visit.apply_state, state]
        rfl
      unfold receiveVisitor adopt
      dsimp only
      rw [bind_assoc]
      split
      · exact loads rfl rfl
      · rw [observesFrom_slots_bind]
        have kept := start.stays { visit with storage :=
          ((RememberedId.persist visitor.id).on visit.storage).2 } rfl (.refl visit.state)
        split
        · exact after.observes_error kept _
        · exact loads rfl rfl

/-- Finding out who the visitor is observes the law, whatever comes after it. -/
theorem AfterIdentify.observes_identify (after : operation.AfterIdentify rest) (visit : Visit) :
    ObservesFrom operation.Conduct .go visit (Errand.identify >>= rest) visit := by
  have remembers (address : String) : ¬ visit.Forgets address operation .go := by
    cases after <;> exact nofun
  have start := Midway.start remembers
  unfold Errand.identify
  rw [bind_assoc, observesFrom_visit_bind, bind_assoc, observesFrom_slots_bind]
  have kept := start.stays { visit with storage := (StorageM.on (RememberedId.loadOrCreate
    (Uuid.ofRandom visit.outside.random).hyphenated) visit.storage).2 } rfl (.refl visit.state)
  split
  · exact after.observes_error kept _
  · exact ⟨(kept.inquires _).settles.calm rfl,
      fun answer later => after.observes_receiveVisitor _ answer later⟩

end Opening

/-! ## All operations -/

/-- What is asked on behalf of the visitor is asked if there is one. -/
theorem observes_asVisitor {errand : Errand (Except LinkError Unit)} {call : String → ServiceCall}
    {receive : (id : String) → (call id).Answer → Errand (Except LinkError Unit)}
    {rest : Except LinkError Unit → Errand Outcome} (start : operation.Midway .go visit visit)
    (account : operation.isAccount = true)
    (refuses : rest (.error .noIdentity) = pure (.account (.error .noIdentity)))
    (asks : errand = Errand.visit >>= fun visit => match visit.state.visitorId? with
      | none => return .error .noIdentity
      | some id => askService (call id) >>= receive id)
    (calm : ∀ id next, isCalm (.calling (.service (call id)) next) = true)
    (after : ∀ id answer later, ObservesFrom operation.Conduct
      (.answer (.service (call id)) answer) later (receive id answer >>= rest) later) :
    ObservesFrom operation.Conduct .go visit (errand >>= rest) visit := by
  rw [asks, bind_assoc, observesFrom_visit_bind]
  split
  · rw [observesFrom_pure_bind, refuses]
    exact start.refuses account .noIdentity
  · rw [bind_assoc, observesFrom_askService_bind]
    exact ⟨(start.inquires _).settles.calm (calm _ _), after _⟩

/-- An operation that only tracks pages observes the law. -/
theorem observes_tracking {α : Type} {errand : Errand α} (operation : Operation)
    (rename : α → Outcome) (goesOn : ∀ visit address, ¬ Visit.Forgets visit address operation .go)
    (tracks : Tracks (fun _ => True) errand)
    (calm : ∀ result, isCalm (.finished (rename result)) = true) (visit : Visit) :
    ObservesFrom operation.Conduct .go visit (rename <$> errand) visit := by
  have renamed : Tracks (fun outcome => isCalm (.finished outcome) = true) (rename <$> errand) :=
    tracks.bind fun result _ => tracks_done (calm result)
  exact (Midway.start (goesOn visit)).settles.tracks goesOn renamed fun _ calm => calm

/-- Giving up the connection forgets all addresses. -/
theorem observes_giveUp {change : Change}
    (forgets : ∀ address, visit.Forgets address operation .go)
    (drops : (visit.state.apply change).address? = none) :
    ObservesFrom operation.Conduct .go visit
      ((fun _ => .nothing) <$> (forgetAttempts >>= fun _ => Errand.apply change)) visit := by
  refine Settles.calm ⟨fun address => ?_, fun _ => State.steady_of_unconnected (.inr drops)⟩ rfl
  have forgotten := forgets address
  simp [forgotten]

/-- Every piece of every operation observes the law of conduct, whatever the visit is. -/
theorem observes_conduct (operation : Operation) (visit : Visit) :
    ObservesFrom operation.Conduct .go visit operation.errand visit := by
  cases operation with
  | identify => exact AfterIdentify.identify.observes_identify visit
  | bootstrap =>
      rw [errand_bootstrap]
      exact AfterIdentify.bootstrap.observes_identify visit
  | connect => exact AfterConnect.connect.observes_connect visit
  | connectWallet =>
      rw [errand_connectWallet]
      exact AfterConnect.connectWallet.observes_connect visit
  | checkShown =>
      have start : checkShown.Midway .go visit visit := .start fun _ => nofun
      exact observes_checkShown start rfl fun shown later midway => midway.settles.calm rfl
  | dropConnection =>
      have start : dropConnection.Midway .go visit visit := .start fun _ => nofun
      have dropped : dropConnection.Midway .go visit (visit.apply .disconnect) :=
        ⟨start.remembers, rfl, fun _ => State.steady_of_unconnected (.inr rfl)⟩
      exact dropped.settles.calm rfl
  | link => exact AfterLink.link.observes_link (.start fun _ => nofun)
  | verify => exact AfterVerify.verify.observes_verify visit
  | verifyAndFollow context =>
      rw [errand_verifyAndFollow]
      exact (AfterVerify.verifyAndFollow context).observes_verify visit
  | cancelLogin => exact observes_giveUp (fun _ => .cancelLogin) rfl
  | disconnect => exact observes_giveUp (fun _ => .disconnect) rfl
  | unlink address => exact observes_unlink address visit
  | setPrimary address =>
      exact observes_asVisitor (.start fun _ => nofun) rfl rfl rfl (fun _ _ => rfl)
        fun id answer later => observes_receivePrimary id address answer later
  | logIn =>
      exact observes_asVisitor (.start fun _ => nofun) rfl rfl rfl (fun _ _ => rfl)
        fun id answer later => observes_receiveLogIn id answer later
  | logOut =>
      exact observes_asVisitor (.start fun _ => nofun) rfl rfl rfl (fun _ _ => rfl)
        fun id answer later => AfterLogOut.logOut.observes_receiveLogOut id answer later
  | leave =>
      rw [errand_leave]
      exact observes_asVisitor (.start fun _ => nofun) rfl rfl rfl (fun _ _ => rfl)
        fun id answer later => AfterLogOut.leave.observes_receiveLogOut id answer later
  | detect =>
      have start : detect.Midway .go visit visit := .start fun _ => nofun
      exact observes_detect_bind fun present later kept stays =>
        (start.stays later kept stays).settles.calm rfl
  | poll attempts interval => exact observes_pollFrom attempts interval _ _ _ _ _ (.refl visit)
  | startSession context =>
      exact observes_tracking (startSession context) .flag (fun _ _ => nofun)
        (tracks_startSession context) (fun _ => rfl) visit
  | startTracking id context =>
      exact observes_tracking (startTracking id context) .flag (fun _ _ => nofun)
        (tracks_startTracking id context) (fun _ => rfl) visit
  | recordPage path =>
      exact observes_tracking (recordPage path) .flag (fun _ _ => nofun)
        (tracks_recordPage path) (fun _ => rfl) visit
  | sendHeartbeat =>
      exact observes_tracking sendHeartbeat .flag (fun _ _ => nofun)
        tracks_sendHeartbeat (fun _ => rfl) visit
  | hidePage =>
      exact observes_tracking hidePage .flag (fun _ _ => nofun)
        tracks_hidePage (fun _ => rfl) visit
  | stopHeartbeat =>
      exact observes_tracking stopHeartbeat (fun _ => .nothing) (fun _ _ => nofun)
        tracks_stopHeartbeat (fun _ => rfl) visit
  | endTracking =>
      exact observes_tracking endTracking .flag (fun _ _ => nofun)
        tracks_endTracking (fun _ => rfl) visit
  | shutDown =>
      exact observes_tracking shutDown (fun _ => .nothing) (fun _ _ => nofun)
        tracks_endTracking (fun _ => rfl) visit

end Operation

end VisitorLink
