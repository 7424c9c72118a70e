import VisitorLink.Proofs.Visit.Answers
import VisitorLink.Visit.Operation

/-!
# Operations heed answers

Every piece of every operation takes what the answer brings that has set it going, under the guards
of `Visit.Receives`, and nothing else; and only an operation that has just been started asks for a
record, of the id that it has found in the slots.

Main statement: all operations observe this law (`Operation.observes_heeding`).
-/

namespace VisitorLink

open Errand

/-- Whether a call asks for a record. -/
def Call.isFetch : Call → Bool
  | .service (.fetchVisitor _) => true
  | _ => false

namespace Errand

variable {α β : Type}

/-- What holds of every piece: it takes what its cue brings and nothing else, and it asks for a
record only right after the operation was started, of the id that it has found in the slots. -/
structure Heeding (cue : Cue) (first : Visit) (piece : Paused α × Visit) : Prop where
  follows : first.Follows cue piece.2
  recalls : ∀ id next, piece.1 = .calling (.service (.fetchVisitor id)) next →
    cue = .go ∧
      (RememberedId.loadOrCreate first.freshId).on first.storage = (.ok id, piece.2.storage)

/-- That all pieces of an errand heed their cues, also where it begins in the midst of a piece that
does. -/
def Heeds (errand : Errand α) : Prop :=
  ∀ cue first visit, first.Follows cue visit → ObservesFrom Heeding cue first errand visit

variable {cue : Cue} {first visit : Visit} {errand : Errand α} {rest : α → Errand β}

/-! ## Steps -/

/-- A piece that ends where its cue has led asks for no record. -/
theorem heeding_finished (follows : first.Follows cue visit) (result : α) :
    Heeding cue first (.finished result, visit) :=
  ⟨follows, nofun⟩

/-- A piece that stops at a call other than for a record asks for none. -/
theorem heeding_calling {call : Call} {next : call.Answer → Errand α} (other : call.isFetch = false)
    (follows : first.Follows cue visit) : Heeding cue first (.calling call next, visit) := by
  refine ⟨follows, fun id next asks => ?_⟩
  cases asks
  cases other

/-- An errand that is done has taken nothing over. -/
theorem heeds_pure (result : α) : Heeds (pure result) :=
  fun _ _ _ follows => heeding_finished follows result

/-- One errand after another. -/
theorem observes_bind (observes : ObservesFrom Heeding cue first errand visit)
    (after : ∀ result, Heeds (rest result)) :
    ObservesFrom Heeding cue first (errand >>= rest) visit := by
  change ObservesFrom Heeding cue first (errand.bind rest) visit
  induction errand generalizing cue first visit with
  | done result => exact after result cue first visit observes.follows
  | look next ih => exact ih visit observes
  | set changed next ih => exact ih observes
  | call asked next ih =>
      refine ⟨⟨observes.1.follows, fun id next' asks => ?_⟩,
        fun answer later => ih answer (observes.2 answer later)⟩
      cases asks
      exact observes.1.recalls id _ rfl
  | sleep wakeUp next ih =>
      exact ⟨⟨observes.1.follows, nofun⟩, ih observes.2.1, fun later => ih (observes.2.2 later)⟩

/-- One errand after another heeds if both do. -/
theorem Heeds.bind (heeds : Heeds errand) (after : ∀ result, Heeds (rest result)) :
    Heeds (errand >>= rest) :=
  fun cue first visit follows => observes_bind (heeds cue first visit follows) after

theorem Heeds.map (heeds : Heeds errand) (rename : α → β) : Heeds (rename <$> errand) :=
  heeds.bind fun result => heeds_pure (rename result)

theorem heeds_visit : Heeds Errand.visit :=
  fun _ _ visit follows => heeding_finished follows visit

/-- A step that leaves alone what answers bring takes nothing over. -/
theorem heeds_modify {change : Visit → Visit}
    (wanders : ∀ visit, Visit.Wanders visit (change visit)) : Heeds (modify change) :=
  fun _ _ visit follows => heeding_finished (follows.wanders (wanders visit)) ()

/-- A plain change brings no record and no address. -/
theorem heeds_apply {change : Change} (plain : change.isPlain = true) : Heeds (apply change) :=
  heeds_modify fun visit => visit.wanders_apply plain

/-- Telling an event takes nothing over. -/
theorem heeds_emit (event : Event) : Heeds (emit event) :=
  heeds_modify fun visit => visit.wanders_emit event

/-- Telling an event is often the last step of a piece. -/
theorem heeds_tell (event : Event) (result : α) : Heeds (emit event >>= fun _ => pure result) :=
  (heeds_emit event).bind fun _ => heeds_pure result

/-- Telling the visitor is telling an event. -/
theorem heeds_notify (level : NoticeLevel) (message : String) : Heeds (notify level message) :=
  heeds_emit _

/-- Asking whether there is a provider takes nothing over. -/
theorem heeds_lookForProvider : Heeds lookForProvider :=
  fun _ _ visit follows => heeding_finished (follows.wanders (visit.wanders_inquire .detect)) _

/-- To sleep is to go on without an answer. -/
theorem heeds_sleep (wakeUp : Nat) : Heeds (.sleep wakeUp (.done ()) : Errand Unit) :=
  fun _ _ _ follows => ⟨⟨follows, nofun⟩, heeding_finished follows (), fun later =>
    heeding_finished later.follows_go ()⟩

/-- What is asked of the provider is nothing that the visit takes over by itself. -/
theorem heeds_askProvider_bind {call : ProviderCall} {rest : call.Answer → Errand β}
    (after : ∀ answer, Heeds (rest answer)) : Heeds (askProvider call >>= rest) :=
  fun _ _ visit follows => ⟨heeding_calling rfl (follows.wanders (visit.wanders_inquire _)),
    fun answer later => after answer (.answer (.provider call) answer) later later
      (Visit.Ignores.follows trivial)⟩

/-- After a request other than for a record, what matters is what is made of its answer. -/
theorem heeds_askService_bind {call : ServiceCall} {rest : call.Answer → Errand β}
    (other : Call.isFetch (.service call) = false)
    (after : ∀ answer later,
      ObservesFrom Heeding (.answer (.service call) answer) later (rest answer) later) :
    Heeds (askService call >>= rest) :=
  fun _ _ visit follows =>
    ⟨heeding_calling other (follows.wanders (visit.wanders_inquire _)), after⟩

/-- What only tracks pages takes nothing from an answer. -/
theorem heeds_of_tracks {Ends : α → Prop} (tracks : Tracks Ends errand) : Heeds errand := by
  intro cue first visit follows
  have pauses {cue : Cue} {first : Visit} {piece : Paused α × Visit}
      (follows : first.Follows cue piece.2)
      (stops : StopsAt Visit.Apart (fun call => call.isSession = true) Ends piece.1) :
      Heeding cue first piece := by
    refine ⟨follows, fun id next asks => ?_⟩
    rw [asks] at stops
    cases stops
  refine .of_keepsFrom (tracks visit) (fun piece apart stops => ?_)
    fun cue before piece cued apart stops => ?_
  · exact pauses (follows.wanders apart.wanders) stops
  · have ignores : before.Ignores cue := by
      cases cue with
      | go => trivial
      | answer call answer =>
          cases call with
          | provider call => trivial
          | service call => cases call <;> trivial
    exact pauses (ignores.follows.wanders apart.wanders) stops

/-! ## Connecting and looking for the provider -/

/-- Detecting the provider is a plain change at most. -/
theorem heeds_detect : Heeds detect := by
  refine heeds_lookForProvider.bind fun present => ?_
  refine heeds_visit.bind fun before => ?_
  dsimp only
  split
  · exact (heeds_apply rfl).bind fun _ => heeds_pure present
  · exact heeds_pure present

/-- Asking for the shown address takes nothing over by itself. -/
theorem heeds_shownIf (present : Bool) : Heeds (shownIf present) :=
  fun _ _ _ follows => heeding_finished follows _

/-- One look of the polling takes over at most a shown address. -/
theorem heeds_pollOnce : Heeds pollOnce := by
  refine heeds_visit.bind fun before => ?_
  split
  · exact heeds_pure _
  · refine heeds_detect.bind fun present => ?_
    refine (heeds_shownIf present).bind fun shown => ?_
    split
    · exact (heeds_apply rfl).bind fun _ => heeds_pure _
    · exact heeds_pure _

/-- Polling heeds, by induction on the attempts that are left. -/
theorem heeds_pollFrom (start interval attempts tick : Nat) (last : Bool) :
    Heeds (pollFrom start interval attempts tick last) := by
  induction attempts generalizing tick last with
  | zero => exact heeds_pure _
  | succ attempts ih =>
      refine (heeds_sleep (start + tick * interval)).bind fun _ => ?_
      refine heeds_pollOnce.bind fun outcome => ?_
      split
      · exact ih _ _
      · exact heeds_pure _

/-- Looking at the shown address heeds. -/
theorem heeds_checkShown : Heeds checkShown := by
  refine (heeds_apply rfl).bind fun _ => ?_
  refine heeds_lookForProvider.bind fun present => ?_
  refine (heeds_shownIf present).bind fun shown => ?_
  split
  · exact (heeds_apply rfl).bind fun _ => heeds_pure _
  · exact (heeds_apply rfl).bind fun _ => heeds_pure _

/-- What a prompt to connect brings is taken over when the connection is settled. -/
theorem heeds_receiveAccounts (answer : AccountsAnswer) : Heeds (receiveAccounts answer) := by
  unfold receiveAccounts
  split
  · exact heeds_pure _
  · refine heeds_visit.bind fun before => ?_
    split <;> exact heeds_pure _

/-- A settled connection is a plain change, whichever way it went. -/
theorem heeds_settleConnection (outcome : Except ConnectionError String) :
    Heeds (settleConnection outcome) := by
  cases outcome with
  | ok address => exact heeds_apply rfl
  | error error => exact (heeds_apply rfl).bind fun _ => heeds_notify _ _

/-- Connecting heeds, over all its exits. -/
theorem heeds_connect : Heeds Errand.connect := by
  have finishes (outcome : Except ConnectionError String) : Heeds (finishConnecting outcome) := by
    refine (heeds_settleConnection outcome).bind fun _ => ?_
    refine Heeds.bind (heeds_modify fun visit => ?_) fun _ => heeds_pure outcome
    exact Visit.wanders_of_roams .refl rfl rfl
  refine heeds_visit.bind fun before => ?_
  split
  · exact heeds_pure _
  · refine Heeds.bind (heeds_modify fun visit => ?_) fun _ => ?_
    · exact Visit.wanders_of_roams .refl rfl rfl
    · refine Heeds.bind ?_ finishes
      refine heeds_lookForProvider.bind fun present => ?_
      split
      · exact heeds_pure _
      · refine heeds_visit.bind fun before => ?_
        split
        · exact heeds_pure _
        · exact (heeds_apply rfl).bind fun _ => heeds_askProvider_bind heeds_receiveAccounts

/-! ## Linking -/

/-- A decision on a link request is taken over exactly if it is in time and not a refusal. -/
theorem observes_receiveDecision (id address : String) (answer : Except ApiError ConnectAnswer)
    (visit : Visit) :
    ObservesFrom Heeding (.answer (.service (.connectWallet id address)) answer) visit
      (receiveDecision id address answer) visit := by
  unfold receiveDecision
  rw [observesFrom_isCurrent_bind]
  split
  case isTrue late =>
    have ignores : visit.Ignores (.answer (.service (.connectWallet id address)) answer) :=
      fun current => by simp [current] at late
    exact heeding_finished ignores.follows _
  case isFalse inTime =>
    have current : visit.state.isCurrent id address = true := by simpa using inTime
    cases decided : LinkDecision.ofAnswer answer with
    | loginRequired owner =>
        exact heeds_tell _ _ _ _ _ ((Visit.Receives.required current decided).follows (.refl _))
    | linked visitor =>
        exact heeding_finished ((Visit.Receives.linked current decided).follows (.refl _)) _
    | refused reason =>
        have ignores : visit.Ignores (.answer (.service (.connectWallet id address)) answer) :=
          fun _ => ⟨reason, decided⟩
        have refuses : Heeds (applyDecision address (.refused reason)) := by
          refine Heeds.bind (heeds_modify fun visit => ?_) fun _ => ?_
          · exact Visit.wanders_of_roams .refl rfl rfl
          · exact (heeds_apply rfl).bind fun _ => heeds_tell _ _
        exact refuses _ _ _ ignores.follows

/-- A link request heeds, also where it is not made. -/
theorem heeds_link : Heeds link := by
  refine heeds_visit.bind fun before => ?_
  split
  · split
    · exact heeds_pure _
    · split
      · exact heeds_pure _
      · refine Heeds.bind (heeds_modify fun visit => ?_) fun _ => ?_
        · exact Visit.wanders_of_roams .refl rfl rfl
        · exact heeds_askService_bind rfl (observes_receiveDecision _ _)
  · exact heeds_pure _

/-- The link request after a connection heeds, or nothing is asked. -/
theorem heeds_linkConnected (outcome : Except ConnectionError String) :
    Heeds (linkConnected outcome) := by
  cases outcome with
  | error error => exact heeds_pure _
  | ok address => exact heeds_link

/-! ## Verifying -/

/-- A failed verification brings nothing. -/
theorem heeds_failVerification (reason : String) : Heeds (failVerification reason) :=
  (heeds_apply rfl).bind fun _ => heeds_tell _ _

/-- An accepted signature puts the record in place, and another id is remembered in the same
piece. -/
theorem observes_applyProof {id : String} {request : LinkRequest} (answer : LinkAnswer)
    (current : visit.state.isCurrent id request.address = true) :
    ObservesFrom Heeding (.answer (.service (.linkWallet id request)) (.ok answer)) visit
      (applyProof id answer) visit := by
  have receives : visit.Receives (.answer (.service (.linkWallet id request)) (.ok answer)) _ _ :=
    .proved current
  have tellsSwap (previous current : String) (outcome : Except LinkError VerifyOutcome) :
      Heeds ((modify fun visit => { visit with attempted := [] }) >>= fun _ =>
        emit (.swapped previous current) >>= fun _ =>
          notify .success "Signed in with wallet" >>= fun _ => pure outcome) := by
    refine Heeds.bind (heeds_modify fun visit => ?_) fun _ => ?_
    · exact Visit.wanders_of_roams .refl rfl rfl
    · exact (heeds_emit _).bind fun _ => heeds_tell _ outcome
  unfold applyProof
  dsimp only
  rw [LinkAnswer.not_swaps_eq, observesFrom_apply_bind]
  cases swaps : answer.swaps id with
  | false =>
      rw [swaps, Bool.false_and, if_neg Bool.false_ne_true] at receives
      exact heeds_tell _ _ _ _ _ (receives.follows (.refl _))
  | true =>
      rw [swaps, Bool.true_and] at receives
      rw [Bool.not_true, if_neg Bool.false_ne_true, observesFrom_visit_bind]
      split
      case isTrue remembers =>
        have remembers : visit.settings.remembersSwap = true := remembers
        rw [if_pos remembers] at receives
        exact tellsSwap _ _ _ _ _ _ (receives.follows (.refl _))
      case isFalse forgets =>
        have forgets : ¬ visit.settings.remembersSwap = true := forgets
        rw [if_neg forgets] at receives
        exact tellsSwap _ _ _ _ _ _ (receives.follows (.refl _))

/-- The answer to a signature is taken over if it accepts the signature in time. -/
theorem observes_receiveProof (id : String) (request : LinkRequest)
    (answer : Except ApiError LinkAnswer) (visit : Visit) :
    ObservesFrom Heeding (.answer (.service (.linkWallet id request)) answer) visit
      (receiveProof id request.address answer) visit := by
  unfold receiveProof
  rw [observesFrom_isCurrent_bind]
  cases current : visit.state.isCurrent id request.address with
  | false =>
      have ignores : visit.Ignores (.answer (.service (.linkWallet id request)) answer) := by
        cases answer with
        | error error => trivial
        | ok answer => exact current
      exact heeding_finished ignores.follows _
  | true =>
      cases answer with
      | error error => exact heeds_failVerification _ _ _ _ (Visit.Ignores.follows trivial)
      | ok answer => exact observes_applyProof answer current

/-- A refused signature brings nothing, and an obtained one is sent on. -/
theorem heeds_receiveSignature (id address message : String) (time : Int64)
    (answer : Except String String) : Heeds (receiveSignature id address message time answer) := by
  cases answer with
  | ok signature => exact heeds_askService_bind rfl (observes_receiveProof id _)
  | error reason =>
      intro cue first visit follows
      unfold receiveSignature
      rw [observesFrom_isCurrent_bind]
      split
      · exact heeding_finished follows _
      · exact heeds_failVerification _ _ _ _ follows

/-- Verifying heeds, over all its exits. -/
theorem heeds_verify : Heeds verify := by
  refine heeds_visit.bind fun before => ?_
  dsimp only
  split
  · exact heeds_pure _
  · exact heeds_pure _
  · split
    · exact heeds_pure _
    · split
      · exact heeds_pure _
      · split
        · exact (heeds_apply rfl).bind fun _ => heeds_tell _ _
        · refine heeds_visit.bind fun before => ?_
          refine (heeds_apply rfl).bind fun _ => ?_
          exact heeds_askProvider_bind (heeds_receiveSignature _ _ _ _)

/-! ## The account -/

/-- A failed update brings nothing. -/
theorem heeds_failUpdate (reason : String) : Heeds (failUpdate reason) :=
  heeds_tell _ _

/-- A record without the address is taken over only while its visitor is loaded. -/
theorem observes_receiveUnlinked (id address : String) (request : UnlinkRequest)
    (answer : Except ApiError Visitor) (visit : Visit) :
    ObservesFrom Heeding (.answer (.service (.unlinkWallet id address request)) answer) visit
      (receiveUnlinked id address answer) visit := by
  cases answer with
  | error error => exact heeds_failUpdate _ _ _ _ (Visit.Ignores.follows trivial)
  | ok visitor =>
      unfold receiveUnlinked
      rw [observesFrom_isVisitor_bind]
      split
      case isTrue late =>
        have changed : visit.state.visitorId? ≠ some id := by simpa using late
        have ignores : visit.Ignores
            (.answer (.service (.unlinkWallet id address request)) (.ok visitor)) := changed
        exact heeding_finished ignores.follows _
      case isFalse inTime =>
        have loaded : visit.state.visitorId? = some id := by simpa using inTime
        have receives : visit.Receives
            (.answer (.service (.unlinkWallet id address request)) (.ok visitor)) _ _ :=
          .unlinked loaded
        exact heeds_tell _ _ _ _ _ (receives.follows (Visit.wanders_of_roams .refl rfl rfl))

/-- A record with another primary wallet is taken over only while its visitor is loaded. -/
theorem observes_receivePrimary (id address : String) (answer : Except ApiError Visitor)
    (visit : Visit) :
    ObservesFrom Heeding (.answer (.service (.setPrimaryWallet id address)) answer) visit
      (receivePrimary id answer) visit := by
  cases answer with
  | error error => exact heeds_failUpdate _ _ _ _ (Visit.Ignores.follows trivial)
  | ok visitor =>
      unfold receivePrimary
      rw [observesFrom_isVisitor_bind]
      split
      case isTrue inTime =>
        have loaded : visit.state.visitorId? = some id := by simpa using inTime
        exact heeding_finished ((Visit.Receives.marked loaded).follows (.refl _)) _
      case isFalse late =>
        have changed : visit.state.visitorId? ≠ some id := by simpa using late
        have ignores : visit.Ignores
            (.answer (.service (.setPrimaryWallet id address)) (.ok visitor)) := changed
        exact heeding_finished ignores.follows _

/-- The record of a log-in is taken over only while its visitor is loaded. -/
theorem observes_receiveLogIn (id : String) (answer : Except ApiError Visitor) (visit : Visit) :
    ObservesFrom Heeding (.answer (.service (.logIn id)) answer) visit (receiveLogIn id answer)
      visit := by
  cases answer with
  | error error => exact heeds_tell _ _ _ _ _ (Visit.Ignores.follows trivial)
  | ok visitor =>
      unfold receiveLogIn
      rw [observesFrom_isVisitor_bind]
      split
      case isTrue inTime =>
        have loaded : visit.state.visitorId? = some id := by simpa using inTime
        exact heeding_finished ((Visit.Receives.loggedIn loaded).follows (.refl _)) _
      case isFalse late =>
        have changed : visit.state.visitorId? ≠ some id := by simpa using late
        have ignores : visit.Ignores (.answer (.service (.logIn id)) (.ok visitor)) := changed
        exact heeding_finished ignores.follows _

/-- Dropping the connection brings nothing. -/
theorem heeds_disconnect : Heeds disconnect := by
  refine Heeds.bind (heeds_modify fun visit => ?_) fun _ => heeds_apply rfl
  exact Visit.wanders_of_roams .refl rfl rfl

/-- An accepted log-out is taken over by its visitor, and the connection is dropped anyway. -/
theorem observes_receiveLogOut (id : String) (answer : Except ApiError Visitor) (visit : Visit) :
    ObservesFrom Heeding (.answer (.service (.logOut id)) answer) visit (receiveLogOut id answer)
      visit := by
  cases answer with
  | error error => exact heeds_tell _ _ _ _ _ (Visit.Ignores.follows trivial)
  | ok visitor =>
      have drops : Heeds (disconnect >>= fun _ => pure (Except.ok () : Except LinkError Unit)) :=
        heeds_disconnect.bind fun _ => heeds_pure _
      unfold receiveLogOut
      rw [observesFrom_isVisitor_bind]
      split
      case isTrue inTime =>
        have loaded : visit.state.visitorId? = some id := by simpa using inTime
        exact drops _ _ _ ((Visit.Receives.loggedOut loaded).follows (.refl _))
      case isFalse late =>
        have changed : visit.state.visitorId? ≠ some id := by simpa using late
        have ignores : visit.Ignores (.answer (.service (.logOut id)) (.ok visitor)) := changed
        exact drops _ _ _ ignores.follows

/-- Unlinking heeds: both of its requests are heeded as they are answered. -/
theorem heeds_unlink (address : String) : Heeds (unlink address) := by
  refine heeds_visit.bind fun before => ?_
  dsimp only
  split
  · exact heeds_pure _
  · split
    · exact heeds_pure _
    · refine heeds_askProvider_bind fun answer => ?_
      cases answer with
      | error reason => exact heeds_failUpdate _
      | ok signature => exact heeds_askService_bind rfl (observes_receiveUnlinked _ address _)

/-- What is asked on behalf of the visitor is asked if there is one. -/
theorem heeds_asVisitor {call : String → ServiceCall} {errand : Errand (Except LinkError Unit)}
    {receive : (id : String) → (call id).Answer → Errand (Except LinkError Unit)}
    (asks : errand = Errand.visit >>= fun visit => match visit.state.visitorId? with
      | none => return .error .noIdentity
      | some id => askService (call id) >>= receive id)
    (other : ∀ id, Call.isFetch (.service (call id)) = false)
    (after : ∀ id answer later, ObservesFrom Heeding (.answer (.service (call id)) answer) later
      (receive id answer) later) : Heeds errand := by
  rw [asks]
  refine heeds_visit.bind fun before => ?_
  split
  · exact heeds_pure _
  · exact heeds_askService_bind (other _) (after _)

/-- Logging in heeds. -/
theorem heeds_logIn : Heeds logIn :=
  heeds_asVisitor rfl (fun _ => rfl) fun id answer later => observes_receiveLogIn id answer later

/-- Logging out heeds. -/
theorem heeds_logOut : Heeds logOut :=
  heeds_asVisitor rfl (fun _ => rfl) fun id answer later => observes_receiveLogOut id answer later

/-- Making a wallet the primary one heeds. -/
theorem heeds_setPrimary (address : String) : Heeds (setPrimary address) :=
  heeds_asVisitor rfl (fun _ => rfl) fun id answer later =>
    observes_receivePrimary id address answer later

/-! ## Opening -/

/-- A record that was asked for is taken over whoever is loaded, and another id is remembered. -/
theorem observes_receiveVisitor (id : String) (answer : Except ApiError Visitor) (visit : Visit) :
    ObservesFrom Heeding (.answer (.service (.fetchVisitor id)) answer) visit
      (receiveVisitor id answer) visit := by
  cases answer with
  | error error => exact heeds_pure _ _ _ _ (Visit.Ignores.follows trivial)
  | ok visitor =>
      unfold receiveVisitor adopt
      dsimp only
      split
      case isTrue same =>
        exact heeding_finished ((Visit.Receives.confirmed same).follows (.refl _)) _
      case isFalse other =>
        rw [observesFrom_slots_bind]
        cases keeps : ((RememberedId.persist visitor.id).on visit.storage).1 with
        | error error =>
            have fails : ((RememberedId.persist visitor.id).on visit.storage).1 ≠ .ok () := by
              rw [keeps]
              nofun
            exact heeding_finished ((Visit.Receives.unadopted other fails).follows (.refl _)) _
        | ok done =>
            exact heeding_finished ((Visit.Receives.adopted other keeps).follows (.refl _)) _

/-- Finding out who the visitor is asks for the record of the id that the slots hold. -/
theorem observes_identify (visit : Visit) : ObservesFrom Heeding .go visit identify visit := by
  unfold identify
  rw [observesFrom_visit_bind, observesFrom_slots_bind]
  have recalled := Visit.Receives.follows (.recalled : visit.Receives .go _ _) (.refl _)
  cases found : ((RememberedId.loadOrCreate (Uuid.ofRandom visit.outside.random).hyphenated).on
      visit.storage).1 with
  | error error => exact heeding_finished recalled _
  | ok id =>
      refine ⟨⟨recalled.wanders (Visit.wanders_inquire _ _), fun id' next asks => ?_⟩,
        observes_receiveVisitor id⟩
      cases asks
      exact ⟨rfl, Prod.ext found rfl⟩

/-- Picking up a wallet after the record heeds, also where there was no record. -/
theorem heeds_pickUpWallet (result : Except AppError Visitor) : Heeds (pickUpWallet result) := by
  cases result with
  | error error => exact heeds_pure _
  | ok visitor =>
      refine heeds_detect.bind fun _ => ?_
      refine heeds_checkShown.bind fun shown => ?_
      split
      · exact heeds_link.bind fun _ => heeds_pure _
      · exact heeds_pure _

end Errand

/-! ## All operations -/

/-- Every piece of every operation heeds its cue. -/
theorem Operation.observes_heeding (operation : Operation) (visit : Visit) :
    ObservesFrom Heeding .go visit operation.errand visit := by
  have start {errand : Errand Outcome} (heeds : Heeds errand) :
      ObservesFrom Heeding .go visit errand visit := heeds _ _ _ visit.follows_go
  have renames {α : Type} {errand : Errand α} (heeds : Heeds errand) (rename : α → Outcome) :
      ObservesFrom Heeding .go visit (rename <$> errand) visit := start (heeds.map rename)
  cases operation with
  | identify => exact observes_bind (observes_identify visit) fun _ => heeds_pure _
  | bootstrap =>
      refine observes_bind (observes_bind (observes_identify visit) heeds_pickUpWallet) ?_
      exact fun _ => heeds_pure _
  | connect => exact renames heeds_connect _
  | checkShown => exact renames heeds_checkShown _
  | dropConnection => exact renames (heeds_apply rfl) _
  | link => exact renames heeds_link _
  | connectWallet => exact renames (heeds_connect.bind heeds_linkConnected) _
  | verify => exact renames heeds_verify _
  | verifyAndFollow context =>
      refine renames (heeds_verify.bind fun outcome => ?_) _
      exact heeds_of_tracks (tracks_followSwap context outcome)
  | cancelLogin =>
      refine renames (Heeds.bind (heeds_modify fun visit => ?_) fun _ => heeds_apply rfl) _
      exact Visit.wanders_of_roams .refl rfl rfl
  | disconnect => exact renames heeds_disconnect _
  | unlink address => exact renames (heeds_unlink address) _
  | setPrimary address => exact renames (heeds_setPrimary address) _
  | logIn => exact renames heeds_logIn _
  | logOut => exact renames heeds_logOut _
  | leave =>
      refine renames (heeds_logOut.bind fun outcome => ?_) _
      cases outcome with
      | error error => exact heeds_pure _
      | ok done => exact (heeds_of_tracks tracks_stopHeartbeat).bind fun _ => heeds_pure _
  | detect => exact renames heeds_detect _
  | poll attempts interval =>
      exact renames (heeds_visit.bind fun _ => heeds_pollFrom _ _ _ _ _) _
  | startSession context => exact renames (heeds_of_tracks (tracks_startSession context)) _
  | startTracking id context => exact renames (heeds_of_tracks (tracks_startTracking id context)) _
  | recordPage path => exact renames (heeds_of_tracks (tracks_recordPage path)) _
  | sendHeartbeat => exact renames (heeds_of_tracks tracks_sendHeartbeat) _
  | hidePage => exact renames (heeds_of_tracks tracks_hidePage) _
  | stopHeartbeat => exact renames (heeds_of_tracks tracks_stopHeartbeat) _
  | endTracking => exact renames (heeds_of_tracks tracks_endTracking) _
  | shutDown => exact renames (heeds_of_tracks tracks_endTracking) _

end VisitorLink
