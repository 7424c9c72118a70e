import VisitorLink.Proofs.Conduct.Connecting
import VisitorLink.Proofs.Visit.Polling

/-!
# Conduct about the message of a failed connection

A connection that failed leaves a message, and the status tells of the failure. Whatever takes the
status out of the failure clears the message too, with one exception: a look at the address that the
provider shows sets the status anew, and if it finds none it leaves the message as it is.

Main statement: every piece of every operation leaves the message and the status in agreement except
a look in vain after a failure, which sets them at odds (`observes_tidies`).
-/

namespace VisitorLink

open Errand

/-- That there is a message exactly if the status tells of a failure. -/
def Connection.Candid (connection : Connection) : Prop :=
  connection.error.isSome = true ↔ connection.status = .error

/-- That there is no message left while a connection is being made. -/
def Visit.DialsClean (visit : Visit) : Prop :=
  visit.connecting = true → visit.state.connection.error = none

/-! ## Where nothing fails -/

/-- How the message changes where nothing fails and the shown address is not looked at: it is
cleared and the status tells of no failure, or it stays and the status tells of one as before. -/
inductive Connection.Heals (before after : Connection) : Prop
  | cleared (message : after.error = none) (status : after.status ≠ .error)
  | kept (message : after.error = before.error)
      (status : after.status = .error ↔ before.status = .error)

namespace Connection

variable {first middle last : Connection}

/-- No message and no failure is candid. -/
theorem candid_of_cleared (message : first.error = none) (status : first.status ≠ .error) :
    first.Candid := by
  unfold Candid
  simp [message, status]

/-- A connection that was left alone has kept its message. -/
theorem Heals.refl (connection : Connection) : connection.Heals connection :=
  .kept rfl Iff.rfl

theorem Heals.of_eq (same : last = first) : first.Heals last :=
  same ▸ .refl first

/-- Healing twice is healing. -/
theorem Heals.trans (before : first.Heals middle) (after : middle.Heals last) :
    first.Heals last := by
  cases after with
  | cleared message status => exact .cleared message status
  | kept message status =>
      cases before with
      | cleared message' status' =>
          exact .cleared (message.trans message') fun failed => status' (status.1 failed)
      | kept message' status' => exact .kept (message.trans message') (status.trans status')

/-- What heals stays candid. -/
theorem Heals.candid (heals : first.Heals last) (candid : first.Candid) : last.Candid := by
  cases heals with
  | cleared message status => exact candid_of_cleared message status
  | kept message status =>
      unfold Candid
      rw [message, status]
      exact candid

/-- What heals brings no message. -/
theorem Heals.message (heals : first.Heals last) (clean : first.error = none) :
    last.error = none := by
  cases heals with
  | cleared message => exact message
  | kept message => exact message.trans clean

end Connection

namespace State

/-- The end of a look at the shown address leaves the message. -/
theorem finishCheck_error (state : State) :
    state.finishCheck.connection.error = state.connection.error := by
  unfold finishCheck
  split <;> rfl

/-- The end of a look does not lead out of a failure. -/
theorem heals_finishCheck (state : State) :
    state.connection.Heals state.finishCheck.connection := by
  unfold finishCheck
  by_cases checking : state.connection.status = .checking
  · rw [if_pos checking]
    refine .kept rfl ?_
    dsimp only
    split <;> simp [checking]
  · rw [if_neg checking]
    exact .refl _

/-- A status that tells of a look settles when it ends, to idle or connected. -/
theorem status_finishCheck_of_checking {state : State}
    (checking : state.connection.status = .checking) :
    state.finishCheck.connection.status = .idle ∨
      state.finishCheck.connection.status = .connected := by
  unfold finishCheck
  rw [if_pos checking]
  dsimp only
  split
  · exact .inr rfl
  · exact .inl rfl

/-- A usual change heals, whichever of them it is. -/
theorem heals_of_isUsual (state : State) {change : Change} (usual : change.isUsual = true) :
    state.connection.Heals (state.apply change).connection := by
  cases change with
  | hydrate | check | request | failConnection => cases usual
  | finishCheck => exact state.heals_finishCheck
  | connect | disconnect | cancelLogin => exact .cleared rfl nofun
  | _ => exact .kept rfl Iff.rfl

/-- A state that opens a connection is candid. -/
theorem Opens.candid {state : State} (opens : state.Opens) : state.connection.Candid := by
  cases opens with
  | unknown => exact Connection.candid_of_cleared rfl nofun
  | known visitor =>
      refine Connection.candid_of_cleared rfl fun failed => ?_
      have begins : (hydrated visitor).connection.status =
        if visitor.primaryWallet?.isSome then .connected else .idle := rfl
      rw [begins] at failed
      split at failed <;> cases failed

end State

/-- That the message of a failed connection was at most cleared, and that the making of a connection
was left alone. -/
structure Visit.Heals (before after : Visit) : Prop where
  connection : before.state.connection.Heals after.state.connection
  connecting : after.connecting = before.connecting

namespace Visit.Heals

/-- A visit with the same state and the same connecting has healed. -/
theorem of_eq {before after : Visit} (state : after.state = before.state)
    (connecting : after.connecting = before.connecting) : before.Heals after :=
  ⟨.of_eq (congrArg State.connection state), connecting⟩

theorem trans {first middle last : Visit} (before : first.Heals middle)
    (after : middle.Heals last) : first.Heals last :=
  ⟨before.connection.trans after.connection, after.connecting.trans before.connecting⟩

/-- Telling an event heals. -/
theorem emit (visit : Visit) (event : Event) : visit.Heals (visit.emit event) := by
  refine .of_eq (visit.emit_state event) ?_
  unfold Visit.emit
  split <;> rfl

/-- Healing is a frame for all that neither connects nor looks. -/
theorem frame : Visit.PlainFrame Visit.Heals where
  refl _ := .of_eq rfl rfl
  trans _ _ _ before after := before.trans after
  apply visit _ usual := ⟨visit.state.heals_of_isUsual usual, rfl⟩
  emit := emit
  attempt _ _ := .of_eq rfl rfl
  store _ _ _ := .of_eq rfl rfl
  detect _ := .of_eq rfl rfl
  ask _ _ _ := .of_eq rfl rfl

end Visit.Heals

/-- That the message was left as it is, and the making of a connection alone. -/
structure Visit.LeavesMessage (before after : Visit) : Prop where
  message : after.state.connection.error = before.state.connection.error
  connecting : after.connecting = before.connecting

/-- What a look in vain does: the message stays, and the status tells of no failure any more. -/
structure Visit.LosesTrack (before after : Visit) : Prop extends LeavesMessage before after where
  settled : after.state.connection.status = .idle ∨ after.state.connection.status = .connected

namespace Operation

/-! ## The law -/

/-- That a piece of an operation looks at the address that the provider shows. An opening does so as
soon as it has got the record, and ends with it if there is nothing to ask the service about. -/
inductive Looks : Operation → Cue → Errand.Paused Outcome → Prop
  | check (paused : Errand.Paused Outcome) : Looks .checkShown .go paused
  | opening (id : String) (answer : Except ApiError Visitor) (visitor : Visitor) :
      Looks .bootstrap (.answer (.service (.fetchVisitor id)) answer)
        (.finished (.visitor (.ok visitor)))

/-- That a piece of an operation looks at the shown address in vain, with the message of a failed
connection left. -/
structure LooksInVain (operation : Operation) (cue : Cue) (before : Visit)
    (paused : Errand.Paused Outcome) : Prop where
  looks : operation.Looks cue paused
  failed : before.state.connection.error.isSome = true
  hidden : ∀ address, ¬ before.ShowsWallet address

/-- What a piece of an operation does about the message of a failed connection. -/
structure Tidies (operation : Operation) (cue : Cue) (before : Visit)
    (piece : Errand.Paused Outcome × Visit) : Prop where
  candid : ¬ operation.LooksInVain cue before piece.1 → before.state.connection.Candid →
    piece.2.state.connection.Candid
  clean : before.DialsClean → piece.2.DialsClean
  strays : operation.LooksInVain cue before piece.1 → before.LosesTrack piece.2

variable {operation : Operation} {cue : Cue} {first visit : Visit}
  {piece : Errand.Paused Outcome × Visit}

/-- Only an operation that looks at the shown address has a piece that looks. -/
theorem Looks.looksAtShown {paused : Errand.Paused Outcome} (looks : operation.Looks cue paused) :
    operation.looksAtShown = true := by
  cases looks <;> rfl

/-- An operation that does not look cannot look in vain. -/
theorem not_looksInVain (blind : operation.looksAtShown = false) (cue : Cue) (before : Visit)
    (paused : Errand.Paused Outcome) : ¬ operation.LooksInVain cue before paused := by
  intro vain
  cases blind.symm.trans vain.looks.looksAtShown

/-- A piece that heals does all that is asked of it, if it has not looked in vain. -/
theorem tidies_of_heals (heals : first.Heals piece.2)
    (sound : ¬ operation.LooksInVain cue first piece.1) : operation.Tidies cue first piece where
  candid _ := heals.connection.candid
  clean clean connecting := heals.connection.message (clean (heals.connecting ▸ connecting))
  strays vain := absurd vain sound

/-- When no connection is being made any more, its message is one that the status tells of. -/
theorem tidies_of_ended (blind : operation.looksAtShown = false)
    (ended : piece.2.connecting = false) (candid : piece.2.state.connection.Candid) :
    operation.Tidies cue first piece where
  candid _ _ := candid
  clean _ connecting := by cases ended.symm.trans connecting
  strays vain := absurd vain (not_looksInVain blind _ _ _)

/-- A look that finds nothing is in vain only if there is a message that it could have cleared. -/
theorem tidies_of_losesTrack (looks : operation.Looks cue piece.1)
    (hidden : ∀ address, ¬ first.ShowsWallet address) (loses : first.LosesTrack piece.2) :
    operation.Tidies cue first piece where
  candid sound _ := by
    refine Connection.candid_of_cleared (loses.message.trans ?_) fun failed => ?_
    · by_contra left
      exact sound ⟨looks, Option.isSome_iff_ne_none.2 left, hidden⟩
    · rcases loses.settled with settled | settled <;> cases settled.symm.trans failed
  clean clean connecting := loses.message.trans (clean (loses.connecting ▸ connecting))
  strays _ := loses

/-- What at most clears the message from somewhere in a piece on. -/
theorem observes_of_within (blind : operation.looksAtShown = false) {Asks : Call → Prop}
    {errand : Errand Outcome} (keeps : Keeps Visit.Heals Asks (fun _ => True) errand)
    (now : ∀ piece, visit.Heals piece.2 → operation.Tidies cue first piece) :
    ObservesFrom operation.Tidies cue first errand visit :=
  .of_keepsFrom (keeps visit) (fun piece heals _ => now piece heals)
    fun _ _ _ _ heals _ => tidies_of_heals heals (not_looksInVain blind _ _ _)

/-! ## Connecting -/

section Connecting

variable {rest : Except ConnectionError String → Errand Outcome}

/-- What connects does not look at the shown address. -/
theorem AfterConnect.not_looksAtShown (after : operation.AfterConnect rest) :
    operation.looksAtShown = false := by
  cases after <;> rfl

/-- What comes after a connection keeps the message in order. -/
theorem AfterConnect.observes_tidies (after : operation.AfterConnect rest)
    (result : Except ConnectionError String)
    (now : ∀ piece, visit.Heals piece.2 → operation.Tidies cue first piece) :
    ObservesFrom operation.Tidies cue first (rest result) visit := by
  cases after with
  | connect => exact now _ (.of_eq rfl rfl)
  | connectWallet =>
      have links := Visit.Heals.frame.within_linkConnected result
      exact observes_of_within rfl (Visit.Heals.frame.within_map links Outcome.link) now

/-- However the making of a connection ends, the message and the status agree. -/
theorem AfterConnect.tidies_finishConnecting (after : operation.AfterConnect rest)
    (outcome : Except ConnectionError String) :
    ObservesFrom operation.Tidies cue first (finishConnecting outcome >>= rest) visit := by
  have ended {middle : Visit} (idle : middle.connecting = false)
      (candid : middle.state.connection.Candid) (result : Except ConnectionError String) :
      ObservesFrom operation.Tidies cue first (rest result) middle := by
    refine after.observes_tidies result fun piece heals => ?_
    exact tidies_of_ended after.not_looksAtShown (heals.connecting.trans idle)
      (heals.connection.candid candid)
  cases outcome with
  | ok address =>
      refine ended rfl ?_ _
      exact Connection.candid_of_cleared rfl nofun
  | error error =>
      refine ended rfl ?_ _
      dsimp only
      rw [Visit.emit_state]
      exact ⟨fun _ => rfl, fun _ => rfl⟩

/-- Connecting keeps the message in order, whatever comes after it. -/
theorem AfterConnect.tidies_connect (after : operation.AfterConnect rest) (visit : Visit) :
    ObservesFrom operation.Tidies .go visit (Errand.connect >>= rest) visit := by
  have blind := after.not_looksAtShown
  unfold Errand.connect
  rw [bind_assoc, observesFrom_visit_bind]
  split
  · refine after.observes_tidies _ fun piece heals => ?_
    exact tidies_of_heals heals (not_looksInVain blind _ _ _)
  · rw [bind_assoc, observesFrom_modify_bind]
    unfold requestAddress
    rw [bind_assoc, bind_assoc, observesFrom_lookForProvider_bind]
    split
    · exact after.tidies_finishConnecting (.error .providerNotDetected)
    · rw [bind_assoc, observesFrom_visit_bind]
      split
      case h_1 address shown => exact after.tidies_finishConnecting (.ok address)
      case h_2 hidden =>
        constructor
        · -- The request for accounts clears the message of an earlier attempt.
          exact ⟨fun _ _ => Connection.candid_of_cleared rfl nofun, fun _ _ => rfl,
            fun vain => absurd vain (not_looksInVain blind _ _ _)⟩
        · intro answer later
          change ObservesFrom operation.Tidies _ later
            (receiveAccounts answer >>= fun outcome => finishConnecting outcome >>= rest) later
          unfold receiveAccounts
          split
          · exact after.tidies_finishConnecting _
          · rw [bind_assoc, observesFrom_visit_bind]
            split <;> exact after.tidies_finishConnecting _

end Connecting

/-! ## Looking at the shown address -/

/-- A look connects the address that the provider shows, or it finds none. -/
theorem tidies_checkShown {rest : Option String → Errand Outcome}
    (leaves : first.LeavesMessage visit) (outside : visit.outside = first.outside)
    (found : ∀ address last, first.ShowsWallet address → first.Heals last →
      ObservesFrom operation.Tidies cue first (rest (some address)) last)
    (missed : ∀ last, (∀ address, ¬ first.ShowsWallet address) → first.LosesTrack last →
      ObservesFrom operation.Tidies cue first (rest none) last) :
    ObservesFrom operation.Tidies cue first (Errand.checkShown >>= rest) visit := by
  unfold Errand.checkShown
  rw [bind_assoc, observesFrom_apply_bind, bind_assoc, observesFrom_lookForProvider_bind,
    bind_assoc, observesFrom_shownIf_bind]
  have same : (if (visit.apply .check).outside.providerPresent then
      ((visit.apply .check).inquire .detect).shownAddress? else none) =
        if first.outside.providerPresent then first.shownAddress? else none := by
    simp only [Visit.shownAddress?, Visit.apply, Visit.inquire, outside]
  rw [same]
  cases shown : if first.outside.providerPresent then first.shownAddress? else none with
  | some address =>
      refine found address _ (shownIf_eq_some_iff.1 shown) ⟨.cleared rfl ?_, leaves.connecting⟩
      intro failed
      cases failed
  | none =>
      have hidden (address : String) (shows : first.ShowsWallet address) : False := by
        cases shown.symm.trans (shownIf_eq_some_iff.2 shows)
      refine missed _ hidden ⟨⟨?_, leaves.connecting⟩, State.status_finishCheck_of_checking rfl⟩
      refine Eq.trans ?_ leaves.message
      change (State.finishCheck _).connection.error = _
      exact State.finishCheck_error _

/-! ## Opening -/

/-- An answer about the connected address does not come with a look. -/
theorem AfterLink.tidies_receiveDecision {rest : Except LinkError LinkOutcome → Errand Outcome}
    (after : AfterLink .bootstrap rest) (id address : String)
    (answer : Except ApiError ConnectAnswer) (visit : Visit) :
    ObservesFrom (Tidies .bootstrap) (.answer (.service (.connectWallet id address)) answer) visit
      (receiveDecision id address answer >>= rest) visit := by
  have ends (result : Except LinkError LinkOutcome) {last : Visit} (heals : visit.Heals last) :
      ObservesFrom (Tidies .bootstrap) (.answer (.service (.connectWallet id address)) answer) visit
        (rest result) last := by
    cases after with
    | bootstrap visitor =>
        refine tidies_of_heals heals fun vain => ?_
        cases vain.looks
  have frame := Visit.Heals.frame
  unfold receiveDecision
  rw [bind_assoc, observesFrom_isCurrent_bind]
  split
  · exact ends _ (.of_eq rfl rfl)
  · generalize LinkDecision.ofAnswer answer = decision
    cases decision with
    | loginRequired owner =>
        exact ends _ ((frame.apply visit rfl).trans (Visit.Heals.emit _ _))
    | linked visitor => exact ends _ (frame.apply visit rfl)
    | refused reason =>
        refine ends _ (Visit.Heals.trans ?_ (Visit.Heals.emit _ _))
        exact (frame.attempt visit _).trans (frame.apply _ rfl)

/-- A link request at the end of an opening keeps the message in order. -/
theorem AfterLink.tidies_link {rest : Except LinkError LinkOutcome → Errand Outcome}
    (after : AfterLink .bootstrap rest) (heals : first.Heals visit)
    (sound : ∀ paused, ¬ LooksInVain .bootstrap cue first paused) :
    ObservesFrom (Tidies .bootstrap) cue first (Errand.link >>= rest) visit := by
  have ends (result : Except LinkError LinkOutcome) :
      ObservesFrom (Tidies .bootstrap) cue first (rest result) visit := by
    cases after with
    | bootstrap visitor => exact tidies_of_heals heals (sound _)
  unfold Errand.link
  rw [bind_assoc, observesFrom_visit_bind]
  split
  case h_2 => exact ends _
  case h_1 visitor address loaded connected =>
    split
    case h_1 => exact ends _
    case h_2 =>
      split
      · exact ends _
      · rw [bind_assoc, observesFrom_modify_bind]
        unfold requestLink
        rw [bind_assoc, observesFrom_askService_bind]
        refine ⟨tidies_of_heals (heals.trans (.of_eq rfl rfl)) (sound _), fun answer later => ?_⟩
        exact after.tidies_receiveDecision _ _ answer later

/-- Detecting the provider leaves the message, so what comes after it decides. -/
theorem tidies_detect {law : Law Outcome} {rest : Bool → Errand Outcome}
    (after : ∀ present later, visit.LeavesMessage later → later.outside = visit.outside →
      ObservesFrom law cue first (rest present) later) :
    ObservesFrom law cue first (Errand.detect >>= rest) visit := by
  unfold Errand.detect
  rw [bind_assoc, observesFrom_lookForProvider_bind, bind_assoc, observesFrom_visit_bind]
  dsimp only
  split <;> exact after _ _ ⟨rfl, rfl⟩ rfl

/-- Picking up a wallet is where an opening looks, and it may look in vain. -/
theorem tidies_pickUpWallet {id : String} {answer : Except ApiError Visitor}
    (leaves : first.LeavesMessage visit) (outside : visit.outside = first.outside)
    (visitor : Visitor) :
    ObservesFrom (Tidies .bootstrap) (.answer (.service (.fetchVisitor id)) answer) first
      (.visitor <$> pickUpWallet (.ok visitor)) visit := by
  unfold pickUpWallet
  rw [map_eq_bind, bind_assoc]
  refine tidies_detect fun present later leaves' outside' => ?_
  have reached : first.LeavesMessage later :=
    ⟨leaves'.message.trans leaves.message, leaves'.connecting.trans leaves.connecting⟩
  rw [bind_assoc]
  refine tidies_checkShown reached (outside'.trans outside) (fun address last shows heals => ?_)
    fun last hidden loses => ?_
  · dsimp only
    rw [Option.isSome_some, if_pos rfl, bind_assoc]
    exact (AfterLink.bootstrap visitor).tidies_link heals fun paused vain =>
      vain.hidden address shows
  · exact tidies_of_losesTrack (.opening id answer visitor) hidden loses

/-- Nothing is looked at before the record of the visitor has come. -/
theorem tidies_receiveVisitor (id : String) (answer : Except ApiError Visitor) (visit : Visit) :
    ObservesFrom (Tidies .bootstrap) (.answer (.service (.fetchVisitor id)) answer) visit
      (receiveVisitor id answer >>= fun result => .visitor <$> pickUpWallet result) visit := by
  have fails (error : AppError) {last : Visit} (heals : visit.Heals last) :
      ObservesFrom (Tidies .bootstrap) (.answer (.service (.fetchVisitor id)) answer) visit
        (.visitor <$> pickUpWallet (.error error)) last := by
    refine tidies_of_heals heals fun vain => ?_
    cases vain.looks
  cases answer with
  | error error => exact fails (.api error) (.of_eq rfl rfl)
  | ok visitor =>
      have loads {middle : Visit} (leaves : visit.LeavesMessage middle)
          (outside : middle.outside = visit.outside) :
          ObservesFrom (Tidies .bootstrap) (.answer (.service (.fetchVisitor id)) (.ok visitor))
            visit (.visitor <$> pickUpWallet (.ok visitor)) (middle.apply (.load visitor)) := by
        have loaded : visit.LeavesMessage (middle.apply (.load visitor)) :=
          ⟨leaves.message, leaves.connecting⟩
        exact tidies_pickUpWallet loaded outside visitor
      unfold receiveVisitor adopt
      dsimp only
      rw [bind_assoc]
      split
      · exact loads ⟨rfl, rfl⟩ rfl
      · rw [observesFrom_slots_bind]
        split
        · exact fails _ (.of_eq rfl rfl)
        · exact loads ⟨rfl, rfl⟩ rfl

/-- An opening keeps the message in order but for a look in vain. -/
theorem tidies_bootstrap (visit : Visit) :
    ObservesFrom (Tidies .bootstrap) .go visit (errand .bootstrap) visit := by
  have sound (paused : Errand.Paused Outcome) : ¬ LooksInVain .bootstrap .go visit paused :=
    fun vain => nomatch vain.looks
  rw [errand_bootstrap]
  unfold Errand.identify
  rw [bind_assoc, observesFrom_visit_bind, bind_assoc, observesFrom_slots_bind]
  split
  · exact tidies_of_heals (.of_eq rfl rfl) (sound _)
  · exact ⟨tidies_of_heals (.of_eq rfl rfl) (sound _), fun answer later =>
      tidies_receiveVisitor _ answer later⟩

/-! ## All operations -/

/-- Every piece of every operation does about the message what its law allows. -/
theorem observes_tidies (operation : Operation) (visit : Visit) :
    ObservesFrom operation.Tidies .go visit operation.errand visit := by
  by_cases connects : operation.connects = true
  · cases operation with
    | connect => exact AfterConnect.connect.tidies_connect visit
    | connectWallet =>
        rw [errand_connectWallet]
        exact AfterConnect.connectWallet.tidies_connect visit
    | _ => cases connects
  · by_cases looks : operation.looksAtShown = true
    · cases operation with
      | bootstrap => exact tidies_bootstrap visit
      | checkShown =>
          refine tidies_checkShown ⟨rfl, rfl⟩ rfl (fun address last shows heals => ?_)
            fun last hidden loses => ?_
          · exact tidies_of_heals heals fun vain => vain.hidden address shows
          · exact tidies_of_losesTrack (.check _) hidden loses
      | _ => cases looks
    · have blind := eq_false_of_ne_true looks
      have apart (before after : Visit) (apart : before.Apart after) : before.Heals after :=
        .of_eq apart.state apart.connecting
      have keeps := Visit.Heals.frame.keeps_errand apart (eq_false_of_ne_true connects) blind
      exact observes_of_within blind keeps fun piece heals =>
        tidies_of_heals heals (not_looksInVain blind _ _ _)

end Operation

end VisitorLink
