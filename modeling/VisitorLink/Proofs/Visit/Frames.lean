import VisitorLink.Proofs.Visit.Aside
import VisitorLink.Proofs.Visit.Status
import VisitorLink.Proofs.Visitor.Remembered
import VisitorLink.Visit.Operation

/-!
# Frames

The errands on the wallet and the account, those that look for the provider and those that open a
visit are made of a few kinds of steps. A relation between visits that allows for all of these is a
frame, and each piece of such an errand keeps to it, whatever the answers are and whatever happens
during the waits.

Main statements: the pieces of an operation that neither connects to the provider nor tracks pages
keep to every frame (`Visit.Frame.within_errand`), and to every plain one unless they look at the
address that the provider shows (`Visit.PlainFrame.within_errand`), those of an operation on the
session keep to the tracking of pages (`Operation.tracks_errand`), and those of an operation that
connects keep to every frame that allows for the making of a connection
(`Visit.ConnectingFrame.keeps_errand`).
-/

namespace VisitorLink

open Errand

/-- Whether a call is neither about the tracking of pages nor a request for accounts. -/
def Call.isOrdinary : Call → Bool
  | .provider .requestAccounts => false
  | call => !call.isSession

/-- An ordinary call is not about the tracking of pages. -/
theorem Call.not_isSession_of_isOrdinary {call : Call} (ordinary : call.isOrdinary = true) :
    call.isSession = false := by
  cases call with
  | provider call => rfl
  | service call => cases call <;> first | rfl | cases ordinary

/-- Whether a call asks the provider for accounts. -/
def Call.isDial : Call → Bool
  | .provider .requestAccounts => true
  | _ => false

/-- An ordinary call does not ask the provider for accounts. -/
theorem Call.not_isDial_of_isOrdinary {call : Call} (ordinary : call.isOrdinary = true) :
    call.isDial = false := by
  cases call with
  | service call => rfl
  | provider call =>
      cases call with
      | requestAccounts => cases ordinary
      | signMessage message => rfl

/-- A call about the tracking of pages goes to the service, so it does not ask for accounts. -/
theorem Call.not_isDial_of_isSession {call : Call} (session : call.isSession = true) :
    call.isDial = false := by
  cases call with
  | service call => rfl
  | provider call => cases session

/-- Whether a change may be made in the midst of an errand: it neither begins something that the
status tells of nor fails to connect nor belongs to the opening, and it connects well-formed
addresses only. -/
def Change.isUsual : Change → Bool
  | .hydrate _ | .check | .request | .failConnection _ => false
  | .connect address => decide (Address.WellFormed address)
  | _ => true

/-- A change in the midst of an errand begins nothing that the status tells of. -/
theorem Change.not_isBeginning {change : Change} (usual : change.isUsual = true) :
    change.isBeginning = false := by
  cases change <;> first | rfl | cases usual

/-- Whether a change ends a look at the address that the provider shows, which counts only if it is
well formed. -/
def Change.isEndOfCheck : Change → Bool
  | .connect address => decide (Address.WellFormed address)
  | .finishCheck => true
  | _ => false

/-- That a relation between visits allows for the steps that most errands are made of. Nothing but
the id of a visitor is put into the slots. -/
structure Visit.PlainFrame (Moves : Visit → Visit → Prop) : Prop where
  refl : ∀ visit, Moves visit visit
  trans : ∀ first middle last, Moves first middle → Moves middle last → Moves first last
  apply : ∀ visit {change : Change}, change.isUsual = true → Moves visit (visit.apply change)
  emit : ∀ visit event, Moves visit (visit.emit event)
  attempt : ∀ visit addresses, Moves visit { visit with attempted := addresses }
  store : ∀ visit {storage : Storage}, visit.storage.StoresId storage →
    Moves visit { visit with storage := storage }
  detect : ∀ visit, Moves visit (visit.inquire .detect)
  ask : ∀ visit {call : Call}, call.isOrdinary = true → Moves visit (visit.inquire (.call call))

/-- That a relation also allows for looks at the shown address, each of which is one step as a
whole. -/
structure Visit.Frame (Moves : Visit → Visit → Prop) : Prop extends PlainFrame Moves where
  check : ∀ visit {change : Change}, change.isEndOfCheck = true →
    Moves visit (((visit.apply .check).inquire .detect).apply change)

namespace Errand

/-- That all pieces of an errand keep to a frame and make ordinary calls only. -/
abbrev Within {α : Type} (Moves : Visit → Visit → Prop) (errand : Errand α) : Prop :=
  Keeps Moves (fun call => call.isOrdinary = true) (fun _ => True) errand

/-- An errand within a frame asks for nothing about the tracking of pages. -/
theorem Within.offSession {α : Type} {Moves : Visit → Visit → Prop} {errand : Errand α}
    (within : Within Moves errand) :
    Keeps Moves (fun call => call.isSession = false) (fun _ => True) errand :=
  within.mono (fun _ _ moves => moves) (fun _ => Call.not_isSession_of_isOrdinary)
    fun _ ends => ends

/-- An errand within a frame does not ask the provider for accounts. -/
theorem Within.offDial {α : Type} {Moves : Visit → Visit → Prop} {errand : Errand α}
    (within : Within Moves errand) :
    Keeps Moves (fun call => call.isDial = false) (fun _ => True) errand :=
  within.mono (fun _ _ moves => moves) (fun _ => Call.not_isDial_of_isOrdinary)
    fun _ ends => ends

end Errand

namespace Visit.PlainFrame

variable {α β : Type} {Moves : Visit → Visit → Prop} (frame : PlainFrame Moves)

include frame

/-! ## Steps -/

/-- Errands within a frame can be made one after the other. -/
theorem within_bind {errand : Errand α} {rest : α → Errand β} (within : Within Moves errand)
    (after : ∀ result, Within Moves (rest result)) : Within Moves (errand >>= rest) :=
  Keeps.bind frame.trans within fun result _ => after result

theorem within_pure (result : α) : Within Moves (pure result) :=
  keeps_done frame.refl trivial

/-- What becomes of the result of an errand makes no difference to its frame. -/
theorem within_map {errand : Errand α} (within : Within Moves errand) (rename : α → β) :
    Within Moves (rename <$> errand) :=
  frame.within_bind within fun result => frame.within_pure (rename result)

theorem within_look (read : Visit → α) : Within Moves (.look fun visit => .done (read visit)) :=
  keeps_look fun seen => frame.within_pure (read seen)

theorem within_visit : Within Moves Errand.visit :=
  frame.within_look id

omit frame in
/-- A step that changes the visit as the frame allows keeps to the frame. -/
theorem within_modify {change : Visit → Visit} (moves : ∀ visit, Moves visit (change visit)) :
    Within Moves (modify change) :=
  keeps_act moves fun _ => trivial

/-- A usual change keeps to every frame. -/
theorem within_apply {change : Change} (usual : change.isUsual = true) :
    Within Moves (Errand.apply change) :=
  within_modify fun visit => frame.apply visit usual

/-- An event may be told in every frame. -/
theorem within_emit (event : Event) : Within Moves (Errand.emit event) :=
  within_modify fun visit => frame.emit visit event

/-- A notice is an event, so it may be given in every frame. -/
theorem within_notify (level : NoticeLevel) (message : String) :
    Within Moves (notify level message) :=
  frame.within_emit _

/-- The addresses that linking was tried for may change in every frame. -/
theorem within_attempt (change : List String → List String) :
    Within Moves (modify fun visit => { visit with attempted := change visit.attempted }) :=
  within_modify fun visit => frame.attempt visit (change visit.attempted)

/-- An operation on the slots that stores nothing but ids keeps to every frame. -/
theorem within_slots {operation : StorageM α} (stores : StorageM.StoresId operation) :
    Within Moves (slots operation) :=
  keeps_act (fun visit => frame.store visit (stores visit.storage)) fun _ => trivial

/-- The provider may be looked for in every frame. -/
theorem within_lookForProvider : Within Moves lookForProvider :=
  keeps_act frame.detect fun _ => trivial

/-- An ordinary call may be made in every frame. -/
theorem within_ask {call : Call} (ordinary : call.isOrdinary = true) :
    Within Moves (Errand.ask call) :=
  fun visit => ⟨frame.ask visit ordinary, ordinary, fun _ later => ⟨frame.refl later, trivial⟩⟩

/-! ## Looking for the provider -/

/-- Detecting the provider keeps to every frame. -/
theorem within_detect : Within Moves Errand.detect := by
  refine frame.within_bind frame.within_lookForProvider fun present => ?_
  refine frame.within_bind frame.within_visit fun before => ?_
  dsimp only
  split
  · exact frame.within_bind (frame.within_apply rfl) fun _ => frame.within_pure present
  · exact frame.within_pure present

/-- The provider shows well-formed addresses only. -/
theorem keeps_shownIf (present : Bool) :
    Keeps Moves (fun call => call.isOrdinary = true)
      (fun shown => ∀ address, shown = some address → Address.WellFormed address)
      (shownIf present) := by
  refine keeps_look fun seen => keeps_done frame.refl fun address shown => ?_
  split at shown
  · exact Address.wellFormed_of_shown? shown
  · cases shown

/-- A look of polling keeps to every frame. -/
theorem within_pollOnce : Within Moves pollOnce := by
  refine frame.within_bind frame.within_visit fun before => ?_
  split
  · exact frame.within_pure _
  · refine frame.within_bind frame.within_detect fun present => ?_
    refine Keeps.bind frame.trans (frame.keeps_shownIf present) fun shown wellFormed => ?_
    split
    · refine frame.within_bind (frame.within_apply ?_) fun _ => frame.within_pure _
      exact decide_eq_true (wellFormed _ rfl)
    · exact frame.within_pure _

/-- So do all the looks that are left, by induction on their number. -/
theorem within_pollFrom (start interval attempts tick : Nat) (last : Bool) :
    Within Moves (pollFrom start interval attempts tick last) := by
  induction attempts generalizing tick last with
  | zero => exact frame.within_pure _
  | succ attempts ih =>
      refine frame.within_bind (keeps_sleep frame.refl (start + tick * interval)) fun _ => ?_
      refine frame.within_bind frame.within_pollOnce fun outcome => ?_
      split
      · exact ih _ _
      · exact frame.within_pure _

theorem within_poll (attempts interval : Nat) : Within Moves (poll attempts interval) :=
  frame.within_bind frame.within_visit fun _ => frame.within_pollFrom _ _ _ _ _

/-! ## Linking -/

/-- What the service decides about an address is carried out within every frame. -/
theorem within_applyDecision (address : String) (decision : LinkDecision) :
    Within Moves (applyDecision address decision) := by
  cases decision with
  | loginRequired owner =>
      refine frame.within_bind (frame.within_apply rfl) fun _ => ?_
      exact frame.within_bind (frame.within_emit _) fun _ => frame.within_pure _
  | linked visitor =>
      exact frame.within_bind (frame.within_apply rfl) fun _ => frame.within_pure _
  | refused reason =>
      refine frame.within_bind (frame.within_attempt (·.filter (· != address))) fun _ => ?_
      refine frame.within_bind (frame.within_apply rfl) fun _ => ?_
      exact frame.within_bind (frame.within_notify _ _) fun _ => frame.within_pure _

/-- Asking the service to link an address keeps to every frame. -/
theorem within_requestLink (id address : String) : Within Moves (requestLink id address) := by
  refine frame.within_bind (frame.within_ask rfl) fun answer => ?_
  refine frame.within_bind (frame.within_look _) fun current => ?_
  split
  · exact frame.within_pure _
  · exact frame.within_applyDecision address _

/-- Linking the connected wallet keeps to every frame. -/
theorem within_link : Within Moves Errand.link := by
  refine frame.within_bind frame.within_visit fun before => ?_
  split
  · split
    · exact frame.within_pure _
    · split
      · exact frame.within_pure _
      · refine frame.within_bind (frame.within_attempt (List.cons _)) fun _ => ?_
        exact frame.within_requestLink _ _
  · exact frame.within_pure _

/-- Linking what a connection brought keeps to every frame, also where it brought nothing. -/
theorem within_linkConnected (outcome : Except ConnectionError String) :
    Within Moves (linkConnected outcome) := by
  cases outcome with
  | error error => exact frame.within_pure _
  | ok address => exact frame.within_link

/-! ## Verifying -/

/-- A verification fails within every frame. -/
theorem within_failVerification (reason : String) : Within Moves (failVerification reason) := by
  refine frame.within_bind (frame.within_apply rfl) fun _ => ?_
  exact frame.within_bind (frame.within_notify _ _) fun _ => frame.within_pure _

/-- An accepted proof is applied within every frame, be the visitor swapped or not. -/
theorem within_applyProof (id : String) (answer : LinkAnswer) :
    Within Moves (applyProof id answer) := by
  refine frame.within_bind (frame.within_apply rfl) fun _ => ?_
  dsimp only
  split
  · exact frame.within_bind (frame.within_notify _ _) fun _ => frame.within_pure _
  · have swaps (previous : String) : Within Moves (do
        modify fun visit => { visit with attempted := [] }
        Errand.emit (.swapped previous answer.visitor.id)
        notify .success "Signed in with wallet"
        return (.ok (.swapped previous answer.visitor.id) : Except LinkError VerifyOutcome)) := by
      refine frame.within_bind (frame.within_attempt fun _ => []) fun _ => ?_
      refine frame.within_bind (frame.within_emit _) fun _ => ?_
      exact frame.within_bind (frame.within_notify _ _) fun _ => frame.within_pure _
    refine frame.within_bind frame.within_visit fun before => ?_
    split
    · have persists := RememberedId.storesId_persist answer.visitor.id
      exact frame.within_bind (frame.within_slots persists) fun _ => swaps _
    · exact swaps _

/-- A proof is submitted, and its answer applied, within every frame. -/
theorem within_submitProof (id : String) (request : LinkRequest) :
    Within Moves (submitProof id request) := by
  refine frame.within_bind (frame.within_ask rfl) fun answer => ?_
  refine frame.within_bind (frame.within_look _) fun current => ?_
  split
  · exact frame.within_pure _
  · cases answer with
    | error error => exact frame.within_failVerification _
    | ok answer => exact frame.within_applyProof id answer

/-- Prompting for a signature and submitting it keeps to every frame. -/
theorem within_prove (id address : String) (purpose : Purpose) :
    Within Moves (prove id address purpose) := by
  refine frame.within_bind frame.within_visit fun before => ?_
  refine frame.within_bind (frame.within_apply rfl) fun _ => ?_
  refine frame.within_bind (frame.within_ask rfl) fun answer => ?_
  cases answer with
  | ok signature => exact frame.within_submitProof id _
  | error reason =>
      refine frame.within_bind (frame.within_look _) fun current => ?_
      split
      · exact frame.within_pure _
      · exact frame.within_failVerification _

/-- Verifying the connected wallet keeps to every frame. -/
theorem within_verify : Within Moves Errand.verify := by
  refine frame.within_bind frame.within_visit fun before => ?_
  dsimp only
  split
  · exact frame.within_pure _
  · exact frame.within_pure _
  · split
    · exact frame.within_pure _
    · split
      · exact frame.within_pure _
      · split
        · refine frame.within_bind (frame.within_apply rfl) fun _ => ?_
          exact frame.within_bind (frame.within_notify _ _) fun _ => frame.within_pure _
        · exact frame.within_prove _ _ _

/-! ## The account -/

theorem within_failUpdate (reason : String) : Within Moves (failUpdate reason) :=
  frame.within_bind (frame.within_notify _ _) fun _ => frame.within_pure _

theorem within_cancelLogin : Within Moves Errand.cancelLogin :=
  frame.within_bind (frame.within_attempt fun _ => []) fun _ => frame.within_apply rfl

theorem within_disconnect : Within Moves Errand.disconnect :=
  frame.within_bind (frame.within_attempt fun _ => []) fun _ => frame.within_apply rfl

/-- What is asked on behalf of the visitor is asked if there is one. -/
theorem within_asVisitor {errand : String → Errand (Except LinkError α)}
    (within : ∀ id, Within Moves (errand id)) :
    Within Moves (do
      match (← Errand.visit).state.visitorId? with
      | none => return .error .noIdentity
      | some id => errand id) := by
  refine frame.within_bind frame.within_visit fun before => ?_
  split
  · exact frame.within_pure _
  · exact within _

/-- Submitting the removal of a wallet keeps to every frame. -/
theorem within_requestUnlink (id address : String) (request : UnlinkRequest) :
    Within Moves (requestUnlink id address request) := by
  refine frame.within_bind (frame.within_ask rfl) fun answer => ?_
  cases answer with
  | error error => exact frame.within_failUpdate _
  | ok visitor =>
      refine frame.within_bind (frame.within_look _) fun inTime => ?_
      split
      · exact frame.within_pure _
      · refine frame.within_bind (frame.within_attempt (·.filter (· != address))) fun _ => ?_
        refine frame.within_bind (frame.within_apply rfl) fun _ => ?_
        exact frame.within_bind (frame.within_notify _ _) fun _ => frame.within_pure _

/-- Removing a wallet keeps to every frame. -/
theorem within_unlink (address : String) : Within Moves (unlink address) := by
  refine frame.within_bind frame.within_visit fun before => ?_
  dsimp only
  split
  · exact frame.within_pure _
  · split
    · exact frame.within_pure _
    · refine frame.within_bind (frame.within_ask rfl) fun answer => ?_
      cases answer with
      | error reason => exact frame.within_failUpdate _
      | ok signature => exact frame.within_requestUnlink _ _ _

/-- Marking a wallet as primary keeps to every frame. -/
theorem within_setPrimary (address : String) : Within Moves (setPrimary address) := by
  refine frame.within_asVisitor fun id => ?_
  refine frame.within_bind (frame.within_ask rfl) fun answer => ?_
  cases answer with
  | error error => exact frame.within_failUpdate _
  | ok visitor =>
      refine frame.within_bind (frame.within_look _) fun inTime => ?_
      split
      · exact frame.within_bind (frame.within_apply rfl) fun _ => frame.within_pure _
      · exact frame.within_pure _

/-- Logging in keeps to every frame. -/
theorem within_logIn : Within Moves Errand.logIn := by
  refine frame.within_asVisitor fun id => ?_
  refine frame.within_bind (frame.within_ask rfl) fun answer => ?_
  cases answer with
  | error error => exact frame.within_bind (frame.within_notify _ _) fun _ => frame.within_pure _
  | ok visitor =>
      refine frame.within_bind (frame.within_look _) fun inTime => ?_
      split
      · exact frame.within_bind (frame.within_apply rfl) fun _ => frame.within_pure _
      · exact frame.within_pure _

/-- Logging out keeps to every frame. -/
theorem within_logOut : Within Moves Errand.logOut := by
  refine frame.within_asVisitor fun id => ?_
  refine frame.within_bind (frame.within_ask rfl) fun answer => ?_
  cases answer with
  | error error => exact frame.within_bind (frame.within_notify _ _) fun _ => frame.within_pure _
  | ok visitor =>
      have drops : Within Moves
          (Errand.disconnect >>= fun _ => pure (.ok () : Except LinkError Unit)) :=
        frame.within_bind frame.within_disconnect fun _ => frame.within_pure _
      refine frame.within_bind (frame.within_look _) fun inTime => ?_
      dsimp only
      split
      · exact frame.within_bind (frame.within_apply rfl) fun _ => drops
      · exact drops

/-! ## Opening -/

/-- Finding out who the visitor is keeps to every frame, with the ids that are stored on the way. -/
theorem within_identify : Within Moves identify := by
  refine frame.within_bind frame.within_visit fun before => ?_
  have recalls (fresh : String) := RememberedId.storesId_loadOrCreate fresh
  refine frame.within_bind (frame.within_slots (recalls _)) fun found => ?_
  split
  · exact frame.within_pure _
  · refine frame.within_bind (frame.within_ask rfl) fun answer => ?_
    cases answer with
    | error error => exact frame.within_pure _
    | ok visitor =>
        have adopts (id : String) : Within Moves (adopt id visitor) := by
          unfold adopt
          split
          · exact frame.within_pure _
          · exact frame.within_slots (RememberedId.storesId_persist _)
        refine frame.within_bind (adopts _) fun kept => ?_
        split
        · exact frame.within_pure _
        · exact frame.within_bind (frame.within_apply rfl) fun _ => frame.within_pure _

end Visit.PlainFrame

/-! ## Looking at the shown address -/

namespace Visit.Frame

variable {Moves : Visit → Visit → Prop} (frame : Frame Moves)

include frame

/-- A look at the shown address never waits, so that no piece ends in the midst of it. -/
theorem within_checkShown : Within Moves checkShown := by
  intro visit
  rw [checkShown, keepsFrom_apply_bind, keepsFrom_lookForProvider_bind, keepsFrom_shownIf_bind]
  split
  case h_1 address shown =>
    refine ⟨frame.check visit (decide_eq_true ?_), trivial⟩
    split at shown
    · exact Address.wellFormed_of_shown? shown
    · cases shown
  case h_2 => exact ⟨frame.check visit rfl, trivial⟩

/-- Picking up a wallet that the provider shows keeps to every frame that allows for such a look. -/
theorem within_pickUpWallet (result : Except AppError Visitor) :
    Within Moves (pickUpWallet result) := by
  cases result with
  | error error => exact frame.within_pure _
  | ok visitor =>
      refine frame.within_bind frame.within_detect fun _ => ?_
      refine frame.within_bind frame.within_checkShown fun shown => ?_
      split
      · exact frame.within_bind frame.within_link fun _ => frame.within_pure _
      · exact frame.within_pure _

/-- Opening a visit keeps to every frame. -/
theorem within_bootstrap : Within Moves bootstrap :=
  frame.within_bind frame.within_identify fun result => frame.within_pickUpWallet result

end Visit.Frame

/-! ## Operations -/

namespace Operation

/-- Whether an operation connects to the provider, asking for accounts if it must. -/
def connects : Operation → Bool
  | .connect | .connectWallet => true
  | _ => false

/-- Whether an operation looks at the address that the provider shows, and takes none for the end of
the look only. -/
def looksAtShown : Operation → Bool
  | .bootstrap | .checkShown => true
  | _ => false

/-- Whether an operation is about the tracking of pages only. -/
def isOnSession : Operation → Bool
  | .startSession _ | .startTracking _ _ | .recordPage _ | .sendHeartbeat | .hidePage
  | .stopHeartbeat | .endTracking | .shutDown => true
  | _ => false

/-- Whether the session is followed at the end of an operation about something else. -/
def followsSession : Operation → Bool
  | .verifyAndFollow _ | .leave => true
  | _ => false

/-- The pieces of an operation on the session keep to the tracking of pages. -/
theorem tracks_errand {operation : Operation} (session : operation.isOnSession = true) :
    Tracks (fun _ => True) operation.errand := by
  have renamed {α : Type} {errand : Errand α} (tracks : Tracks (fun _ => True) errand)
      (rename : α → Outcome) : Tracks (fun _ => True) (rename <$> errand) :=
    tracks.bind fun _ _ => tracks_done trivial
  cases operation with
  | startSession context => exact renamed (tracks_startSession context) _
  | startTracking id context => exact renamed (tracks_startTracking id context) _
  | recordPage path => exact renamed (tracks_recordPage path) _
  | sendHeartbeat => exact renamed tracks_sendHeartbeat _
  | hidePage => exact renamed tracks_hidePage _
  | stopHeartbeat => exact renamed tracks_stopHeartbeat _
  | endTracking => exact renamed tracks_endTracking _
  | shutDown => exact renamed tracks_endTracking _
  | _ => cases session

end Operation

namespace Visit.PlainFrame

variable {Moves : Visit → Visit → Prop} (frame : PlainFrame Moves) {operation : Operation}

include frame

/-- The pieces of an operation that neither connects nor tracks pages keep to every plain frame,
unless they look at the shown address. -/
theorem within_errand (other : operation.connects = false) (aside : operation.isOnSession = false)
    (follows : operation.followsSession = false) (blind : operation.looksAtShown = false) :
    Within Moves operation.errand := by
  cases operation with
  | identify => exact frame.within_map frame.within_identify _
  | dropConnection => exact frame.within_map (frame.within_apply rfl) _
  | link => exact frame.within_map frame.within_link _
  | verify => exact frame.within_map frame.within_verify _
  | cancelLogin => exact frame.within_map frame.within_cancelLogin _
  | disconnect => exact frame.within_map frame.within_disconnect _
  | unlink address => exact frame.within_map (frame.within_unlink address) _
  | setPrimary address => exact frame.within_map (frame.within_setPrimary address) _
  | logIn => exact frame.within_map frame.within_logIn _
  | logOut => exact frame.within_map frame.within_logOut _
  | detect => exact frame.within_map frame.within_detect _
  | poll attempts interval => exact frame.within_map (frame.within_poll attempts interval) _
  | bootstrap | checkShown => cases blind
  | connect | connectWallet => cases other
  | verifyAndFollow | leave => cases follows
  | _ => cases aside

/-- All operations but those that connect or look at the shown address keep to a frame that leaves
out what tracks pages. -/
theorem keeps_errand (apart : ∀ before after : Visit, before.Apart after → Moves before after)
    (other : operation.connects = false) (blind : operation.looksAtShown = false) :
    Keeps Moves (fun call => call.isDial = false) (fun _ => True) operation.errand := by
  have aside {α : Type} {Ends : α → Prop} {errand : Errand α} (tracks : Tracks Ends errand) :
      Keeps Moves (fun call => call.isDial = false) (fun _ => True) errand :=
    tracks.mono apart (fun _ => Call.not_isDial_of_isSession) fun _ _ => trivial
  cases session : operation.isOnSession with
  | true => exact aside (Operation.tracks_errand session)
  | false =>
      cases follows : operation.followsSession with
      | false => exact (frame.within_errand other session follows blind).offDial
      | true =>
          cases operation with
          | verifyAndFollow context =>
              rw [Operation.errand_verifyAndFollow]
              refine Keeps.bind frame.trans frame.within_verify.offDial fun result _ => ?_
              have tracks : Tracks (fun _ => True) (Outcome.verify <$> followSwap context result) :=
                (tracks_followSwap context result).bind fun _ _ => tracks_done trivial
              exact aside tracks
          | leave =>
              rw [Operation.errand_leave]
              refine Keeps.bind frame.trans frame.within_logOut.offDial fun result _ => ?_
              have tracks : Tracks (fun _ => True) (Outcome.account <$> followLogOut result) :=
                (tracks_followLogOut result).bind fun _ _ => tracks_done trivial
              exact aside tracks
          | _ => cases follows

end Visit.PlainFrame

namespace Visit.Frame

variable {Moves : Visit → Visit → Prop} (frame : Frame Moves) {operation : Operation}

include frame

/-- An operation that looks at the shown address keeps to every frame. -/
theorem within_looking (looks : operation.looksAtShown = true) : Within Moves operation.errand := by
  cases operation with
  | bootstrap => exact frame.within_map frame.within_bootstrap _
  | checkShown => exact frame.within_map frame.within_checkShown _
  | _ => cases looks

/-- The pieces of an operation that neither connects nor tracks pages keep to every frame. -/
theorem within_errand (other : operation.connects = false) (aside : operation.isOnSession = false)
    (follows : operation.followsSession = false) : Within Moves operation.errand := by
  cases looks : operation.looksAtShown with
  | false => exact frame.toPlainFrame.within_errand other aside follows looks
  | true => exact frame.within_looking looks

/-- All operations but those that connect keep to a frame that leaves out what tracks pages. -/
theorem keeps_errand (apart : ∀ before after : Visit, before.Apart after → Moves before after)
    (other : operation.connects = false) :
    Keeps Moves (fun call => call.isDial = false) (fun _ => True) operation.errand := by
  cases looks : operation.looksAtShown with
  | false => exact frame.toPlainFrame.keeps_errand apart other looks
  | true => exact (frame.within_looking looks).offDial

end Visit.Frame

/-! ## Connecting -/

/-- That a frame also allows for the steps of which the making of a connection is made. -/
structure Visit.ConnectingFrame (Moves : Visit → Visit → Prop) : Prop extends Frame Moves where
  connecting : ∀ (visit : Visit) (flag : Bool), Moves visit { visit with connecting := flag }
  request : ∀ visit, Moves visit (visit.apply .request)
  fail : ∀ visit message, Moves visit (visit.apply (.failConnection message))
  dial : ∀ visit, Moves visit (visit.inquire (.call (.provider .requestAccounts)))

namespace Visit.ConnectingFrame

variable {Moves : Visit → Visit → Prop} (frame : ConnectingFrame Moves)

include frame

/-- Only a well-formed address comes of asking for accounts. -/
theorem keeps_receiveAccounts (answer : AccountsAnswer) :
    Keeps Moves (fun call => call.isSession = false)
      (fun outcome => ∀ address, outcome = .ok address → Address.WellFormed address)
      (receiveAccounts answer) := by
  unfold receiveAccounts
  split
  · exact keeps_done frame.refl nofun
  · refine Keeps.bind frame.trans frame.within_visit.offSession fun before _ => ?_
    split
    case h_1 address shown =>
      refine keeps_done frame.refl fun _ same => ?_
      cases same
      exact Address.wellFormed_of_shown? shown
    case h_2 => exact keeps_done frame.refl nofun

/-- A request for an address keeps to every frame that allows for connecting, and brings a
well-formed address or none. -/
theorem keeps_requestAddress :
    Keeps Moves (fun call => call.isSession = false)
      (fun outcome => ∀ address, outcome = .ok address → Address.WellFormed address)
      requestAddress := by
  refine Keeps.bind frame.trans frame.within_lookForProvider.offSession fun present _ => ?_
  split
  · exact keeps_done frame.refl nofun
  · refine Keeps.bind frame.trans frame.within_visit.offSession fun before _ => ?_
    split
    case h_1 address shown =>
      refine keeps_done frame.refl fun _ same => ?_
      cases same
      exact Address.wellFormed_of_shown? shown
    case h_2 =>
      have requests : Within Moves (Errand.apply .request) := PlainFrame.within_modify frame.request
      refine Keeps.bind frame.trans requests.offSession fun _ _ => ?_
      have asks : Keeps Moves (fun call => call.isSession = false) (fun _ => True)
          (askProvider .requestAccounts) :=
        fun visit => ⟨frame.dial visit, rfl, fun _ later => ⟨frame.refl later, trivial⟩⟩
      exact Keeps.bind frame.trans asks fun answer _ => frame.keeps_receiveAccounts answer

/-- A connection ends within every frame that allows for connecting, if its address is well formed.
-/
theorem within_finishConnecting {outcome : Except ConnectionError String}
    (wellFormed : ∀ address, outcome = .ok address → Address.WellFormed address) :
    Within Moves (finishConnecting outcome) := by
  have settles : Within Moves (settleConnection outcome) := by
    cases outcome with
    | ok address => exact frame.within_apply (decide_eq_true (wellFormed address rfl))
    | error error =>
        have fails : Within Moves (Errand.apply (.failConnection error.message)) :=
          PlainFrame.within_modify fun visit => frame.fail visit error.message
        exact frame.within_bind fails fun _ => frame.within_notify _ _
  refine frame.within_bind settles fun _ => ?_
  have ends : Within Moves (modify fun visit => { visit with connecting := false }) :=
    PlainFrame.within_modify fun visit => frame.connecting visit false
  exact frame.within_bind ends fun _ => frame.within_pure _

/-- Connecting keeps to every frame that allows for it. -/
theorem keeps_connect :
    Keeps Moves (fun call => call.isSession = false) (fun _ => True) Errand.connect := by
  refine Keeps.bind frame.trans frame.within_visit.offSession fun before _ => ?_
  split
  · exact keeps_done frame.refl trivial
  · have begins : Within Moves (modify fun visit => { visit with connecting := true }) :=
      PlainFrame.within_modify fun visit => frame.connecting visit true
    refine Keeps.bind frame.trans begins.offSession fun _ _ => ?_
    refine Keeps.bind frame.trans frame.keeps_requestAddress fun outcome wellFormed => ?_
    exact (frame.within_finishConnecting wellFormed).offSession

/-- The operations that connect keep to the frame as well. -/
theorem keeps_errand {operation : Operation} (connects : operation.connects = true) :
    Keeps Moves (fun call => call.isSession = false) (fun _ => True) operation.errand := by
  cases operation with
  | connect =>
      exact Keeps.bind frame.trans frame.keeps_connect fun _ _ => keeps_done frame.refl trivial
  | connectWallet =>
      rw [Operation.errand_connectWallet]
      refine Keeps.bind frame.trans frame.keeps_connect fun outcome _ => ?_
      exact (frame.within_map (frame.within_linkConnected outcome) Outcome.link).offSession
  | _ => cases connects

end Visit.ConnectingFrame

end VisitorLink
