import VisitorLink.Proofs.Visit.Journal

/-!
# Sessions of one visitor

A tracker is silent about a visitor if it is not theirs and sends no heartbeat of theirs. From then
on no inquiry is about a session of that visitor, until the tracker takes them up again.

Main statement: this is so in every piece of what tracks pages, except where the session of that
very visitor is to be started (`hushed_startTracking` and the others).
-/

namespace VisitorLink

open Errand

/-! ## Inquiries about a session -/

/-- Whether a call is about a session of a visitor. -/
def Call.isAboutSession (id : String) : Call → Bool
  | .service asked => (Call.service asked).isSession && asked.visitor == id
  | .provider _ => false

/-- Whether a call starts a session of a visitor. -/
def Call.startsSession (id : String) : Call → Bool
  | .service (.startSession started _) => started == id
  | _ => false

namespace Inquiry

/-- Whether an inquiry is about a session of a visitor. -/
def isAboutSession (id : String) : Inquiry → Bool
  | .call asked => asked.isAboutSession id
  | .detect => false
  | .endBeacon ended => ended == id

/-- Whether an inquiry starts a session of a visitor. -/
def startsSession (id : String) : Inquiry → Bool
  | .call asked => asked.startsSession id
  | _ => false

/-- Whether an inquiry ends a session of a visitor. -/
def endsSession (id : String) : Inquiry → Bool
  | .endBeacon ended => ended == id
  | .call (.service (.endSession ended)) => ended == id
  | _ => false

/-- An inquiry off the sessions is about no visitor's session. -/
theorem not_isAboutSession {inquiry : Inquiry} (other : inquiry.isSession = false) (id : String) :
    inquiry.isAboutSession id = false := by
  cases inquiry with
  | call asked =>
      cases asked with
      | provider call => rfl
      | service call =>
          exact Bool.and_eq_false_imp.2 fun session => nomatch other.symm.trans session
  | detect => rfl
  | endBeacon ended => cases other

end Inquiry

/-! ## Silence -/

/-- That a tracker is not that of a visitor and sends no heartbeat of theirs. -/
structure Tracker.Silent (tracker : Tracker) (id : String) : Prop where
  visitor : tracker.visitor ≠ some id
  heartbeat : ∀ heartbeat, tracker.heartbeat = some heartbeat → heartbeat.visitor ≠ id

/-- A tracker without a heartbeat is silent about every other visitor. -/
theorem Tracker.Silent.of_still {tracker : Tracker} {id : String}
    (visitor : tracker.visitor ≠ some id) (still : tracker.heartbeat = none) :
    tracker.Silent id where
  visitor := visitor
  heartbeat _ beats := nomatch still.symm.trans beats

/-- That a visit that is silent about a visitor stays so and makes no inquiry about their
session. -/
def Visit.Hushes (id : String) (before after : Visit) : Prop :=
  before.tracker.Silent id → after.tracker.Silent id ∧
    Inquires (fun inquiry => inquiry.isAboutSession id = false) before after

namespace Visit.Hushes

variable {id : String} {first middle last before after : Visit}

/-- Silence can be chained. -/
theorem trans (before : first.Hushes id middle) (after : middle.Hushes id last) :
    first.Hushes id last := by
  intro silent
  obtain ⟨silent', inquires⟩ := before silent
  obtain ⟨silent'', inquires'⟩ := after silent'
  exact ⟨silent'', inquires.trans inquires'⟩

/-- Where nothing is added to the journal, only the tracker matters. -/
theorem of_journal (silent : before.tracker.Silent id → after.tracker.Silent id)
    (journal : after.journal = before.journal) : before.Hushes id after :=
  fun calm => ⟨silent calm, inquires_of_eq journal⟩

theorem refl (visit : Visit) : visit.Hushes id visit :=
  .of_journal (fun silent => silent) rfl

/-- What does not track pages breaks no silence. -/
theorem of_untracked (untracked : before.Untracked after) : before.Hushes id after := by
  intro silent
  refine ⟨untracked.tracker ▸ silent, untracked.inquires.mono fun inquiry other => ?_⟩
  exact Inquiry.not_isAboutSession other id

/-- An inquiry about the session of another visitor. -/
theorem inquire {visit : Visit} {inquiry : Inquiry}
    (other : visit.tracker.Silent id → inquiry.isAboutSession id = false) :
    visit.Hushes id (visit.inquire inquiry) :=
  fun silent => ⟨silent, inquires_inquire visit (other silent)⟩

end Visit.Hushes

namespace Errand

variable {α β : Type} {id : String}

/-- That no piece of an errand breaks the silence about a visitor. -/
abbrev Hushed (id : String) (errand : Errand α) : Prop :=
  Keeps (Visit.Hushes id) (fun _ => True) (fun _ => True) errand

/-- An errand that does not track pages breaks no silence. -/
theorem Untracks.hushed {errand : Errand α} (untracks : Untracks errand) : Hushed id errand :=
  untracks.mono (fun _ _ => .of_untracked) (fun _ _ => trivial) fun _ ends => ends

/-- One errand after another breaks no silence if neither does. -/
theorem Hushed.bind {errand : Errand α} {rest : α → Errand β} (hushed : Hushed id errand)
    (after : ∀ result, Hushed id (rest result)) : Hushed id (errand >>= rest) :=
  Keeps.bind (fun _ _ _ => .trans) hushed fun result _ => after result

/-- An errand that is done breaks no silence. -/
theorem hushed_pure (result : α) : Hushed id (pure result) :=
  (untracks_pure result).hushed

theorem Hushed.map {errand : Errand α} (hushed : Hushed id errand) (rename : α → β) :
    Hushed id (rename <$> errand) :=
  hushed.bind fun result => hushed_pure (rename result)

/-- A change of the tracker breaks no silence if it keeps the tracker silent. -/
theorem hushed_track {change : Tracker → Tracker}
    (silent : ∀ tracker, tracker.Silent id → (change tracker).Silent id) :
    Hushed id (track change) :=
  keeps_act (fun visit => .of_journal (silent visit.tracker) rfl) fun _ => trivial

/-- A call about the session of another visitor. -/
theorem hushed_ask {asked : Call} (other : asked.isAboutSession id = false) :
    Hushed id (ask asked) :=
  fun _ => ⟨.inquire fun _ => other, trivial, fun _ later => ⟨.refl later, trivial⟩⟩

/-! ## The tracking of pages -/

/-- Stopping the heartbeat breaks no silence. -/
theorem hushed_stopHeartbeat : Hushed id stopHeartbeat :=
  hushed_track fun _ silent => .of_still silent.visitor rfl

/-- The heartbeat of another visitor breaks no silence. -/
theorem hushed_startHeartbeat {started : String} (other : started ≠ id) :
    Hushed id (startHeartbeat started) := by
  refine untracks_visit.hushed.bind fun before => hushed_track fun tracker silent => ?_
  exact ⟨silent.visitor, by rintro _ ⟨⟩; exact other⟩

/-- A page is recorded for the tracked visitor only. -/
theorem hushed_recordPage (path : String) : Hushed id (recordPage path) := by
  intro visit
  rw [recordPage, keepsFrom_visit_bind]
  dsimp only
  cases known : visit.tracker.visitor with
  | none => exact hushed_pure false visit
  | some viewer =>
      dsimp only
      split
      · exact hushed_pure false visit
      · have views : visit.Hushes id { visit with tracker.lastPath := some path } :=
          .of_journal (fun silent => ⟨silent.visitor, silent.heartbeat⟩) rfl
        refine ⟨views.trans (.inquire fun silent => ?_), trivial, fun _ later => ?_⟩
        · exact beq_false_of_ne fun same => silent.visitor (known.trans (congrArg some same))
        · exact hushed_pure true later

/-- A heartbeat is sent for the tracked visitor only. -/
theorem hushed_sendHeartbeat : Hushed id sendHeartbeat := by
  intro visit
  rw [sendHeartbeat, keepsFrom_visit_bind]
  dsimp only
  cases known : visit.tracker.visitor with
  | none => exact hushed_pure false visit
  | some viewer =>
      dsimp only
      split
      · exact hushed_pure false visit
      · refine ⟨.inquire fun silent => ?_, trivial, fun _ later => hushed_pure true later⟩
        exact beq_false_of_ne fun same => silent.visitor (known.trans (congrArg some same))

/-- Hiding the page tells the end of the tracked visitor's session only. -/
theorem hushed_hidePage : Hushed id hidePage := by
  refine untracks_visit.hushed.bind fun before => ?_
  split
  · exact hushed_pure false
  · exact hushed_sendHeartbeat

/-- A session is closed that is not that of the visitor, if the visit is silent about them. -/
theorem keepsFrom_close_bind {closed : String} {rest : Unit → Errand β} {first visit : Visit}
    (hushes : first.Hushes id visit) (other : first.tracker.Silent id → closed ≠ id)
    (after : Hushed id (rest ())) :
    KeepsFrom (Visit.Hushes id) (fun _ => True) (fun _ => True) first (close closed >>= rest)
      visit := by
  have inquires {inquiry : Inquiry} (about : inquiry.isAboutSession id = (closed == id)) :
      first.Hushes id (visit.inquire inquiry) := by
    intro silent
    obtain ⟨silent', inquires⟩ := hushes silent
    refine ⟨silent', inquires.trans (Visit.inquires_inquire visit ?_)⟩
    exact about.trans (beq_false_of_ne (other silent))
  change KeepsFrom _ _ _ first ((if visit.outside.sendsBeacons = true then
    modify fun visit => visit.inquire (.endBeacon closed)
    else do let _ ← askService (.endSession closed)) >>= rest) visit
  split
  · exact (after _).from_earlier (fun _ _ _ => .trans) (inquires rfl)
  · exact ⟨inquires (Bool.true_and _), trivial, fun _ later => after later⟩

/-- Ending the tracking tells the end of the tracked visitor's session only. -/
theorem hushed_endTracking : Hushed id endTracking := by
  intro visit
  rw [endTracking, keepsFrom_visit_bind]
  dsimp only
  split
  · exact hushed_pure false visit
  · rw [keepsFrom_track_bind]
    have ends : visit.Hushes id
        { visit with tracker := { visit.tracker with ended := true, heartbeat := none } } :=
      .of_journal (fun silent => .of_still silent.visitor rfl) rfl
    split
    case h_1 unknown => exact (hushed_pure false _).from_earlier (fun _ _ _ => .trans) ends
    case h_2 viewer known =>
      refine keepsFrom_close_bind ends (fun silent same => ?_) (hushed_pure true)
      exact silent.visitor (known.trans (congrArg some same))

/-- Operations on the slots do not track pages. -/
theorem untracks_slots (operation : StorageM α) : Untracks (slots operation) :=
  keeps_act (fun _ => .of_eq rfl rfl) fun _ => trivial

/-- Taking the first referrer does not track pages. -/
theorem untracks_takeReferrer : Untracks takeReferrer := by
  refine untracks_visit.bind fun before => ?_
  split
  · exact untracks_pure none
  · refine (untracks_slots _).bind fun found => ?_
    split
    · exact (untracks_slots _).bind fun _ => untracks_pure _
    · exact untracks_pure none

/-- Starting the session of another visitor breaks no silence. -/
theorem hushed_requestStart {started : String} (other : started ≠ id) (context : PageContext) :
    Hushed id (requestStart started context) := by
  refine untracks_takeReferrer.hushed.bind fun referrer => ?_
  have asks (request : StartRequest) : Hushed id (askService (.startSession started request)) :=
    hushed_ask ((Bool.true_and _).trans (beq_false_of_ne other))
  refine (asks _).bind fun answer => ?_
  split
  · refine Hushed.bind (hushed_track fun tracker silent => ?_) fun _ => hushed_pure false
    split
    · exact ⟨nofun, silent.heartbeat⟩
    · exact silent
  · refine (hushed_startHeartbeat other).bind fun _ => ?_
    exact (hushed_recordPage _).bind fun _ => hushed_pure true

/-- What is left of the start of a session when the former one was closed. -/
def reopen (started : String) (context : PageContext) : Errand Bool := do
  track fun tracker => { tracker with ended := false }
  requestStart started context

/-- Going on with the start after the former session was closed breaks no silence. -/
theorem hushed_reopen {started : String} (other : started ≠ id) (context : PageContext) :
    Hushed id (reopen started context) :=
  Hushed.bind (hushed_track fun _ silent => ⟨silent.visitor, silent.heartbeat⟩) fun _ =>
    hushed_requestStart other context

/-- Starting to track another visitor breaks no silence. -/
theorem hushed_startTracking {started : String} (other : started ≠ id) (context : PageContext) :
    Hushed id (startTracking started context) := by
  intro visit
  rw [startTracking, keepsFrom_visit_bind]
  dsimp only
  split
  · exact hushed_pure false visit
  · let taken : Tracker :=
      { visit.tracker with heartbeat := none, lastPath := none, visitor := some started }
    have takes (ended : Bool) :
        visit.Hushes id { visit with tracker := { taken with ended := ended } } :=
      .of_journal (fun _ => .of_still (fun same => other (Option.some.inj same)) rfl) rfl
    have reopens := hushed_reopen other context
    rw [keepsFrom_track_bind]
    cases known : visit.tracker.visitor with
    | none => exact (reopens _).from_earlier (fun _ _ _ => .trans) (takes _)
    | some previous =>
        dsimp only
        rw [keepsFrom_track_bind]
        split
        · refine keepsFrom_close_bind (takes true) (fun silent same => ?_) reopens
          exact silent.visitor (known.trans (congrArg some same))
        · exact (reopens _).from_earlier (fun _ _ _ => .trans) (takes true)

end Errand

end VisitorLink
