import Mathlib.Logic.Relation
import VisitorLink.Proofs.Visit.Linking

/-!
# Tracking and polling beside the wallet

The operations that track the pages of a session leave the state of the visit, the addresses tried,
the making of a connection and the events alone, in every piece of them, and all that they do to the
slots is to take the first referrer out of the cookies. Looking for the provider changes the state
quietly, in every look.
-/

namespace VisitorLink

/-- That slots became others by nothing but taking the first referrer out of the cookies. -/
def Storage.LosesReferrer : Storage → Storage → Prop :=
  Relation.ReflTransGen fun before after => after = (before.removeText .cookies referrerKey).2

/-- That one visit came from another by what the tracking of pages may change: the tracker, the
first referrer in the cookies and the journal. -/
structure Visit.Apart (before after : Visit) : Prop where
  settings : after.settings = before.settings
  state : after.state = before.state
  attempted : after.attempted = before.attempted
  connecting : after.connecting = before.connecting
  events : after.events = before.events
  storage : before.storage.LosesReferrer after.storage

namespace Visit.Apart

/-- A visit that differs from another one in nothing but the tracker, the journal and the outside. -/
theorem of_eq {before after : Visit} (settings : after.settings = before.settings)
    (state : after.state = before.state) (attempted : after.attempted = before.attempted)
    (connecting : after.connecting = before.connecting) (events : after.events = before.events)
    (storage : after.storage = before.storage) : before.Apart after where
  settings := settings
  state := state
  attempted := attempted
  connecting := connecting
  events := events
  storage := storage ▸ .refl

/-- A visit stands apart from itself. -/
theorem refl (visit : Visit) : visit.Apart visit :=
  of_eq rfl rfl rfl rfl rfl rfl

/-- What happens apart may be followed by more of it. -/
theorem trans (first middle last : Visit) (before : first.Apart middle)
    (after : middle.Apart last) : first.Apart last where
  settings := after.settings.trans before.settings
  state := after.state.trans before.state
  attempted := after.attempted.trans before.attempted
  connecting := after.connecting.trans before.connecting
  events := after.events.trans before.events
  storage := before.storage.trans after.storage

/-- An inquiry leaves all but the journal alone. -/
theorem inquire (visit : Visit) (inquiry : Inquiry) : visit.Apart (visit.inquire inquiry) :=
  of_eq rfl rfl rfl rfl rfl rfl

end Visit.Apart

/-- Whether a call is about the tracking of pages. -/
def Call.isSession : Call → Bool
  | .service (.startSession _ _) | .service (.recordPage _ _) | .service (.heartbeat _)
  | .service (.endSession _) => true
  | _ => false

namespace Errand

variable {α β : Type}

/-- That all pieces of an errand keep to the tracking of pages, and what it may end with. -/
abbrev Tracks (Ends : α → Prop) (errand : Errand α) : Prop :=
  Keeps Visit.Apart (fun call => call.isSession = true) Ends errand

/-- Errands on the tracking of pages can be made one after the other, where the second one starts
from a result that the first one allows. -/
theorem Tracks.bind {Ends : α → Prop} {Ends' : β → Prop} {errand : Errand α}
    {rest : α → Errand β} (tracks : Tracks Ends errand)
    (after : ∀ result, Ends result → Tracks Ends' (rest result)) :
    Tracks Ends' (errand >>= rest) :=
  Keeps.bind Visit.Apart.trans tracks after

theorem tracks_done {Ends : α → Prop} {result : α} (allowed : Ends result) :
    Tracks Ends (.done result) :=
  keeps_done Visit.Apart.refl allowed

theorem tracks_visit : Tracks (fun _ => True) visit :=
  keeps_look fun _ => tracks_done trivial

/-- The tracker may change in any way. -/
theorem tracks_track (change : Tracker → Tracker) : Tracks (fun _ => True) (track change) :=
  keeps_act (fun _ => .of_eq rfl rfl rfl rfl rfl rfl) fun _ => trivial

/-- Reading a slot is no more than a look at it. -/
theorem tracks_slots_get (slot : Slot) (key : String) :
    Tracks (fun _ => True) (slots (StorageM.get slot key)) :=
  keeps_act (fun _ => .of_eq rfl rfl rfl rfl rfl rfl) fun _ => trivial

/-- The first referrer may be removed from the cookies. -/
theorem tracks_slots_removeReferrer :
    Tracks (fun _ => True) (slots (StorageM.remove .cookies referrerKey)) :=
  keeps_act (fun _ => ⟨rfl, rfl, rfl, rfl, rfl, .single rfl⟩) fun _ => trivial

/-- The tracking of pages makes calls about sessions. -/
theorem tracks_ask {asked : Call} (session : asked.isSession = true) :
    Tracks (fun _ => True) (ask asked) :=
  keeps_ask Visit.Apart.inquire Visit.Apart.refl session

/-! ## Tracking -/

/-- Stopping the heartbeat changes the tracker only. -/
theorem tracks_stopHeartbeat : Tracks (fun _ => True) stopHeartbeat :=
  tracks_track _

/-- So does starting one. -/
theorem tracks_startHeartbeat (id : String) : Tracks (fun _ => True) (startHeartbeat id) :=
  tracks_visit.bind fun _ _ => tracks_track _

/-- A page that is viewed is noted in the tracker and told to the service. -/
theorem tracks_recordPage (path : String) : Tracks (fun _ => True) (recordPage path) := by
  refine tracks_visit.bind fun before _ => ?_
  dsimp only
  cases before.tracker.visitor with
  | none => exact tracks_done trivial
  | some id =>
      dsimp only
      split
      · exact tracks_done trivial
      · refine (tracks_track _).bind fun _ _ => ?_
        exact (tracks_ask rfl).bind fun _ _ => tracks_done trivial

/-- A heartbeat that is sent by hand is a call about the session. -/
theorem tracks_sendHeartbeat : Tracks (fun _ => True) sendHeartbeat := by
  refine tracks_visit.bind fun before _ => ?_
  dsimp only
  cases before.tracker.visitor with
  | none => exact tracks_done trivial
  | some id =>
      dsimp only
      split
      · exact tracks_done trivial
      · exact (tracks_ask rfl).bind fun _ _ => tracks_done trivial

/-- Hiding the page sends a heartbeat at most. -/
theorem tracks_hidePage : Tracks (fun _ => True) hidePage := by
  refine tracks_visit.bind fun before _ => ?_
  split
  · exact tracks_done trivial
  · exact tracks_sendHeartbeat

/-- The end of a session is told with or without waiting for an answer, and nothing else is done. -/
theorem tracks_close (id : String) : Tracks (fun _ => True) (close id) := by
  refine tracks_visit.bind fun before _ => ?_
  split
  · exact keeps_act (fun visit => .inquire visit _) fun _ => trivial
  · exact (tracks_ask rfl).bind fun _ _ => tracks_done trivial

/-- Taking the first referrer out of the cookies changes nothing else. -/
theorem tracks_takeReferrer : Tracks (fun _ => True) takeReferrer := by
  refine tracks_visit.bind fun before _ => ?_
  split
  · exact tracks_done trivial
  · refine (tracks_slots_get .cookies referrerKey).bind fun found _ => ?_
    split
    · exact tracks_slots_removeReferrer.bind fun _ _ => tracks_done trivial
    · exact tracks_done trivial

/-- Asking for the start of a session keeps to the tracking of pages. -/
theorem tracks_requestStart (id : String) (context : PageContext) :
    Tracks (fun _ => True) (requestStart id context) := by
  refine tracks_takeReferrer.bind fun referrer _ => ?_
  refine (tracks_ask rfl).bind fun answer _ => ?_
  split
  · exact (tracks_track _).bind fun _ _ => tracks_done trivial
  · refine (tracks_startHeartbeat id).bind fun _ _ => ?_
    exact (tracks_recordPage _).bind fun _ _ => tracks_done trivial

/-- So does starting one, with the former session ended before. -/
theorem tracks_startTracking (id : String) (context : PageContext) :
    Tracks (fun _ => True) (startTracking id context) := by
  refine tracks_visit.bind fun before _ => ?_
  dsimp only
  split
  · exact tracks_done trivial
  · have starts : Tracks (fun _ => True)
        (track (fun tracker => { tracker with ended := false }) >>= fun _ =>
          requestStart id context) :=
      (tracks_track _).bind fun _ _ => tracks_requestStart id context
    refine (tracks_track _).bind fun _ _ => ?_
    cases before.tracker.visitor with
    | none => exact starts
    | some previous =>
        refine (tracks_track _).bind fun _ _ => ?_
        split
        · exact (tracks_close previous).bind fun _ _ => starts
        · exact starts

/-- Ending the session keeps to the tracking of pages. -/
theorem tracks_endTracking : Tracks (fun _ => True) endTracking := by
  refine tracks_visit.bind fun before _ => ?_
  dsimp only
  split
  · exact tracks_done trivial
  · refine (tracks_track _).bind fun _ _ => ?_
    cases before.tracker.visitor with
    | none => exact tracks_done trivial
    | some id => exact (tracks_close id).bind fun _ _ => tracks_done trivial

/-- Starting the session of the visitor who is loaded keeps to the tracking of pages. -/
theorem tracks_startSession (context : PageContext) :
    Tracks (fun _ => True) (startSession context) := by
  refine tracks_visit.bind fun before _ => ?_
  split
  · exact tracks_startTracking _ context
  · exact tracks_done trivial

/-- Following the visitor into another session does not change how the verification ended. -/
theorem tracks_followSwap (context : PageContext) (outcome : Except LinkError VerifyOutcome) :
    Tracks (fun result => result = outcome) (followSwap context outcome) := by
  cases outcome with
  | error error => exact tracks_done rfl
  | ok outcome =>
      cases outcome with
      | swapped previous current =>
          refine tracks_visit.bind fun before _ => ?_
          split
          · exact (tracks_startTracking current context).bind fun _ _ => tracks_done rfl
          · exact tracks_done rfl
      | _ => exact tracks_done rfl

/-- What follows on a log-out keeps to the tracking of pages as well. -/
theorem tracks_followLogOut (outcome : Except LinkError Unit) :
    Tracks (fun result => result = outcome) (followLogOut outcome) := by
  unfold followLogOut
  split
  · exact tracks_stopHeartbeat.bind fun _ _ => tracks_done rfl
  · exact tracks_done rfl

/-! ## Looking for the provider -/

/-- That the state of a visit drifts. -/
def Drifting (before after : Visit) : Prop :=
  before.state.Drifts after.state

/-- A visit drifts to itself. -/
theorem Drifting.refl (visit : Visit) : Drifting visit visit :=
  State.Drifts.refl

/-- One drift may follow another. -/
theorem Drifting.trans (first middle last : Visit) (before : Drifting first middle)
    (after : Drifting middle last) : Drifting first last :=
  State.Drifts.trans before after

/-- That all pieces of an errand change the state quietly, and that it waits for times only. -/
abbrev Polls (Ends : α → Prop) (errand : Errand α) : Prop :=
  Keeps Drifting (fun _ => False) Ends errand

/-- Looks can follow one another. -/
theorem Polls.bind {Ends : α → Prop} {Ends' : β → Prop} {errand : Errand α}
    {rest : α → Errand β} (polls : Polls Ends errand)
    (after : ∀ result, Ends result → Polls Ends' (rest result)) :
    Polls Ends' (errand >>= rest) :=
  Keeps.bind Drifting.trans polls after

theorem polls_done {Ends : α → Prop} {result : α} (allowed : Ends result) :
    Polls Ends (.done result) :=
  keeps_done Drifting.refl allowed

theorem polls_visit : Polls (fun _ => True) visit :=
  keeps_look fun _ => polls_done trivial

/-- A quiet change is allowed in the course of polling. -/
theorem polls_apply {change : Change} (quiet : change.isQuiet = true) :
    Polls (fun _ => True) (apply change) :=
  keeps_act (fun visit => State.Drifts.of_change visit.state change quiet) fun _ => trivial

/-- Looking for the provider asks whether it is there. -/
theorem polls_lookForProvider : Polls (fun _ => True) lookForProvider :=
  keeps_act Drifting.refl fun _ => trivial

/-- The address that is shown is read without asking. -/
theorem polls_shownIf (present : Bool) : Polls (fun _ => True) (shownIf present) :=
  keeps_look fun _ => polls_done trivial

/-- Detecting the provider changes nothing but what is known of it. -/
theorem polls_detect : Polls (fun _ => True) detect := by
  refine polls_lookForProvider.bind fun present _ => ?_
  refine polls_visit.bind fun before _ => ?_
  dsimp only
  split
  · exact (polls_apply rfl).bind fun _ _ => polls_done trivial
  · exact polls_done trivial

/-- So does a look of polling. -/
theorem polls_pollOnce : Polls (fun _ => True) pollOnce := by
  refine polls_visit.bind fun before _ => ?_
  split
  · exact polls_done trivial
  · refine polls_detect.bind fun present _ => ?_
    refine (polls_shownIf present).bind fun shown _ => ?_
    split
    · exact (polls_apply rfl).bind fun _ _ => polls_done trivial
    · exact polls_done trivial

/-- So do all the looks that are left, by induction on their number. -/
theorem polls_pollFrom (start interval attempts tick : Nat) (last : Bool) :
    Polls (fun _ => True) (pollFrom start interval attempts tick last) := by
  induction attempts generalizing tick last with
  | zero => exact polls_done trivial
  | succ attempts ih =>
      refine (keeps_sleep Drifting.refl (start + tick * interval)).bind Drifting.trans fun _ _ => ?_
      refine polls_pollOnce.bind fun outcome _ => ?_
      split
      · exact ih _ _
      · exact polls_done trivial

/-- Polling does nothing but look, in all its pieces. -/
theorem polls_poll (attempts interval : Nat) : Polls (fun _ => True) (poll attempts interval) :=
  polls_visit.bind fun _ _ => polls_pollFrom _ _ _ _ _

end Errand

end VisitorLink
