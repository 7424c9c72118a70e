import VisitorLink.Proofs.Errand.Views
import VisitorLink.Proofs.Storage.Faults
import VisitorLink.Proofs.Visit.Journal

/-!
# What the tracking of pages sees

The tracking of pages depends on a part of the visit: on who the visitor is, on the clock, on how
the end of a session can be told, on the first referrer in the cookies, and on the tracker. Of the
slots it changes the first referrer alone, also where they fail.

Main statements: the operations on the session see nothing else (`Operation.seesPages_errand`), and
they leave the id of the visitor in the slots alone (`Storage.LosesReferrer.keepsId`).
-/

namespace VisitorLink

/-! ## The first referrer -/

/-- What a slot shows of the page that the visitor came from at first: the text itself, and whether
reading and removing it fail. -/
structure ReferrerView where
  text : Option String
  getFails : Bool
  removeFails : Bool

namespace ReferrerView

/-- The text that is read. -/
def found? (view : ReferrerView) : Option String :=
  if view.getFails then none else view.text

/-- What is shown after the text was removed. -/
def removed (view : ReferrerView) : ReferrerView :=
  if view.removeFails then view else { view with text := none }

end ReferrerView

namespace MemorySlot

/-- What a slot in memory shows of the first referrer. -/
def referrerView (slot : MemorySlot) : ReferrerView where
  text := slot.entries.get? referrerKey
  getFails := slot.getFails
  removeFails := slot.removeFails

variable (slot : MemorySlot)

/-- What is read of the first referrer is what the slot shows. -/
theorem getText_referrer :
    (slot.getText referrerKey).toOption.join = slot.referrerView.found? := by
  unfold getText ReferrerView.found? referrerView
  cases slot.getFails <;> rfl

/-- Removing the first referrer changes what the slot shows, unless it fails. -/
theorem referrerView_removeText :
    (slot.removeText referrerKey).2.referrerView = slot.referrerView.removed := by
  have erased : (slot.entries.erase referrerKey).get? referrerKey = none :=
    (Entries.get?_erase _ _ _).trans (if_pos rfl)
  unfold removeText ReferrerView.removed
  cases fails : slot.removeFails with
  | true => simp only [referrerView, fails, if_true]
  | false => simp only [referrerView, fails, Bool.false_eq_true, if_false, erased]

/-- The first referrer and the id of the visitor are under different keys. -/
theorem referrerView_setId (id : String) :
    (slot.setText RememberedId.key id).2.referrerView = slot.referrerView := by
  have kept : (slot.entries.insert RememberedId.key id).get? referrerKey =
      slot.entries.get? referrerKey :=
    (Entries.get?_insert _ _ _ _).trans (if_neg (by decide))
  unfold setText
  split
  · rfl
  · simp only [referrerView, kept]

/-- Removing the first referrer leaves the id. -/
theorem id_removeReferrer :
    (slot.removeText referrerKey).2.entries.get? RememberedId.key =
      slot.entries.get? RememberedId.key := by
  unfold removeText
  split
  · rfl
  · exact (Entries.get?_erase _ _ _).trans (if_neg (by decide))

end MemorySlot

namespace Storage

/-- What the cookies show of the first referrer, unless they are a file that cannot be read. -/
def referrerView? (storage : Storage) : Option ReferrerView :=
  (storage.slot? .cookies).map MemorySlot.referrerView

/-- What is read of the first referrer is what the cookies show. -/
theorem getText_referrer (storage : Storage) :
    (storage.getText .cookies referrerKey).toOption.join =
      storage.referrerView?.bind ReferrerView.found? := by
  rw [getText_toOption, referrerView?]
  cases storage.slot? .cookies with
  | none => rfl
  | some held => exact held.getText_referrer

/-- Removing the first referrer changes what the cookies show, unless it fails. -/
theorem referrerView?_removeText (storage : Storage) :
    (storage.removeText .cookies referrerKey).2.referrerView? =
      storage.referrerView?.map ReferrerView.removed := by
  rw [referrerView?, slot?_removeText, if_pos rfl, referrerView?, Option.map_map, Option.map_map]
  exact congrArg (Option.map · _) (funext MemorySlot.referrerView_removeText)

/-- Storing the id of a visitor makes no difference to the first referrer. -/
theorem StoresId.referrerView?_eq {before after : Storage} (stores : before.StoresId after) :
    after.referrerView? = before.referrerView? := by
  induction stores with
  | refl => rfl
  | @tail middle last _ sets ih =>
      obtain ⟨slot, id, rfl⟩ := sets
      rw [← ih, referrerView?, slot?_setText, referrerView?]
      split
      case isTrue same =>
        rw [← same, Option.map_map]
        exact congrArg (Option.map · _) (funext (MemorySlot.referrerView_setId · id))
      case isFalse => rfl

/-- Taking the first referrer makes no difference to the id of the visitor in any slot. -/
theorem LosesReferrer.keepsId {before after : Storage} (loses : before.LosesReferrer after)
    (slot : Slot) :
    (after.entries? slot).map (·.get? RememberedId.key) =
      (before.entries? slot).map (·.get? RememberedId.key) := by
  induction loses with
  | refl => rfl
  | @tail middle last _ removes ih =>
      subst removes
      rw [← ih, entries?_eq, slot?_removeText, entries?_eq]
      split
      case isTrue same =>
        rw [same, Option.map_map, Option.map_map, Option.map_map]
        exact congrArg (Option.map · _) (funext MemorySlot.id_removeReferrer)
      case isFalse => rfl

end Storage

/-! ## The view -/

/-- What the tracking of pages sees of a visit, with what it has told the service. -/
structure PagesView where
  settings : VisitSettings
  visitorId? : Option String
  clock : Nat
  sendsBeacons : Bool
  referrer? : Option ReferrerView
  tracker : Tracker
  told : List JournalEntry

namespace Visit

/-- The inquiries about sessions so far with their times, oldest first. -/
def sessionJournal (visit : Visit) : List JournalEntry :=
  visit.journal.filter (·.inquiry.isSession)

/-- What the tracking of pages sees of the visit. -/
def pagesView (visit : Visit) : PagesView where
  settings := visit.settings
  visitorId? := visit.state.visitorId?
  clock := visit.clock
  sendsBeacons := visit.outside.sendsBeacons
  referrer? := visit.storage.referrerView?
  tracker := visit.tracker
  told := visit.sessionJournal

/-- An inquiry about a session is noted with its time. -/
theorem sessionJournal_inquire (visit : Visit) (inquiry : Inquiry) :
    (visit.inquire inquiry).sessionJournal =
      visit.sessionJournal ++ [⟨visit.clock, inquiry⟩].filter (·.inquiry.isSession) :=
  List.filter_append _ _

/-- An inquiry is seen by the tracking of pages if it is about a session. -/
theorem pagesView_inquire (visit : Visit) (inquiry : Inquiry) :
    (visit.inquire inquiry).pagesView =
      { visit.pagesView with
        told := visit.pagesView.told ++
          [⟨visit.pagesView.clock, inquiry⟩].filter (·.inquiry.isSession) } := by
  simp only [pagesView, sessionJournal_inquire]
  rfl

end Visit

/-! ## Operations on the session -/

namespace Errand

open Visit

/-- That an errand depends on nothing but what the tracking of pages sees. -/
abbrev SeesPages {α : Type} (errand : Errand α) : Prop :=
  SeesOnly pagesView errand

/-- Making an inquiry depends on nothing that is not seen. -/
theorem seesPages_inquire (inquiry : Inquiry) :
    SeesPages (modify fun visit => visit.inquire inquiry) :=
  seesOnly_modify fun visit visit' alike => by
    rw [pagesView_inquire, alike, ← pagesView_inquire]

/-- So does asking and waiting for the answer. -/
theorem seesPages_ask (call : Call) : SeesPages (ask call) :=
  seesOnly_ask fun visit visit' alike => by
    rw [pagesView_inquire, alike, ← pagesView_inquire]

/-- The tracker changes itself. -/
theorem seesPages_track (change : Tracker → Tracker) : SeesPages (track change) :=
  seesOnly_modify fun _ _ alike =>
    congrArg (fun view => { view with tracker := change view.tracker }) alike

/-- A look at the tracker. -/
theorem seesPages_tracker_bind {β : Type} {rest : Visit → Errand β}
    (same : ∀ visit visit' : Visit, visit.tracker = visit'.tracker → rest visit = rest visit')
    (after : ∀ seen, SeesPages (rest seen)) : SeesPages (visit >>= rest) :=
  seesOnly_visit_bind (fun visit visit' alike =>
    same visit visit' (congrArg PagesView.tracker alike)) after

/-- Stopping the heartbeat sees the tracker only. -/
theorem seesPages_stopHeartbeat : SeesPages stopHeartbeat :=
  seesPages_track _

/-- Starting the heartbeat sees the clock and the period as well. -/
theorem seesPages_startHeartbeat (id : String) : SeesPages (startHeartbeat id) :=
  seesOnly_visit_bind (fun visit visit' alike => by
      have settings : visit.settings = visit'.settings := congrArg PagesView.settings alike
      have clock : visit.clock = visit'.clock := congrArg PagesView.clock alike
      simp only [settings, clock])
    fun _ => seesPages_track _

/-- Recording a page sees the tracker only. -/
theorem seesPages_recordPage (path : String) : SeesPages (recordPage path) := by
  refine seesPages_tracker_bind (fun _ _ same => by simp only [same]) fun before => ?_
  dsimp only
  cases before.tracker.visitor with
  | none => exact seesOnly_pure false
  | some id =>
      dsimp only
      split
      · exact seesOnly_pure false
      · refine (seesPages_track _).bind fun _ => ?_
        exact (seesPages_ask _).bind fun _ => seesOnly_pure true

/-- Sending a heartbeat sees the tracker only. -/
theorem seesPages_sendHeartbeat : SeesPages sendHeartbeat := by
  refine seesPages_tracker_bind (fun _ _ same => by simp only [same]) fun before => ?_
  dsimp only
  cases before.tracker.visitor with
  | none => exact seesOnly_pure false
  | some id =>
      dsimp only
      split
      · exact seesOnly_pure false
      · exact (seesPages_ask _).bind fun _ => seesOnly_pure true

/-- Hiding the page sees the tracker only. -/
theorem seesPages_hidePage : SeesPages hidePage := by
  refine seesPages_tracker_bind (fun _ _ same => by simp only [same]) fun before => ?_
  split
  · exact seesOnly_pure false
  · exact seesPages_sendHeartbeat

/-- The end of a session is told in the way that the outside allows, which is seen. -/
theorem seesPages_close (id : String) : SeesPages (close id) := by
  refine seesOnly_visit_bind (fun visit visit' alike => ?_) fun before => ?_
  · have sends : visit.outside.sendsBeacons = visit'.outside.sendsBeacons :=
      congrArg PagesView.sendsBeacons alike
    simp only [sends]
  split
  · exact seesPages_inquire _
  · exact (seesPages_ask _).bind fun _ => seesOnly_pure ()

/-- Reading the first referrer shows no more of a failure than that there was one. -/
theorem takeReferrer_eq :
    takeReferrer = visit >>= fun before =>
      if !before.settings.keepsReferrer then pure none
      else (·.toOption.join) <$> slots (StorageM.get .cookies referrerKey) >>= fun found =>
        match found with
        | some referrer =>
            slots (StorageM.remove .cookies referrerKey) >>= fun _ =>
              pure (if referrer = "" then none else some referrer)
        | none => pure none := by
  unfold takeReferrer
  refine bind_congr fun before => ?_
  split
  · rfl
  · rw [bind_map_left]
    refine bind_congr fun found => ?_
    rcases found with error | _ | referrer <;> rfl

/-- Taking the first referrer sees what the cookies show of it. -/
theorem seesPages_takeReferrer : SeesPages takeReferrer := by
  have looks : SeesPages
      ((·.toOption.join) <$> slots (StorageM.get .cookies referrerKey) :
        Errand (Option String)) := by
    refine seesOnly_of_finishes
      (fun visit => (visit.storage.getText .cookies referrerKey).toOption.join) id
      (fun _ => rfl) fun visit visit' alike => ⟨?_, alike⟩
    rw [Storage.getText_referrer, Storage.getText_referrer]
    exact congrArg (·.referrer?.bind ReferrerView.found?) alike
  have takes (referrer : Option String) : SeesPages
      (slots (StorageM.remove .cookies referrerKey) >>= fun _ => pure referrer) := by
    refine seesOnly_of_finishes (fun _ => referrer)
      (fun visit => { visit with storage := (visit.storage.removeText .cookies referrerKey).2 })
      (fun _ => rfl) fun visit visit' alike => ⟨rfl, ?_⟩
    simp only [pagesView, Storage.referrerView?_removeText]
    exact congrArg
      (fun view => { view with referrer? := view.referrer?.map ReferrerView.removed }) alike
  rw [takeReferrer_eq]
  refine seesOnly_visit_bind (fun visit visit' alike => ?_) fun before => ?_
  · have settings : visit.settings = visit'.settings := congrArg PagesView.settings alike
    simp only [settings]
  split
  · exact seesOnly_pure none
  · refine looks.bind fun found => ?_
    cases found with
    | some referrer => exact takes _
    | none => exact seesOnly_pure none

/-- The request to start a session sees the visit through the first referrer only. -/
theorem seesPages_requestStart (id : String) (context : PageContext) :
    SeesPages (requestStart id context) := by
  refine seesPages_takeReferrer.bind fun referrer => ?_
  refine (seesPages_ask _).bind fun answer => ?_
  split
  · exact (seesPages_track _).bind fun _ => seesOnly_pure false
  · refine (seesPages_startHeartbeat id).bind fun _ => ?_
    exact (seesPages_recordPage _).bind fun _ => seesOnly_pure true

/-- The start of tracking depends on nothing that is not seen. -/
theorem seesPages_startTracking (id : String) (context : PageContext) :
    SeesPages (startTracking id context) := by
  refine seesPages_tracker_bind (fun _ _ same => by simp only [same]) fun before => ?_
  dsimp only
  split
  · exact seesOnly_pure false
  · have starts : SeesPages
        (track (fun tracker => { tracker with ended := false }) >>= fun _ =>
          requestStart id context) :=
      (seesPages_track _).bind fun _ => seesPages_requestStart id context
    refine (seesPages_track _).bind fun _ => ?_
    cases before.tracker.visitor with
    | none => exact starts
    | some previous =>
        refine (seesPages_track _).bind fun _ => ?_
        split
        · exact (seesPages_close previous).bind fun _ => starts
        · exact starts

/-- The end of tracking depends on nothing that is not seen. -/
theorem seesPages_endTracking : SeesPages endTracking := by
  refine seesPages_tracker_bind (fun _ _ same => by simp only [same]) fun before => ?_
  dsimp only
  split
  · exact seesOnly_pure false
  · refine (seesPages_track _).bind fun _ => ?_
    cases before.tracker.visitor with
    | none => exact seesOnly_pure false
    | some id => exact (seesPages_close id).bind fun _ => seesOnly_pure true

/-- The start of a session sees which visitor is loaded. -/
theorem seesPages_startSession (context : PageContext) : SeesPages (startSession context) := by
  refine seesOnly_visit_bind (fun visit visit' alike => ?_) fun before => ?_
  · have known : visit.state.visitorId? = visit'.state.visitorId? :=
      congrArg PagesView.visitorId? alike
    simp only [known]
  split
  · exact seesPages_startTracking _ context
  · exact seesOnly_pure false

end Errand

open Errand

/-- No operation on the session depends on anything that is not seen. -/
theorem Operation.seesPages_errand {operation : Operation}
    (session : operation.isOnSession = true) : SeesPages operation.errand := by
  cases operation with
  | startSession context => exact (seesPages_startSession context).map _
  | startTracking id context => exact (seesPages_startTracking id context).map _
  | recordPage path => exact (seesPages_recordPage path).map _
  | sendHeartbeat => exact seesPages_sendHeartbeat.map _
  | hidePage => exact seesPages_hidePage.map _
  | stopHeartbeat => exact seesPages_stopHeartbeat.map _
  | endTracking => exact seesPages_endTracking.map _
  | shutDown => exact seesPages_endTracking.map _
  | _ => cases session

end VisitorLink
