import VisitorLink.Proofs.Visit.Failures
import VisitorLink.Proofs.Visit.Frames
import VisitorLink.Proofs.Visit.Turns

/-!
# The journal

An inquiry that was made stays in the journal. What is done apart from the tracking of pages leaves
the tracker alone, and none of its inquiries is about a session.

Main statement: so it is with every operation that does not track pages (`untracks_errand`).
-/

namespace VisitorLink

open Errand

/-- Whether an inquiry is about a session. -/
def Inquiry.isSession : Inquiry → Bool
  | .call asked => asked.isSession
  | .detect => false
  | .endBeacon _ => true

namespace Visit

/-! ## Inquiries of a kind -/

/-- That one visit came from another by making inquiries of one kind at most. -/
def Inquires (Kind : Inquiry → Prop) (before after : Visit) : Prop :=
  ∃ entries, after.journal = before.journal ++ entries ∧ ∀ entry ∈ entries, Kind entry.inquiry

variable {Kind : Inquiry → Prop} {before after : Visit}

/-- No inquiry is of any kind. -/
theorem inquires_of_eq (same : after.journal = before.journal) : Inquires Kind before after :=
  ⟨[], same.trans (List.append_nil _).symm, nofun⟩

/-- An inquiry of a kind is one of the kind. -/
theorem inquires_inquire (visit : Visit) {inquiry : Inquiry} (kind : Kind inquiry) :
    Inquires Kind visit (visit.inquire inquiry) :=
  ⟨_, rfl, fun _ mem => List.mem_singleton.1 mem ▸ kind⟩

/-- Inquiries of a kind can be chained. -/
theorem Inquires.trans {first middle last : Visit} (before : Inquires Kind first middle)
    (after : Inquires Kind middle last) : Inquires Kind first last := by
  obtain ⟨entries, journal, kind⟩ := before
  obtain ⟨entries', journal', kind'⟩ := after
  refine ⟨entries ++ entries', by rw [journal', journal, List.append_assoc], fun entry mem => ?_⟩
  rcases List.mem_append.1 mem with mem | mem
  · exact kind entry mem
  · exact kind' entry mem

/-- Inquiries of a kind are of every looser one. -/
theorem Inquires.mono {Kind' : Inquiry → Prop} (inquires : Inquires Kind before after)
    (loose : ∀ inquiry, Kind inquiry → Kind' inquiry) : Inquires Kind' before after := by
  obtain ⟨entries, journal, kind⟩ := inquires
  exact ⟨entries, journal, fun entry mem => loose _ (kind entry mem)⟩

/-- What was inquired before stands first in the journal. -/
theorem Inquires.journal_prefix (inquires : Inquires Kind before after) :
    before.journal <+: after.journal := by
  obtain ⟨entries, journal, _⟩ := inquires
  exact ⟨entries, journal.symm⟩

/-- Telling an event is no inquiry. -/
theorem emit_journal (visit : Visit) (event : Event) :
    (visit.emit event).journal = visit.journal := by
  unfold emit
  split <;> rfl

/-! ## What is not about a session -/

/-- That one visit came from another without any tracking of pages. -/
structure Untracked (before after : Visit) : Prop where
  tracker : after.tracker = before.tracker
  inquires : Inquires (fun inquiry => inquiry.isSession = false) before after

namespace Untracked

/-- A visit with the same tracker and the same journal has not been tracked. -/
theorem of_eq (tracker : after.tracker = before.tracker)
    (journal : after.journal = before.journal) : before.Untracked after :=
  ⟨tracker, inquires_of_eq journal⟩

/-- Not tracking can be chained. -/
theorem trans {first middle last : Visit} (before : first.Untracked middle)
    (after : middle.Untracked last) : first.Untracked last :=
  ⟨after.tracker.trans before.tracker, before.inquires.trans after.inquires⟩

/-- An inquiry off the sessions is no tracking. -/
theorem inquire (visit : Visit) {inquiry : Inquiry} (other : inquiry.isSession = false) :
    visit.Untracked (visit.inquire inquiry) :=
  ⟨rfl, inquires_inquire visit other⟩

/-- Not tracking is a frame. -/
theorem frame : Frame Untracked where
  refl visit := .of_eq rfl rfl
  trans _ _ _ before after := before.trans after
  apply visit change other := .of_eq rfl rfl
  emit visit event := .of_eq (visit.emit_tracker event) (visit.emit_journal event)
  attempt visit addresses := .of_eq rfl rfl
  store visit storage _ := .of_eq rfl rfl
  detect visit := .inquire visit rfl
  ask visit call ordinary :=
    ⟨rfl, inquires_inquire visit (Call.not_isSession_of_isOrdinary ordinary)⟩
  check visit change ends := by
    have looks : visit.Untracked (visit.inquire .detect) := .inquire visit rfl
    exact ⟨rfl, looks.inquires⟩

/-- Connecting does not track either. -/
theorem connectingFrame : ConnectingFrame Untracked where
  toFrame := frame
  connecting _ _ := .of_eq rfl rfl
  request _ := .of_eq rfl rfl
  fail _ _ := .of_eq rfl rfl
  dial visit := .inquire visit rfl

end Untracked

end Visit

namespace Errand

variable {α β : Type}

/-- That an errand tracks no pages in any piece of it. -/
abbrev Untracks (errand : Errand α) : Prop :=
  Keeps Visit.Untracked (fun call => call.isSession = false) (fun _ => True) errand

/-- An errand within that frame does not track. -/
theorem Within.untracks {errand : Errand α} (within : Within Visit.Untracked errand) :
    Untracks errand :=
  within.offSession

/-- One errand after another does not track if neither does. -/
theorem Untracks.bind {errand : Errand α} {rest : α → Errand β} (untracks : Untracks errand)
    (after : ∀ result, Untracks (rest result)) : Untracks (errand >>= rest) :=
  Keeps.bind (fun _ _ _ => .trans) untracks fun result _ => after result

/-- An errand that is done does not track. -/
theorem untracks_pure (result : α) : Untracks (pure result) :=
  (Visit.Untracked.frame.within_pure result).untracks

/-- Reading the visit is no tracking. -/
theorem untracks_visit : Untracks visit :=
  Visit.Untracked.frame.within_visit.untracks

end Errand

/-- An operation off the session, with no session to follow it, does not track. -/
theorem Operation.untracks_errand {operation : Operation} (aside : operation.isOnSession = false)
    (follows : operation.followsSession = false) : Untracks operation.errand := by
  cases connects : operation.connects with
  | false => exact (Visit.Untracked.frame.within_errand connects aside follows).untracks
  | true => exact Visit.Untracked.connectingFrame.keeps_errand connects

end VisitorLink
