import VisitorLink.Proofs.Visit.Pages

/-!
# The heartbeat between two moments

Between two moments at which the tracking of pages acts, all that it does by itself is to send the
heartbeat that falls due, and that once at most, since no heartbeat is sent before the last one has
been answered. Where the clock does not pass by the time at which a heartbeat falls due, this time
is the one at which it is sent.

Main statement: what the tracking of pages sees at the later moment follows from what it sees at the
earlier one, from how things stand outside of it at the later one, and from whether a heartbeat is
still to be sent then (`PagesView.Passes.unique`).
-/

namespace VisitorLink

/-- What the tracking of pages sees and has no part in. -/
structure Moment where
  clock : Nat
  sendsBeacons : Bool
  visitorId? : Option String

namespace PagesView

/-- How things stand outside of the tracking of pages. -/
def moment (view : PagesView) : Moment where
  clock := view.clock
  sendsBeacons := view.sendsBeacons
  visitorId? := view.visitorId?

/-- What is seen at another moment, if the tracking of pages does nothing. -/
def move (view : PagesView) (moment : Moment) : PagesView :=
  { view with
    clock := moment.clock
    sendsBeacons := moment.sendsBeacons
    visitorId? := moment.visitorId? }

/-- The heartbeat that is to be sent when it falls due. -/
def pending? (view : PagesView) : Option Heartbeat :=
  view.tracker.heartbeat.filter fun heartbeat =>
    heartbeat.canBeTimed view.settings.uptime && !heartbeat.unanswered

/-- The heartbeat that is to be sent now. -/
def due? (view : PagesView) : Option Heartbeat :=
  view.pending?.filter fun heartbeat => decide (heartbeat.due ≤ view.clock)

/-- What is seen after a heartbeat was sent at a time. -/
def beat (view : PagesView) (heartbeat : Heartbeat) (clock : Nat) : PagesView :=
  { view with
    tracker.heartbeat :=
      some { heartbeat with
        due := heartbeat.due + heartbeat.period
        unanswered := true }
    told := view.told ++ [⟨clock, .call (.service (.heartbeat heartbeat.visitor))⟩] }

theorem pending?_move (view : PagesView) (moment : Moment) :
    (view.move moment).pending? = view.pending? := rfl

/-- A heartbeat that was sent is not to be sent before it was answered. -/
theorem pending?_beat (view : PagesView) (heartbeat : Heartbeat) (clock : Nat) :
    (view.beat heartbeat clock).pending? = none := by
  simp [pending?, beat]

/-- A heartbeat is sent now if it is to be sent and has fallen due. -/
theorem due?_eq_some {view : PagesView} {heartbeat : Heartbeat} :
    view.due? = some heartbeat ↔ view.pending? = some heartbeat ∧ heartbeat.due ≤ view.clock := by
  rw [due?, Option.filter_eq_some_iff, decide_eq_true_iff]

theorem due?_of_pending?_none {view : PagesView} (nothing : view.pending? = none) :
    view.due? = none := by
  rw [due?, nothing]
  rfl

/-- What becomes of a view until a later moment while the tracking of pages acts by itself only. A
heartbeat is sent as soon as it falls due, or at once if it has been due before. -/
inductive Passes (first : PagesView) : PagesView → Prop
  | still (moment : Moment) (later : first.clock ≤ moment.clock)
      (punctual : ∀ heartbeat, first.pending? = some heartbeat →
        moment.clock ≤ max first.clock heartbeat.due) :
      Passes first (first.move moment)
  | beaten {heartbeat : Heartbeat} (pending : first.pending? = some heartbeat) (moment : Moment)
      (later : max first.clock heartbeat.due ≤ moment.clock) :
      Passes first ((first.beat heartbeat (max first.clock heartbeat.due)).move moment)

namespace Passes

variable {first middle last last' : PagesView}

theorem refl (view : PagesView) : Passes view view :=
  .still view.moment (Nat.le_refl _) fun _ _ => Nat.le_max_left _ _

/-- The moment changes, and the clock does not pass by the time of a heartbeat. -/
theorem move (passes : Passes first middle) {moment : Moment} (later : middle.clock ≤ moment.clock)
    (punctual : ∀ heartbeat, middle.pending? = some heartbeat →
      moment.clock ≤ max middle.clock heartbeat.due) : Passes first (middle.move moment) := by
  cases passes with
  | still earlier before punctual' =>
      refine .still moment (Nat.le_trans before later) fun heartbeat pending => ?_
      have soon' := punctual' heartbeat pending
      have soon : moment.clock ≤ max earlier.clock heartbeat.due := punctual heartbeat pending
      omega
  | beaten pending earlier before => exact .beaten pending moment (Nat.le_trans before later)

/-- The heartbeat that is due is sent. -/
theorem beat (passes : Passes first middle) {heartbeat : Heartbeat}
    (due : middle.due? = some heartbeat) : Passes first (middle.beat heartbeat middle.clock) := by
  obtain ⟨pending, due⟩ := due?_eq_some.1 due
  cases passes with
  | still moment later punctual =>
      have waits : first.pending? = some heartbeat := pending
      have reached : heartbeat.due ≤ moment.clock := due
      have now : max first.clock heartbeat.due = moment.clock := by
        have soon := punctual heartbeat waits
        omega
      have beats := beaten waits moment (Nat.le_of_eq now)
      rw [now] at beats
      exact beats
  | beaten _ moment later =>
      -- The heartbeat sent before is unanswered.
      rw [pending?_move, pending?_beat] at pending
      cases pending

/-- A heartbeat that was sent is told apart from one that is still to be sent. -/
theorem unique (passes : Passes first last) (passes' : Passes first last')
    (moment : last.moment = last'.moment) (behind : last.due?.isSome = last'.due?.isSome) :
    last = last' := by
  -- One view cannot stay behind where the other has sent the heartbeat.
  have not_both {heartbeat : Heartbeat} {before after : Moment}
      (pending : first.pending? = some heartbeat) (same : before = after)
      (later : max first.clock heartbeat.due ≤ after.clock)
      (behind : (first.move before).due?.isSome =
        ((first.beat heartbeat (max first.clock heartbeat.due)).move after).due?.isSome) :
      False := by
    subst same
    have due : (first.move before).due? = some heartbeat :=
      due?_eq_some.2 ⟨pending, Nat.le_trans (Nat.le_max_right _ _) later⟩
    have sent : ((first.beat heartbeat (max first.clock heartbeat.due)).move before).due? = none :=
      due?_of_pending?_none ((pending?_move _ _).trans (pending?_beat _ _ _))
    rw [due, sent] at behind
    cases behind
  cases passes with
  | still before =>
      cases passes' with
      | still after => exact congrArg first.move moment
      | beaten pending after later => exact (not_both pending moment later behind).elim
  | beaten pending before later =>
      cases passes' with
      | still after => exact (not_both pending moment.symm later behind.symm).elim
      | beaten pending' after =>
          cases pending.symm.trans pending'
          exact congrArg (PagesView.move _) moment

end Passes

end PagesView

namespace Visit

/-- Sending a heartbeat is seen as such. -/
theorem pagesView_sendHeartbeat (visit : Visit) (heartbeat : Heartbeat) :
    (visit.sendHeartbeat heartbeat).pagesView = visit.pagesView.beat heartbeat visit.clock := by
  have told := visit.sessionJournal_inquire (.call (.service (.heartbeat heartbeat.visitor)))
  unfold sendHeartbeat PagesView.beat pagesView
  exact congrArg (fun told => PagesView.mk _ _ _ _ _ _ told) told

section Alike

variable {visit visit' : Visit} (alike : visit.pagesView = visit'.pagesView)

include alike

/-- The same change of the tracker does the same to what the tracking of pages sees. -/
theorem pagesView_retrack (change : Tracker → Tracker) :
    ({ visit with tracker := change visit.tracker } : Visit).pagesView =
      ({ visit' with tracker := change visit'.tracker } : Visit).pagesView :=
  congrArg (fun view => { view with tracker := change view.tracker }) alike

/-- The answer to a heartbeat is seen the same in visits that look the same. -/
theorem pagesView_answerHeartbeat (number : Nat) :
    (visit.answerHeartbeat number).pagesView = (visit'.answerHeartbeat number).pagesView := by
  have started : visit.tracker.heartbeats = visit'.tracker.heartbeats :=
    congrArg (·.tracker.heartbeats) alike
  unfold answerHeartbeat
  rw [started]
  split
  · exact pagesView_retrack alike fun tracker => { tracker with
      heartbeat := tracker.heartbeat.map fun heartbeat => { heartbeat with unanswered := false } }
  · exact alike

/-- So is the giving up of a heartbeat. -/
theorem pagesView_giveUpHeartbeat :
    visit.giveUpHeartbeat.pagesView = visit'.giveUpHeartbeat.pagesView := by
  have settings : visit.settings = visit'.settings := congrArg PagesView.settings alike
  have retracked := pagesView_retrack alike fun tracker => { tracker with
    heartbeat := tracker.heartbeat.filter fun heartbeat =>
      heartbeat.canBeTimed visit.settings.uptime }
  refine Eq.trans retracked ?_
  rw [settings]
  rfl

end Alike

/-- Which heartbeat falls due can be seen. -/
theorem dueHeartbeat?_eq (visit : Visit) : visit.dueHeartbeat? = visit.pagesView.due? := by
  unfold dueHeartbeat? PagesView.due? PagesView.pending?
  rw [Option.filter_filter]
  rfl

end Visit

end VisitorLink
