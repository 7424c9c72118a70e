import VisitorLink.Proofs.Visit.Handover

/-!
# Keeping silent about a visitor

When a tracker is silent about a visitor, it stays so until it takes them up as its own visitor
again. What an operation does after that may well be about them, so nothing is said of it.

Main statements: every operation keeps silent in this sense (`Operation.staysSilent_errand`), and
what the pieces of such an errand do (`SilentFrom.run`).
-/

namespace VisitorLink

namespace Errand

variable {α β : Type} {id : String} {errand : Errand α} {first middle visit : Visit}

/-- That an errand keeps silent about a visitor in the midst of a piece that has begun with the
visit `first`, and in all pieces that follow, unless a piece takes the visitor up. -/
def SilentFrom (id : String) : Visit → Errand α → Visit → Prop
  | first, .done _, visit => visit.tracker.visitor = some id ∨ first.Hushes id visit
  | first, .look next, visit => SilentFrom id first (next visit) visit
  | first, .set state next, _ => SilentFrom id first next state
  | first, .call _ next, visit =>
      visit.tracker.visitor = some id ∨ first.Hushes id visit ∧
        ∀ answer later, later.tracker.Silent id → SilentFrom id later (next answer) later
  | first, .sleep wakeUp next, visit =>
      if wakeUp ≤ visit.clock then SilentFrom id first next visit
      else visit.tracker.visitor = some id ∨ first.Hushes id visit ∧
        ∀ later, later.tracker.Silent id → SilentFrom id later next later

/-- A sleep that is over goes on in the same piece. -/
theorem silentFrom_sleep_of_due {wakeUp : Nat} {next : Errand α} (due : wakeUp ≤ visit.clock) :
    SilentFrom id first (.sleep wakeUp next) visit ↔ SilentFrom id first next visit := by
  rw [SilentFrom, if_pos due]

/-- A sleep that is not over ends the piece. -/
theorem silentFrom_sleep_of_not_due {wakeUp : Nat} {next : Errand α}
    (early : ¬wakeUp ≤ visit.clock) :
    SilentFrom id first (.sleep wakeUp next) visit ↔
      visit.tracker.visitor = some id ∨ first.Hushes id visit ∧
        ∀ later, later.tracker.Silent id → SilentFrom id later next later := by
  rw [SilentFrom, if_neg early]

/-- That an errand keeps silent about a visitor unless it takes them up. -/
def StaysSilent (id : String) (errand : Errand α) : Prop :=
  ∀ visit, visit.tracker.Silent id → SilentFrom id visit errand visit

/-- That what is left of an errand keeps silent about a visitor unless it takes them up. -/
def RemainsSilent (id : String) : Paused α → Prop
  | .finished _ => True
  | .calling _ next => ∀ answer, StaysSilent id (next answer)
  | .sleeping _ next => StaysSilent id next

/-- A piece takes the visitor up, or it keeps silent about them and so does what is left. -/
theorem SilentFrom.run (silence : SilentFrom id first errand visit) :
    (errand.run visit).2.tracker.visitor = some id ∨
      first.Hushes id (errand.run visit).2 ∧ RemainsSilent id (errand.run visit).1 := by
  induction errand generalizing visit with
  | done result => exact silence.imp_right fun hushes => ⟨hushes, trivial⟩
  | look next ih => exact ih visit silence
  | set changed next ih => exact ih silence
  | call asked next ih => exact silence
  | sleep wakeUp next ih =>
      by_cases due : wakeUp ≤ visit.clock
      · rw [run_sleep_of_due due]
        exact ih ((silentFrom_sleep_of_due due).1 silence)
      · rw [run_sleep_of_not_due due]
        exact (silentFrom_sleep_of_not_due due).1 silence

/-- Nothing is asked of a piece that takes the visitor up. -/
theorem silentFrom_of_takesUp (takesUp : (errand.run visit).2.tracker.visitor = some id)
    (first : Visit) : SilentFrom id first errand visit := by
  induction errand generalizing visit with
  | done result => exact .inl takesUp
  | look next ih => exact ih visit takesUp
  | set changed next ih => exact ih takesUp
  | call asked next ih => exact .inl takesUp
  | sleep wakeUp next ih =>
      by_cases due : wakeUp ≤ visit.clock
      · rw [run_sleep_of_due due] at takesUp
        exact (silentFrom_sleep_of_due due).2 (ih takesUp)
      · rw [run_sleep_of_not_due due] at takesUp
        exact (silentFrom_sleep_of_not_due due).2 (.inl takesUp)

/-- A piece may be looked at from an earlier moment on. -/
theorem SilentFrom.from_earlier (before : first.Hushes id middle)
    (silence : SilentFrom id middle errand visit) : SilentFrom id first errand visit := by
  induction errand generalizing visit with
  | done result => exact silence.imp_right before.trans
  | look next ih => exact ih visit silence
  | set changed next ih => exact ih silence
  | call asked next ih => exact silence.imp_right (.imp_left before.trans)
  | sleep wakeUp next ih =>
      by_cases due : wakeUp ≤ visit.clock
      · rw [silentFrom_sleep_of_due due] at silence ⊢
        exact ih silence
      · rw [silentFrom_sleep_of_not_due due] at silence ⊢
        exact silence.imp_right (.imp_left before.trans)

/-- Something silent comes before what keeps silent unless it takes the visitor up. -/
theorem Hushed.bind_staysSilent {rest : α → Errand β} (hushed : Hushed id errand)
    (after : ∀ result, StaysSilent id (rest result)) : StaysSilent id (errand >>= rest) := by
  suffices bound : ∀ first visit, first.tracker.Silent id →
      KeepsFrom (Visit.Hushes id) (fun _ => True) (fun _ => True) first errand visit →
      SilentFrom id first (errand.bind rest) visit from
    fun visit silent => bound visit visit silent (hushed visit)
  -- The rest goes on in the midst of a piece, so the induction is over all first visits.
  clear hushed
  intro first visit silent keeps
  induction errand generalizing first visit with
  | done result => exact (after result visit (keeps.1 silent).1).from_earlier keeps.1
  | look next ih => exact ih visit first visit silent keeps
  | set changed next ih => exact ih first changed silent keeps
  | call asked next ih =>
      refine .inr ⟨keeps.1, fun answer later calm => ?_⟩
      exact ih answer later later calm (keeps.2.2 answer later)
  | sleep wakeUp next ih =>
      by_cases due : wakeUp ≤ visit.clock
      · exact (silentFrom_sleep_of_due due).2 (ih first visit silent keeps.2.1)
      · refine (silentFrom_sleep_of_not_due due).2 (.inr ⟨keeps.1, fun later calm => ?_⟩)
        exact ih later later calm (keeps.2.2 later)

theorem staysSilent_pure (result : α) : StaysSilent id (pure result) :=
  fun visit _ => .inr (.refl visit)

/-- What breaks no silence stays silent. -/
theorem Hushed.staysSilent (hushed : Hushed id errand) : StaysSilent id errand := by
  have silence := hushed.bind_staysSilent staysSilent_pure
  rwa [bind_pure] at silence

/-- What is left of something silent is silent. -/
theorem Hushed.remainsSilent (hushed : Hushed id errand) (visit : Visit) :
    RemainsSilent id (errand.run visit).1 := by
  have keeps := hushed.stillKeeps visit
  generalize (errand.run visit).1 = paused at keeps
  cases paused with
  | finished result => trivial
  | calling call next => exact fun answer => Hushed.staysSilent (keeps answer)
  | sleeping wakeUp next => exact Hushed.staysSilent keeps

/-! ## The start of a session -/

/-- Starting to track a visitor is silent about all others. -/
theorem staysSilent_startTracking (started : String) (context : PageContext)
    {rest : Bool → Errand β} (after : ∀ result, Hushed id (rest result)) :
    StaysSilent id (startTracking started context >>= rest) := by
  by_cases same : started = id
  · -- The session is that of the visitor, who is not the one of the tracker: they are taken up.
    subst same
    intro visit silent
    obtain ⟨call, next, later, stops, takesUp⟩ := startTracking_takesUp silent.visitor context
    refine silentFrom_of_takesUp ?_ visit
    rw [run_bind_of_calling stops]
    exact takesUp
  · exact ((hushed_startTracking same context).bind after).staysSilent

/-- Starting a session is silent about all but the loaded visitor. -/
theorem staysSilent_startSession (context : PageContext) {rest : Bool → Errand β}
    (after : ∀ result, Hushed id (rest result)) :
    StaysSilent id (startSession context >>= rest) := by
  rw [startSession, bind_assoc]
  refine untracks_visit.hushed.bind_staysSilent fun before => ?_
  split
  · exact staysSilent_startTracking _ context after
  · exact (after false).staysSilent

/-- What follows a swap is silent about all but the new visitor. -/
theorem staysSilent_followSwap (context : PageContext) (outcome : Except LinkError VerifyOutcome)
    {rest : Except LinkError VerifyOutcome → Errand β} (after : ∀ result, Hushed id (rest result)) :
    StaysSilent id (followSwap context outcome >>= rest) := by
  unfold followSwap
  split
  · rw [bind_assoc]
    refine untracks_visit.hushed.bind_staysSilent fun before => ?_
    split
    · dsimp only
      rw [bind_assoc]
      exact staysSilent_startTracking _ context fun _ => after _
    · exact (after _).staysSilent
  · exact (after _).staysSilent

/-- What follows a log-out breaks no silence. -/
theorem hushed_followLogOut (outcome : Except LinkError Unit) :
    Hushed id (followLogOut outcome) := by
  unfold followLogOut
  split
  · exact hushed_stopHeartbeat.bind fun _ => hushed_pure _
  · exact hushed_pure _

end Errand

open Errand

/-- Every operation keeps silent about a visitor unless it takes them up. -/
theorem Operation.staysSilent_errand (id : String) (operation : Operation) :
    StaysSilent id operation.errand := by
  have frame := Visit.Untracked.frame
  cases onSession : operation.isOnSession with
  | true =>
      cases operation with
      | startSession context => exact staysSilent_startSession context fun _ => hushed_pure _
      | startTracking started context =>
          exact staysSilent_startTracking started context fun _ => hushed_pure _
      | recordPage path => exact ((hushed_recordPage path).map _).staysSilent
      | sendHeartbeat => exact (hushed_sendHeartbeat.map _).staysSilent
      | hidePage => exact (hushed_hidePage.map _).staysSilent
      | stopHeartbeat => exact (hushed_stopHeartbeat.map _).staysSilent
      | endTracking => exact (hushed_endTracking.map _).staysSilent
      | shutDown => exact (hushed_endTracking.map _).staysSilent
      | _ => cases onSession
  | false =>
      cases follows : operation.followsSession with
      | true =>
          cases operation with
          | verifyAndFollow context =>
              rw [errand_verifyAndFollow]
              refine frame.within_verify.untracks.hushed.bind_staysSilent fun outcome => ?_
              exact staysSilent_followSwap context outcome fun _ => hushed_pure _
          | leave =>
              rw [errand_leave]
              refine Hushed.staysSilent (frame.within_logOut.untracks.hushed.bind fun outcome => ?_)
              exact (hushed_followLogOut outcome).map _
          | _ => cases follows
      | false => exact (untracks_errand onSession follows).hushed.staysSilent

end VisitorLink
