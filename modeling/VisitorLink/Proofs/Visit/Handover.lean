import VisitorLink.Proofs.Visit.Sessions
import VisitorLink.Proofs.Visit.StoredId

/-!
# Going on as another visitor

A signature is accepted with a record. If the record is that of another visitor, or if the service
says so, then all that the visit knows of the former one is replaced, and a session that goes on is
handed over.

Main statements: what is replaced (`run_applyProof_of_swaps`), and that the session of the former
visitor is ended before that of the new one starts (`handsOver_startTracking`).
-/

namespace VisitorLink

namespace Visit

/-- Telling an event does not change who listens. -/
theorem emit_listening (visit : Visit) (event : Event) :
    (visit.emit event).listening = visit.listening := by
  unfold emit
  split <;> rfl

/-- Events are kept for a listener only. -/
theorem emit_events (visit : Visit) (event : Event) :
    (visit.emit event).events =
      if visit.listening then visit.events ++ [event] else visit.events := by
  unfold emit
  split <;> rfl

/-- What a visit is when it goes on as the visitor of an accepted signature, which was given as the
visitor with the given id. -/
structure GoesOnAs (before : Visit) (id : String) (answer : LinkAnswer) (after : Visit) : Prop where
  visitor : after.state.visitor = some answer.visitor
  connection : after.state.connection =
    { before.state.connection with
      verifying := false, verified := true, pendingLogin := none, linkError := none }
  attempted : after.attempted = []
  faultless : after.storage.Faultless
  remembers : after.storage.Remembers answer.visitor.id
  events : after.events =
    ((before.emit (.swapped (answer.previous.getD id) answer.visitor.id)).emit
      (.notice .success "Signed in with wallet")).events

/-- Nothing of this is changed by the tracking of pages. -/
theorem GoesOnAs.apart {before middle after : Visit} {id : String} {answer : LinkAnswer}
    (goesOn : before.GoesOnAs id answer middle) (apart : middle.Apart after) :
    before.GoesOnAs id answer after := by
  obtain ⟨faultless, remembers⟩ := apart.storage.keeps goesOn.faultless
  constructor
  case visitor => exact (congrArg State.visitor apart.state).trans goesOn.visitor
  case connection => exact (congrArg State.connection apart.state).trans goesOn.connection
  case attempted => exact apart.attempted.trans goesOn.attempted
  case faultless => exact faultless
  case remembers => exact (remembers _).2 goesOn.remembers
  case events => exact apart.events.trans goesOn.events

/-- The visit after an accepted signature that puts another visitor in place. -/
def swapped (visit : Visit) (id : String) (answer : LinkAnswer) : Visit :=
  ({ visit.apply (.verify answer.visitor) with
      attempted := []
      storage := ((RememberedId.persist answer.visitor.id).on visit.storage).2 }.emit
    (.swapped (answer.previous.getD id) answer.visitor.id)).emit
    (.notice .success "Signed in with wallet")

/-- An accepted signature puts all in place that the visit is to go on with. -/
theorem goesOnAs_swapped {visit : Visit} (faultless : visit.storage.Faultless) (id : String)
    (answer : LinkAnswer) : visit.GoesOnAs id answer (visit.swapped id answer) := by
  obtain ⟨storage, persists, faultless', remembers⟩ := faultless.persist_on answer.visitor.id
  have stored : (visit.swapped id answer).storage = storage := by
    rw [swapped, emit_storage, emit_storage, persists]
  constructor
  case visitor => rw [swapped, emit_state, emit_state]; rfl
  case connection => rw [swapped, emit_state, emit_state]; rfl
  case attempted => rw [swapped, emit_attempted, emit_attempted]
  case faultless => exact stored ▸ faultless'
  case remembers => exact stored ▸ remembers
  case events => simp only [swapped, emit_events, emit_listening]; rfl

/-- The tracker does not take part in a swap. -/
theorem swapped_tracker (visit : Visit) (id : String) (answer : LinkAnswer) :
    (visit.swapped id answer).tracker = visit.tracker := by
  rw [swapped, emit_tracker, emit_tracker]
  rfl

/-- A swap makes no inquiry. -/
theorem swapped_journal (visit : Visit) (id : String) (answer : LinkAnswer) :
    (visit.swapped id answer).journal = visit.journal := by
  rw [swapped, emit_journal, emit_journal]
  rfl

end Visit

namespace Errand

variable {α β : Type}

/-! ## The record -/

/-- An accepted signature for another visitor swaps the visit in one piece. -/
theorem run_applyProof_of_swaps {id : String} {answer : LinkAnswer} (swaps : answer.swaps id = true)
    {visit : Visit} (remembersSwap : visit.settings.remembersSwap = true) :
    run (applyProof id answer) visit =
      (.finished (.ok (.swapped (answer.previous.getD id) answer.visitor.id)),
        visit.swapped id answer) := by
  have remembers : (visit.apply (.verify answer.visitor)).settings.remembersSwap = true :=
    remembersSwap
  unfold applyProof
  rw [run_apply_bind, run_ite, answer.not_swaps_eq, swaps, if_neg nofun, run_visit_bind, run_ite,
    if_pos remembers]
  rfl

/-- A record of the visitor themselves replaces nothing that the slots and the tracker hold. -/
theorem run_applyProof_of_not_swaps {id : String} {answer : LinkAnswer}
    (stays : answer.swaps id = false) (visit : Visit) :
    run (applyProof id answer) visit =
      (.finished (.ok .verified),
        (visit.apply (.verify answer.visitor)).emit (.notice .success "Wallet verified")) := by
  unfold applyProof
  rw [run_apply_bind, run_ite, answer.not_swaps_eq, stays, if_pos Bool.not_false]
  rfl

/-! ## The start of a session -/

/-- Taking the first referrer changes the slots at most. -/
theorem run_takeReferrer (visit : Visit) :
    ∃ referrer storage, run takeReferrer visit =
      (.finished referrer, { visit with storage := storage }) := by
  unfold takeReferrer
  rw [run_visit_bind, run_ite]
  split
  · exact ⟨none, visit.storage, rfl⟩
  · rw [run_slots_bind]
    split
    · rw [run_slots_bind]
      exact ⟨_, _, rfl⟩
    · exact ⟨none, _, rfl⟩

/-- What is left of the start of a session when the service was asked for it. -/
def receiveStart (started : String) (context : PageContext) :
    Except ApiError SessionReport → Errand Bool
  | .error _ => do
      track fun tracker =>
        if tracker.visitor == some started then { tracker with visitor := none } else tracker
      return false
  | .ok _ => do
      startHeartbeat started
      let _ ← recordPage context.path
      return true

/-- The request to start a session is made with the first referrer or that of the page. -/
theorem requestStart_eq (started : String) (context : PageContext) :
    requestStart started context = takeReferrer >>= fun referrer =>
      askService (.startSession started
          { referrer := referrer.or context.referrer
            screenWidth := context.screenWidth
            device := context.screenWidth.map Device.ofWidth }) >>=
        receiveStart started context := by
  unfold requestStart
  refine bind_congr fun referrer => bind_congr fun answer => ?_
  cases answer <;> rfl

/-- The start of a session is a request to the service in any case. -/
theorem run_requestStart (started : String) (context : PageContext) (visit : Visit) :
    ∃ request storage, run (requestStart started context) visit =
      (.calling (.service (.startSession started request)) (receiveStart started context),
        { visit with storage := storage }.inquire
          (.call (.service (.startSession started request)))) := by
  obtain ⟨referrer, storage, takes⟩ := run_takeReferrer visit
  rw [requestStart_eq, run_bind_of_finished takes]
  exact ⟨_, storage, rfl⟩

/-- The end of a session is told by a beacon where these are sent, or asked for. -/
theorem run_close_bind (closed : String) (rest : Unit → Errand β) (visit : Visit) :
    run (close closed >>= rest) visit =
      if visit.outside.sendsBeacons then run (rest ()) (visit.inquire (.endBeacon closed))
      else (.calling (.service (.endSession closed)) fun _ => rest (),
        visit.inquire (.call (.service (.endSession closed)))) := by
  unfold close
  rw [bind_assoc, run_visit_bind]
  cases visit.outside.sendsBeacons <;> rfl

/-- The tracker after it has taken up a visitor. -/
def takenUp (started : String) (tracker : Tracker) : Tracker :=
  { tracker with heartbeat := none, lastPath := none, visitor := some started, ended := false }

/-- Starting to track another visitor closes the session that goes on, if there is one. -/
theorem run_startTracking {started : String} {visit : Visit}
    (other : visit.tracker.visitor ≠ some started) (context : PageContext) :
    run (startTracking started context) visit =
      match visit.tracker.visitor.filter fun _ => !visit.tracker.ended with
      | some previous =>
          run (close previous >>= fun _ => reopen started context)
            { visit with tracker := { takenUp started visit.tracker with ended := true } }
      | none =>
          run (requestStart started context)
            { visit with tracker := takenUp started visit.tracker } := by
  unfold startTracking
  rw [run_visit_bind]
  dsimp only
  rw [beq_false_of_ne other, if_neg nofun]
  cases known : visit.tracker.visitor with
  | none => rfl
  | some previous =>
      cases ended : visit.tracker.ended with
      | true => rfl
      | false => rfl

/-- Whoever is taken up anew is the visitor of the tracker when the first piece stops. -/
theorem startTracking_takesUp {started : String} {visit : Visit}
    (other : visit.tracker.visitor ≠ some started) (context : PageContext) :
    ∃ call next after, run (startTracking started context) visit = (.calling call next, after) ∧
      after.tracker.visitor = some started := by
  have reopens (middle : Visit) : ∃ call next after,
      run (reopen started context) middle = (.calling call next, after) ∧
        after.tracker.visitor = middle.tracker.visitor := by
    obtain ⟨request, storage, asks⟩ := run_requestStart started context
      { middle with tracker.ended := false }
    exact ⟨_, _, _, asks, rfl⟩
  rw [run_startTracking other]
  split
  · rw [run_close_bind]
    split
    · exact reopens _
    · exact ⟨_, _, _, rfl, rfl⟩
  · obtain ⟨request, storage, asks⟩ := run_requestStart started context
      { visit with tracker := takenUp started visit.tracker }
    exact ⟨_, _, _, asks, rfl⟩

/-- That an errand goes on with a request to start the session of a visitor. -/
def StartsSession (started : String) (errand : Errand α) : Prop :=
  ∀ visit, ∃ request next after,
    run errand visit = (.calling (.service (.startSession started request)) next, after) ∧
    after.journal =
      visit.journal ++ [⟨visit.clock, .call (.service (.startSession started request))⟩]

/-- A start that is asked for comes before what follows. -/
theorem StartsSession.bind {started : String} {errand : Errand α}
    (starts : StartsSession started errand) (rest : α → Errand β) :
    StartsSession started (errand >>= rest) := by
  intro visit
  obtain ⟨request, next, after, asks, journal⟩ := starts visit
  exact ⟨request, _, after, run_bind_of_calling asks rest, journal⟩

/-- What is left of a start when the former session was closed asks for it. -/
theorem startsSession_reopen (started : String) (context : PageContext) :
    StartsSession started (reopen started context) := by
  intro visit
  obtain ⟨request, storage, asks⟩ := run_requestStart started context
    { visit with tracker.ended := false }
  exact ⟨request, _, _, asks, rfl⟩

/-- That a piece ends the session of one visitor and then starts that of another one, or waits for
the answer to the end of the former before that. -/
inductive HandsOver (former current : String) (first : Visit) : Paused α → Visit → Prop
  | closing {after : Visit} {next : Except ApiError Unit → Errand α}
      (journal : after.journal =
        first.journal ++ [⟨first.clock, .call (.service (.endSession former))⟩])
      (starts : ∀ answer, StartsSession current (next answer)) :
      HandsOver former current first (.calling (.service (.endSession former)) next) after
  | starting {after : Visit} {request : StartRequest}
      {next : Except ApiError SessionReport → Errand α} (ending : Inquiry)
      (ends : ending.endsSession former = true)
      (journal : after.journal = first.journal ++ [⟨first.clock, ending⟩,
        ⟨first.clock, .call (.service (.startSession current request))⟩]) :
      HandsOver former current first (.calling (.service (.startSession current request)) next)
        after

/-- If the session of another visitor goes on, it is ended before the new one starts. Meanwhile the
tracker sends no heartbeats. -/
theorem handsOver_startTracking {former started : String} {visit : Visit}
    (active : visit.tracker.isActive = true) (follows : visit.tracker.visitor = some former)
    (other : former ≠ started) (context : PageContext) (rest : Bool → Errand α) :
    ∃ paused after, run (startTracking started context >>= rest) visit = (paused, after) ∧
      HandsOver former started visit paused after ∧
      after.tracker.visitor = some started ∧ after.tracker.heartbeat = none := by
  have ongoing : visit.tracker.ended = false := by
    rw [Tracker.isActive, follows, Option.isSome_some, Bool.and_true] at active
    exact (Bool.not_eq_true' _).mp active
  have runs : run (startTracking started context) visit = _ :=
    run_startTracking (fun same => other (Option.some.inj (follows.symm.trans same))) context
  rw [follows, ongoing] at runs
  replace runs := runs.trans (run_close_bind former _ _)
  cases beacons : visit.outside.sendsBeacons with
  | true =>
      rw [if_pos beacons] at runs
      obtain ⟨request, storage, asks⟩ := run_requestStart started context
        { visit.inquire (.endBeacon former) with tracker := takenUp started visit.tracker }
      rw [run_bind_of_calling (runs.trans asks)]
      refine ⟨_, _, rfl, .starting (.endBeacon former) (beq_self_eq_true former) ?_, rfl, rfl⟩
      exact List.append_assoc _ _ _
  | false =>
      rw [if_neg (Bool.eq_false_iff.1 beacons)] at runs
      rw [run_bind_of_calling runs]
      refine ⟨_, _, rfl, .closing rfl fun _ => ?_, rfl, rfl⟩
      exact (startsSession_reopen started context).bind rest

/-! ## Following a verification -/

/-- The session follows when the visit goes on as another visitor. -/
theorem handsOver_followSwap {former current : String} {visit : Visit}
    (active : visit.tracker.isActive = true) (follows : visit.tracker.visitor = some former)
    (other : former ≠ current) (previous : String) (context : PageContext) :
    ∃ paused after,
      run (Outcome.verify <$> followSwap context (.ok (.swapped previous current))) visit =
        (paused, after) ∧
      HandsOver former current visit paused after ∧
      after.tracker.visitor = some current ∧ after.tracker.heartbeat = none := by
  have starts :
      run (Outcome.verify <$> followSwap context (.ok (.swapped previous current))) visit =
        run (startTracking current context >>= fun _ =>
          pure (.verify (.ok (.swapped previous current)))) visit := by
    unfold followSwap
    rw [map_bind, run_visit_bind, if_pos active, map_bind]
    rfl
  rw [starts]
  exact handsOver_startTracking active follows other context _

/-- What follows a swap is silent about every visitor but the new one. -/
theorem hushed_followSwap {id current : String} (other : current ≠ id) (previous : String)
    (context : PageContext) :
    Hushed id (Outcome.verify <$> followSwap context (.ok (.swapped previous current))) := by
  refine Hushed.map (untracks_visit.hushed.bind fun before => ?_) _
  split
  · exact (hushed_startTracking other context).bind fun _ => hushed_pure _
  · exact hushed_pure _

end Errand

open Errand

namespace Operation.WaitsAt

variable {context : PageContext} {stage : Stage} {id : String} {request : LinkRequest}
  {next : Except ApiError LinkAnswer → Errand Outcome} {answer : LinkAnswer} {visit : Visit}

/-- An answer that swaps the visitor swaps the visit and has the session follow. -/
theorem run_swaps
    (waits : WaitsAt (.verifyAndFollow context) stage
      (.calling (.service (.linkWallet id request)) next))
    (current : visit.state.isCurrent id request.address = true) (swaps : answer.swaps id = true)
    (remembersSwap : visit.settings.remembersSwap = true) :
    run (next (.ok answer)) visit =
      run (Outcome.verify <$> followSwap context
          (.ok (.swapped (answer.previous.getD id) answer.visitor.id)))
        (visit.swapped id answer) := by
  cases waits with
  | track session => cases session
  | submit after =>
      cases after
      have stops := (run_receiveProof_ok current answer).trans
        (run_applyProof_of_swaps swaps remembersSwap)
      exact run_bind_of_finished stops _

/-- An answer that does not swap the visitor verifies the wallet and ends the operation. -/
theorem run_not_swaps
    (waits : WaitsAt (.verifyAndFollow context) stage
      (.calling (.service (.linkWallet id request)) next))
    (current : visit.state.isCurrent id request.address = true) (stays : answer.swaps id = false) :
    run (next (.ok answer)) visit =
      (.finished (.verify (.ok .verified)),
        (visit.apply (.verify answer.visitor)).emit (.notice .success "Wallet verified")) := by
  cases waits with
  | track session => cases session
  | submit after =>
      cases after
      have stops := (run_receiveProof_ok current answer).trans
        (run_applyProof_of_not_swaps stays visit)
      exact (run_bind_of_finished stops _).trans rfl

end Operation.WaitsAt

end VisitorLink
