import VisitorLink.Proofs.Visit.Handover

/-!
# What is reported of sessions

The service is told of sessions by the operations that track pages, and by those that the session
follows. What a piece of one of them tells, and what becomes of the tracker, depends on the tracker
alone and on how far the start of a session is that the operation is making: whether it waits for
the end of the former session to be answered, or for its own request.

Main statement: every piece of an operation tells what `Tracker.Goes` allows and leaves the
operation at a point from which this goes on (`Operation.tells_start`, `Operation.tells_answer` and
`Operation.tells_wake`).
-/

namespace VisitorLink

open Errand

/-! ## Inquiries about sessions -/

namespace Visit

/-- The inquiries about sessions so far, oldest first. -/
def reports (visit : Visit) : List Inquiry :=
  (visit.journal.map JournalEntry.inquiry).filter Inquiry.isSession

/-- What is told about sessions is read off the journal. -/
theorem reports_of_journal {before after : Visit} (journal : after.journal = before.journal) :
    after.reports = before.reports :=
  congrArg (fun journal => (journal.map JournalEntry.inquiry).filter Inquiry.isSession) journal

/-- An inquiry about a session is one more report. -/
theorem reports_inquire (visit : Visit) {inquiry : Inquiry} (session : inquiry.isSession = true) :
    (visit.inquire inquiry).reports = visit.reports ++ [inquiry] := by
  simp [reports, inquire, session]

/-- What does not track pages reports nothing. -/
theorem Untracked.reports {before after : Visit} (untracked : before.Untracked after) :
    after.reports = before.reports := by
  obtain ⟨entries, journal, other⟩ := untracked.inquires
  have none : (entries.map JournalEntry.inquiry).filter Inquiry.isSession = [] := by
    simpa using other
  rw [Visit.reports, Visit.reports, journal, List.map_append, List.filter_append, none,
    List.append_nil]

/-- That one visit came from another without any tracking of pages, before the same outside. -/
structure OffTrack (before after : Visit) : Prop where
  untracked : before.Untracked after
  outside : after.outside = before.outside

/-- Telling an event leaves the outside as it is. -/
theorem emit_outside (visit : Visit) (event : Event) :
    (visit.emit event).outside = visit.outside := by
  unfold emit
  split <;> rfl

/-- Staying off the track is a frame, the outside being the same. -/
theorem OffTrack.frame : Frame OffTrack where
  refl visit := ⟨Untracked.frame.refl visit, rfl⟩
  trans _ _ _ before after :=
    ⟨before.untracked.trans after.untracked, after.outside.trans before.outside⟩
  apply visit _ other := ⟨Untracked.frame.apply visit other, rfl⟩
  emit visit event := ⟨Untracked.frame.emit visit event, visit.emit_outside event⟩
  attempt visit addresses := ⟨Untracked.frame.attempt visit addresses, rfl⟩
  store visit _ stores := ⟨Untracked.frame.store visit stores, rfl⟩
  detect visit := ⟨Untracked.frame.detect visit, rfl⟩
  ask visit _ ordinary := ⟨Untracked.frame.ask visit ordinary, rfl⟩
  check visit _ ends := ⟨Untracked.frame.check visit ends, rfl⟩

end Visit

/-- How the end of a session is told, without waiting if that is possible. -/
def Outside.ending (outside : Outside) (id : String) : Inquiry :=
  if outside.sendsBeacons then .endBeacon id else .call (.service (.endSession id))

/-- The end of a session is told by an inquiry about it, whichever way. -/
theorem Outside.ending_isSession (outside : Outside) (id : String) :
    (outside.ending id).isSession = true := by
  unfold Outside.ending
  split <;> rfl

namespace Tracker

/-- The visitor whose session goes on. -/
def ongoing? (tracker : Tracker) : Option String :=
  tracker.visitor.filter fun _ => !tracker.ended

/-- The visitor for whom a page would be recorded: the page recorded last is not recorded again. -/
def viewer? (tracker : Tracker) (path : String) : Option String :=
  tracker.ongoing?.filter fun _ => tracker.lastPath != some path

/-- The tracker after a page was viewed. -/
def viewing (tracker : Tracker) (path : String) : Tracker :=
  if (tracker.viewer? path).isSome then { tracker with lastPath := some path } else tracker

theorem viewing_visitor (tracker : Tracker) (path : String) :
    (tracker.viewing path).visitor = tracker.visitor := by
  unfold viewing
  split <;> rfl

theorem viewing_ended (tracker : Tracker) (path : String) :
    (tracker.viewing path).ended = tracker.ended := by
  unfold viewing
  split <;> rfl

theorem viewing_heartbeat (tracker : Tracker) (path : String) :
    (tracker.viewing path).heartbeat = tracker.heartbeat := by
  unfold viewing
  split <;> rfl

/-- The session of a visitor goes on if the visitor is known and the session not ended. -/
theorem ongoing?_eq_some_iff {tracker : Tracker} {id : String} :
    tracker.ongoing? = some id ↔ tracker.visitor = some id ∧ tracker.ended = false := by
  simp [ongoing?, Option.filter_eq_some_iff]

/-- For a known visitor it depends on the end of the session only. -/
theorem ongoing?_of_known {tracker : Tracker} {id : String} (known : tracker.visitor = some id) :
    tracker.ongoing? = if tracker.ended then none else some id := by
  rw [ongoing?, known]
  cases tracker.ended <;> rfl

/-- Without a visitor there is no session that goes on. -/
theorem ongoing?_of_unknown {tracker : Tracker} (unknown : tracker.visitor = none) :
    tracker.ongoing? = none := by
  rw [ongoing?, unknown]
  rfl

/-- A session that has ended does not go on. -/
theorem ongoing?_of_ended {tracker : Tracker} (ended : tracker.ended = true) :
    tracker.ongoing? = none := by
  rw [ongoing?, ended]
  cases tracker.visitor <;> rfl

/-- While a session goes on, a page is recorded unless it was recorded last. -/
theorem viewer?_of_ongoing {tracker : Tracker} {id : String} (ongoing : tracker.ongoing? = some id)
    (path : String) :
    tracker.viewer? path = if tracker.lastPath = some path then none else some id := by
  rw [viewer?, ongoing]
  by_cases seen : tracker.lastPath = some path <;> simp [seen]

/-- Without a session that goes on, no page is recorded. -/
theorem viewer?_of_not_ongoing {tracker : Tracker} (quiet : tracker.ongoing? = none)
    (path : String) : tracker.viewer? path = none := by
  rw [viewer?, quiet]
  rfl

end Tracker

/-! ## What the tracker does -/

/-- How far an operation is with the start of a session. -/
inductive Phase
  /-- No start is under way. -/
  | aside
  /-- The end of the former session has not been answered yet. -/
  | closing (id : String) (context : PageContext)
  /-- The request to start the session has not been answered yet. -/
  | starting (id : String) (context : PageContext) (request : StartRequest)

/-- What sets the tracker going: something that no start depends on, or an answer that the start of
a session has waited for. -/
inductive Spur
  | go
  | closed (id : String) (context : PageContext)
  | answered (id : String) (context : PageContext) (accepted : Bool)

/-- What an answer sets going at a phase. -/
def Phase.spur (accepted : Bool) : Phase → Spur
  | .aside => .go
  | .closing id context => .closed id context
  | .starting id context _ => .answered id context accepted

namespace Tracker

/-- What the tracker does at once: what it tells the service, what it becomes, and how far a start
is then. -/
inductive Acts (outside : Outside) (before : Tracker) :
    Spur → List Inquiry → Tracker → Phase → Prop
  | rest : Acts outside before .go [] before .aside
  | still : Acts outside before .go [] { before with heartbeat := none } .aside
  | view (path : String) :
      Acts outside before .go
        ((before.viewer? path).toList.map fun id => .call (.service (.recordPage id path)))
        (before.viewing path) .aside
  | pulse :
      Acts outside before .go
        (before.ongoing?.toList.map fun id => .call (.service (.heartbeat id))) before .aside
  | conclude (goesOn : before.ended = false) :
      Acts outside before .go (before.ongoing?.toList.map outside.ending)
        { before with ended := true, heartbeat := none } .aside
  | takeUp {id : String} (other : before.visitor ≠ some id) (context : PageContext) :
      Acts outside before .go (before.ongoing?.toList.map outside.ending)
        { takenUp id before with ended := true } (.closing id context)
  | begin (id : String) (context : PageContext) (request : StartRequest) :
      Acts outside before (.closed id context) [.call (.service (.startSession id request))]
        { before with ended := false } (.starting id context request)
  | accept {id : String} (context : PageContext) {heartbeat : Heartbeat}
      (own : heartbeat.visitor = id) :
      Acts outside before (.answered id context true)
        ((before.viewer? context.path).toList.map fun viewer =>
          .call (.service (.recordPage viewer context.path)))
        { before.viewing context.path with
          heartbeat := some heartbeat, heartbeats := before.heartbeats + 1 } .aside
  | refuse (id : String) (context : PageContext) :
      Acts outside before (.answered id context false) []
        { before with visitor := before.visitor.filter (· != id) } .aside

/-- What the tracker does in one piece. If there is nothing to wait for at the end of the former
session, the start goes on at once. -/
inductive Goes (outside : Outside) (before : Tracker) :
    Spur → List Inquiry → Tracker → Phase → Prop
  | once {spur : Spur} {told : List Inquiry} {after : Tracker} {phase : Phase}
      (acts : before.Acts outside spur told after phase) : Goes outside before spur told after phase
  | twice {spur : Spur} {told told' : List Inquiry} {middle after : Tracker} {phase : Phase}
      {id : String} {context : PageContext}
      (acts : before.Acts outside spur told middle (.closing id context))
      (goesOn : middle.Acts outside (.closed id context) told' after phase) :
      Goes outside before spur (told ++ told') after phase

end Tracker

/-- After an act that waits for nothing, the start goes on at once. -/
theorem Tracker.Acts.goesOn {outside : Outside} {before middle after : Tracker} {spur : Spur}
    {told told' : List Inquiry} {phase : Phase} {id : String} {context : PageContext}
    (acts : before.Acts outside spur told middle (.closing id context))
    (goes : middle.Goes outside (.closed id context) told' after phase) :
    before.Goes outside spur (told ++ told') after phase := by
  cases goes with
  | once acts' => exact .twice acts acts'
  | twice acts' => cases acts'

/-- The visit after a heartbeat was started for a visitor. -/
def Visit.beating (visit : Visit) (id : String) : Visit :=
  let period := visit.settings.heartbeatPeriod
  { visit with
    tracker.heartbeat := some { visitor := id, due := visit.clock + period, period := period }
    tracker.heartbeats := visit.tracker.heartbeats + 1 }

/-! ## Where operations stand -/

namespace Call

/-- Whether a call starts a session. -/
def isStart : Call → Bool
  | .service (.startSession _ _) => true
  | _ => false

/-- Whether the answer to a call accepts the start of a session. -/
def accepts : (call : Call) → call.Answer → Bool
  | .service (.startSession _ _), answer => Except.isOk answer
  | _, _ => false

/-- A call off the session starts none. -/
theorem not_isStart {call : Call} (other : call.isSession = false) : call.isStart = false := by
  cases call with
  | provider call => rfl
  | service call => cases call <;> first | rfl | cases other

end Call

namespace Operation

/-- The page on which the sessions start that an operation starts. -/
def pageContext? : Operation → Option PageContext
  | .startSession context | .startTracking _ context | .verifyAndFollow context => some context
  | _ => none

/-- That nothing is left of an operation but its outcome. -/
def EndsWith {α : Type} (rest : α → Errand Outcome) : Prop :=
  ∀ result, ∃ outcome, rest result = pure outcome

/-- That nothing is left of an operation but its outcome when the start of a session has ended. -/
structure AfterStart (operation : Operation) (context : PageContext)
    (rest : Bool → Errand Outcome) : Prop where
  context : operation.pageContext? = some context
  ends : EndsWith rest

/-- That what is left of an operation does not depend on the start of a session: it tracks no pages,
or the session follows at its end. -/
inductive LeadsOn : Operation → Errand Outcome → Prop
  | nowhere {operation : Operation} {errand : Errand Outcome} (untracks : Untracks errand) :
      LeadsOn operation errand
  | swap {errand : Errand (Except LinkError VerifyOutcome)}
      (within : Within Visit.OffTrack errand) (context : PageContext) :
      LeadsOn (.verifyAndFollow context)
        (errand >>= fun outcome => .verify <$> followSwap context outcome)
  | logOut {errand : Errand (Except LinkError Unit)} (within : Within Visit.OffTrack errand) :
      LeadsOn .leave (errand >>= fun outcome => .account <$> followLogOut outcome)

/-- How far an operation that waits is with the start of a session. -/
inductive StandsAt (operation : Operation) : Phase → Errand.Paused Outcome → Prop
  | calling {call : Call} {next : call.Answer → Errand Outcome} (other : call.isStart = false)
      (leads : ∀ answer, operation.LeadsOn (next answer)) :
      StandsAt operation .aside (.calling call next)
  | sleeping {wakeUp : Nat} {next : Errand Outcome} (leads : operation.LeadsOn next) :
      StandsAt operation .aside (.sleeping wakeUp next)
  | closing {id previous : String} {context : PageContext} {rest : Bool → Errand Outcome}
      (after : operation.AfterStart context rest) :
      StandsAt operation (.closing id context)
        (.calling (.service (.endSession previous)) fun _ => reopen id context >>= rest)
  | starting {id : String} {context : PageContext} {request : StartRequest}
      {rest : Bool → Errand Outcome} (after : operation.AfterStart context rest) :
      StandsAt operation (.starting id context request)
        (.calling (.service (.startSession id request)) fun answer =>
          receiveStart id context answer >>= rest)

/-- That a piece of an operation tells the service something, does to the tracker what goes with it,
and leaves the operation with the start of a session as far as it has come. -/
structure Tells (operation : Operation) (spur : Spur) (before : Visit) (told : List Inquiry)
    (phase : Phase) (piece : Errand.Paused Outcome × Visit) : Prop where
  goes : before.tracker.Goes before.outside spur told piece.2.tracker phase
  reports : piece.2.reports = before.reports ++ told
  stands : (∃ outcome, piece.1 = .finished outcome ∧ phase = .aside) ∨
    operation.StandsAt phase piece.1

namespace Tells

variable {operation : Operation} {spur : Spur} {before middle : Visit} {told : List Inquiry}
  {phase : Phase} {piece : Errand.Paused Outcome × Visit}

/-- What happens off the track may come first. -/
theorem of_offTrack (off : before.OffTrack middle)
    (tells : operation.Tells spur middle told phase piece) :
    operation.Tells spur before told phase piece where
  goes := by
    rw [← off.untracked.tracker, ← off.outside]
    exact tells.goes
  reports := tells.reports.trans (congrArg (· ++ told) off.untracked.reports)
  stands := tells.stands

end Tells

end Operation

namespace Errand

variable {α β : Type}

/-! ## Pieces -/

/-- Recording a page asks the service if there is a viewer, and goes on at once if there is none. -/
theorem run_recordPage_bind (path : String) (rest : Bool → Errand β) (visit : Visit) :
    run (recordPage path >>= rest) visit =
      match visit.tracker.viewer? path with
      | none => run (rest false) visit
      | some id =>
          (.calling (.service (.recordPage id path)) fun _ => rest true,
            { visit with tracker := visit.tracker.viewing path }.inquire
              (.call (.service (.recordPage id path)))) := by
  unfold recordPage Tracker.viewing
  rw [bind_assoc, run_visit_bind]
  dsimp only
  rcases Option.eq_none_or_eq_some visit.tracker.visitor with known | ⟨id, known⟩
  · rw [Tracker.viewer?_of_not_ongoing (Tracker.ongoing?_of_unknown known)]
    conv_lhs => rw [known]
    rfl
  · rcases Bool.eq_false_or_eq_true visit.tracker.ended with ended | ended
    · rw [Tracker.viewer?_of_not_ongoing (Tracker.ongoing?_of_ended ended)]
      conv_lhs => rw [known, ended]
      rfl
    · rw [Tracker.viewer?_of_ongoing (Tracker.ongoing?_eq_some_iff.2 ⟨known, ended⟩)]
      conv_lhs => rw [known, ended]
      by_cases seen : visit.tracker.lastPath = some path
      · rw [if_pos seen, seen, beq_self_eq_true]
        rfl
      · rw [if_neg seen, beq_false_of_ne seen]
        rfl

/-- A heartbeat is sent while the session goes on. -/
theorem run_sendHeartbeat_bind (rest : Bool → Errand β) (visit : Visit) :
    run (sendHeartbeat >>= rest) visit =
      match visit.tracker.ongoing? with
      | none => run (rest false) visit
      | some id =>
          (.calling (.service (.heartbeat id)) fun _ => rest true,
            visit.inquire (.call (.service (.heartbeat id)))) := by
  unfold sendHeartbeat
  rw [bind_assoc, run_visit_bind]
  dsimp only
  cases known : visit.tracker.visitor with
  | none =>
      rw [Tracker.ongoing?_of_unknown known]
      rfl
  | some id =>
      rw [Tracker.ongoing?_of_known known]
      cases visit.tracker.ended <;> rfl

/-- The first end of a session stops the heartbeat and is told if the visitor is known. -/
theorem run_endTracking_bind (rest : Bool → Errand β) (visit : Visit) :
    run (endTracking >>= rest) visit =
      if visit.tracker.ended then run (rest false) visit
      else
        match visit.tracker.visitor with
        | none =>
            run (rest false)
              { visit with tracker := { visit.tracker with ended := true, heartbeat := none } }
        | some id =>
            run (close id >>= fun _ => rest true)
              { visit with
                tracker := { visit.tracker with ended := true, heartbeat := none } } := by
  obtain ⟨_, _, _, _, _, _, ⟨visitor, _, _, _, ended⟩, _, _, _⟩ := visit
  cases ended with
  | true => rfl
  | false =>
      cases visitor with
      | none => rfl
      | some id =>
          exact congrArg (run · _) (bind_assoc (close id) (fun _ => pure true) rest)

/-- The end of a session is told once, and its answer is waited for if it is to come. -/
theorem run_close_bind_eq (closed : String) (rest : Unit → Errand β) (visit : Visit) :
    run (close closed >>= rest) visit =
      if visit.outside.sendsBeacons then
        run (rest ()) (visit.inquire (visit.outside.ending closed))
      else
        (.calling (.service (.endSession closed)) fun _ => rest (),
          visit.inquire (visit.outside.ending closed)) := by
  rw [run_close_bind]
  unfold Outside.ending
  split <;> rfl

/-- What follows an errand depends on its run only. -/
theorem run_bind_congr {errand errand' : Errand α} {visit visit' : Visit}
    (same : run errand visit = run errand' visit') (rest : α → Errand β) :
    run (errand >>= rest) visit = run (errand' >>= rest) visit' := by
  rw [run_bind, same, ← run_bind]

/-- The session of the visitor that is known already is not started again. -/
theorem run_startTracking_of_same {id : String} {visit : Visit}
    (same : visit.tracker.visitor = some id) (context : PageContext) :
    run (startTracking id context) visit = (.finished false, visit) := by
  unfold startTracking
  rw [run_visit_bind]
  dsimp only
  rw [same, beq_self_eq_true]
  rfl

/-- A visitor is taken up first, and the former session is closed if it goes on. -/
theorem run_startTracking_bind {id : String} {visit : Visit}
    (other : visit.tracker.visitor ≠ some id) (context : PageContext) (rest : Bool → Errand β) :
    run (startTracking id context >>= rest) visit =
      let taken : Visit :=
        { visit with tracker := { takenUp id visit.tracker with ended := true } }
      match visit.tracker.ongoing? with
      | none => run (reopen id context >>= rest) taken
      | some previous => run (close previous >>= fun _ => reopen id context >>= rest) taken := by
  have runs := run_startTracking other context
  cases goesOn : visit.tracker.ongoing? with
  | none =>
      rw [Tracker.ongoing?] at goesOn
      rw [goesOn] at runs
      exact run_bind_congr runs rest
  | some previous =>
      rw [Tracker.ongoing?] at goesOn
      rw [goesOn] at runs
      rw [run_bind_congr runs rest, bind_assoc]

end Errand

namespace Operation

variable {operation : Operation}

/-! ## Where pieces stop -/

/-- That a piece tells the service something and leaves the operation with no start under way. -/
structure Leaves (operation : Operation) (before : Visit) (told : List Inquiry) (tracker : Tracker)
    (piece : Errand.Paused Outcome × Visit) : Prop where
  tracker : piece.2.tracker = tracker
  reports : piece.2.reports = before.reports ++ told
  stands : (∃ outcome, piece.1 = .finished outcome) ∨ operation.StandsAt .aside piece.1

/-- What tells the service something with no start under way is a whole piece. -/
theorem Leaves.tells {before : Visit} {spur : Spur} {told : List Inquiry} {tracker : Tracker}
    {piece : Errand.Paused Outcome × Visit} (leaves : operation.Leaves before told tracker piece)
    (acts : before.tracker.Acts before.outside spur told tracker .aside) :
    operation.Tells spur before told .aside piece where
  goes := .once (leaves.tracker ▸ acts)
  reports := leaves.reports
  stands := leaves.stands.imp_left fun ⟨outcome, finished⟩ => ⟨outcome, finished, rfl⟩

/-- An end of an operation tracks nothing. -/
theorem EndsWith.untracks {α : Type} {rest : α → Errand Outcome} (ends : EndsWith rest)
    (result : α) : Untracks (rest result) := by
  obtain ⟨outcome, same⟩ := ends result
  rw [same]
  exact untracks_pure outcome

section Leaves

variable {α : Type} {rest : α → Errand Outcome} (ends : EndsWith rest) (result : α)
  (before : Visit) (tracker : Tracker)

include ends

/-- An operation that ends tells nothing. -/
theorem leaves_finished :
    operation.Leaves before [] tracker (run (rest result) { before with tracker := tracker }) := by
  obtain ⟨outcome, same⟩ := ends result
  rw [same]
  exact ⟨rfl, (List.append_nil _).symm, .inl ⟨outcome, rfl⟩⟩

/-- A call about the session that nothing depends on. -/
theorem leaves_asked (call : Call) (session : call.isSession = true)
    (other : call.isStart = false) :
    operation.Leaves before [.call call] tracker
      (.calling call fun _ => rest result,
        { before with tracker := tracker }.inquire (.call call)) where
  tracker := rfl
  reports := Visit.reports_inquire _ session
  stands := .inr (.calling other fun _ => .nowhere (ends.untracks result))

/-- The end of a session is told, and the operation ends with its answer if there is one to come. -/
theorem leaves_close (id : String) :
    operation.Leaves before [before.outside.ending id] tracker
      (run (close id >>= fun _ => rest result) { before with tracker := tracker }) := by
  have told := Visit.reports_inquire { before with tracker := tracker }
    (before.outside.ending_isSession id)
  rw [run_close_bind_eq]
  split
  · obtain ⟨outcome, same⟩ := ends result
    rw [same]
    exact ⟨rfl, told, .inl ⟨outcome, rfl⟩⟩
  · exact ⟨rfl, told, .inr (.calling rfl fun _ => .nowhere (ends.untracks result))⟩

end Leaves

section EndsWith

variable {rest : Bool → Errand Outcome} (ends : EndsWith rest) (visit : Visit)

include ends

/-- A page that is recorded is told, and nothing else. -/
theorem leaves_recordPage (path : String) :
    operation.Leaves visit
      ((visit.tracker.viewer? path).toList.map fun id => .call (.service (.recordPage id path)))
      (visit.tracker.viewing path) (run (Errand.recordPage path >>= rest) visit) := by
  rw [run_recordPage_bind]
  cases views : visit.tracker.viewer? path with
  | none =>
      have same : visit.tracker.viewing path = visit.tracker := by
        rw [Tracker.viewing, views]
        rfl
      rw [same]
      exact leaves_finished ends false visit visit.tracker
  | some id =>
      exact leaves_asked ends true visit _ (.service (.recordPage id path)) rfl rfl

/-- A heartbeat that is sent is told, and nothing else. -/
theorem leaves_sendHeartbeat :
    operation.Leaves visit
      (visit.tracker.ongoing?.toList.map fun id => .call (.service (.heartbeat id)))
      visit.tracker (run (Errand.sendHeartbeat >>= rest) visit) := by
  rw [run_sendHeartbeat_bind]
  cases visit.tracker.ongoing? with
  | none => exact leaves_finished ends false visit visit.tracker
  | some id => exact leaves_asked ends true visit visit.tracker (.service (.heartbeat id)) rfl rfl

/-- Ending the tracking is one act of the tracker, if any. -/
theorem tells_endTracking :
    ∃ told, operation.Tells .go visit told .aside (run (Errand.endTracking >>= rest) visit) := by
  rw [run_endTracking_bind]
  split
  · exact ⟨[], (leaves_finished ends false visit visit.tracker).tells .rest⟩
  case isFalse goesOn =>
    have going : visit.tracker.ended = false := eq_false_of_ne_true goesOn
    have acts : visit.tracker.Acts visit.outside .go _ _ _ := .conclude going
    rcases Option.eq_none_or_eq_some visit.tracker.visitor with known | ⟨id, known⟩
    · rw [Tracker.ongoing?_of_unknown known] at acts
      simp only [known] at acts ⊢
      exact ⟨_, (leaves_finished ends false visit _).tells acts⟩
    · rw [Tracker.ongoing?_eq_some_iff.2 ⟨known, going⟩] at acts
      simp only [known] at acts ⊢
      exact ⟨_, (leaves_close ends true visit _ id).tells acts⟩

/-- Hiding the page is one act of the tracker, if any. -/
theorem tells_hidePage :
    ∃ told, operation.Tells .go visit told .aside (run (Errand.hidePage >>= rest) visit) := by
  unfold Errand.hidePage
  rw [bind_assoc, run_visit_bind]
  split
  · exact ⟨[], (leaves_finished ends false visit visit.tracker).tells .rest⟩
  · exact ⟨_, (leaves_sendHeartbeat ends visit).tells .pulse⟩

end EndsWith

/-! ## The start of a session -/

variable {context : PageContext} {rest : Bool → Errand Outcome}

/-- Where the former session needs no answer to its end, the new one is asked for. -/
theorem tells_reopen (after : operation.AfterStart context rest) (id : String) (visit : Visit) :
    ∃ request, operation.Tells (.closed id context) visit
      [.call (.service (.startSession id request))] (.starting id context request)
      (run (reopen id context >>= rest) visit) := by
  obtain ⟨request, storage, asks⟩ := run_requestStart id context
    { visit with tracker.ended := false }
  have stops : run (reopen id context) visit = _ := asks
  rw [run_bind_of_calling stops]
  refine ⟨request, .once (.begin id context request), ?_, .inr (.starting after)⟩
  exact Visit.reports_inquire _ rfl

/-- The start of tracking takes the visitor up, and begins at once where no end is waited for. -/
theorem tells_startTracking (after : operation.AfterStart context rest) (id : String)
    (visit : Visit) :
    ∃ told phase, operation.Tells .go visit told phase
      (run (Errand.startTracking id context >>= rest) visit) := by
  by_cases same : visit.tracker.visitor = some id
  · rw [run_bind_of_finished (run_startTracking_of_same same context)]
    exact ⟨[], .aside, (leaves_finished after.ends false visit visit.tracker).tells .rest⟩
  · have takesUp : visit.tracker.Acts visit.outside .go _ _ _ := .takeUp same context
    let taken : Visit :=
      { visit with tracker := { takenUp id visit.tracker with ended := true } }
    rw [run_startTracking_bind same]
    cases goesOn : visit.tracker.ongoing? with
    | none =>
        rw [goesOn] at takesUp
        obtain ⟨request, goes, reports, stands⟩ := tells_reopen after id taken
        exact ⟨_, _, takesUp.goesOn goes, reports, stands⟩
    | some previous =>
        rw [goesOn] at takesUp
        dsimp only
        rw [run_close_bind_eq]
        -- A beacon is sent at once, while the call that ends the session is waited for.
        split
        · let closed := taken.inquire (visit.outside.ending previous)
          obtain ⟨request, goes, reports, stands⟩ := tells_reopen after id closed
          have told : closed.reports = visit.reports ++ [visit.outside.ending previous] :=
            taken.reports_inquire (visit.outside.ending_isSession previous)
          refine ⟨_, _, takesUp.goesOn goes, ?_, stands⟩
          rw [reports, told, List.append_assoc]
          rfl
        · refine ⟨_, _, .once takesUp, ?_, .inr (.closing after)⟩
          exact Visit.reports_inquire taken (visit.outside.ending_isSession previous)

/-- Viewing a page and starting the heartbeat do not interfere. -/
theorem viewing_beating (tracker : Tracker) (heartbeat : Heartbeat) (path : String) :
    Tracker.viewing
        { tracker with heartbeat := some heartbeat, heartbeats := tracker.heartbeats + 1 } path =
      { tracker.viewing path with
        heartbeat := some heartbeat, heartbeats := tracker.heartbeats + 1 } := by
  unfold Tracker.viewing
  change (if (tracker.viewer? path).isSome then _ else _) = _
  split <;> rfl

/-- To drop a visitor is to filter it out. -/
theorem filter_visitor (tracker : Tracker) (id : String) :
    (if tracker.visitor == some id then { tracker with visitor := none } else tracker) =
      { tracker with visitor := tracker.visitor.filter (· != id) } := by
  obtain ⟨visitor, _, _, _, _⟩ := tracker
  cases visitor with
  | none => rfl
  | some viewer =>
      by_cases same : viewer = id
      · simp [Option.filter_some, same]
      · simp [Option.filter_some, same]

/-- An accepted start sets the heartbeat going before the first page is recorded. -/
theorem AfterStart.leaves_receiveStart_ok (after : operation.AfterStart context rest) (id : String)
    (report : SessionReport) (visit : Visit) :
    operation.Leaves (visit.beating id)
      (((visit.beating id).tracker.viewer? context.path).toList.map fun viewer =>
        .call (.service (.recordPage viewer context.path)))
      ((visit.beating id).tracker.viewing context.path)
      (run (receiveStart id context (.ok report) >>= rest) visit) := by
  have runs : run (receiveStart id context (.ok report) >>= rest) visit =
      run (Errand.recordPage context.path >>= fun _ => rest true) (visit.beating id) :=
    congrArg (run · (visit.beating id))
      (bind_assoc (Errand.recordPage context.path) (fun _ => pure true) rest)
  -- From here on it does not matter whether the page is recorded.
  have ends : EndsWith fun _ : Bool => rest true := fun _ => after.ends true
  rw [runs]
  exact leaves_recordPage ends (visit.beating id) context.path

/-- Whoever asked for the start of a session takes note of the answer, whatever has become of the
tracker by then. -/
theorem tells_receiveStart (after : operation.AfterStart context rest) (id : String)
    (answer : Except ApiError SessionReport) (visit : Visit) :
    ∃ told, operation.Tells (.answered id context answer.isOk) visit told .aside
      (run (receiveStart id context answer >>= rest) visit) := by
  cases answer with
  | error error =>
      let refused : Tracker :=
        if visit.tracker.visitor == some id then { visit.tracker with visitor := none }
        else visit.tracker
      have leaves : operation.Leaves _ _ _ _ := leaves_finished after.ends false visit refused
      refine ⟨[], leaves.tells ?_⟩
      rw [show refused = _ from filter_visitor visit.tracker id]
      exact .refuse id context
  | ok report =>
      obtain ⟨tracker, reports, stands⟩ := after.leaves_receiveStart_ok id report visit
      refine ⟨_, Leaves.tells ⟨tracker, reports, stands⟩ ?_⟩
      unfold Visit.beating
      rw [viewing_beating]
      exact .accept context rfl

/-! ## All operations -/

/-- An operation that only renames a result ends with it. -/
theorem endsWith_pure {α : Type} (rename : α → Outcome) :
    EndsWith fun result => pure (rename result) :=
  fun result => ⟨rename result, rfl⟩

/-- What is done off the track may be followed by anything. -/
theorem tells_bind {α : Type} {Moves : Visit → Visit → Prop} {Asks : Call → Prop}
    {errand : Errand α} {rest : α → Errand Outcome}
    (keeps : Keeps Moves Asks (fun _ => True) errand) (visit : Visit)
    (untracked : ∀ {before after : Visit}, Moves before after → before.Untracked after)
    (other : ∀ {call : Call}, Asks call → call.isStart = false)
    (leads : ∀ {errand : Errand α}, Keeps Moves Asks (fun _ => True) errand →
      operation.LeadsOn (errand >>= rest))
    (tells : ∀ result middle, Moves visit middle →
      ∃ told phase, operation.Tells .go visit told phase (run (rest result) middle)) :
    ∃ told phase, operation.Tells .go visit told phase (run (errand >>= rest) visit) := by
  have moves := keeps.moves visit
  have stops := (keeps visit).stops
  rw [run_bind]
  generalize run errand visit = piece at moves stops
  obtain ⟨paused, after⟩ := piece
  have rests : visit.tracker.Goes visit.outside .go [] after.tracker .aside :=
    (untracked moves).tracker ▸ .once .rest
  have silent : after.reports = visit.reports ++ [] :=
    (untracked moves).reports.trans (List.append_nil _).symm
  cases paused with
  | finished result => exact tells result after moves
  | calling call next =>
      exact ⟨[], .aside, rests, silent,
        .inr (.calling (other stops.1) fun answer => leads (stops.2 answer))⟩
  | sleeping wakeUp next => exact ⟨[], .aside, rests, silent, .inr (.sleeping (leads stops))⟩

/-- After verifying, the session follows a swap of the visitor. -/
theorem tells_followSwap (context : PageContext) (outcome : Except LinkError VerifyOutcome)
    (visit : Visit) :
    ∃ told phase, (Operation.verifyAndFollow context).Tells .go visit told phase
      (run (.verify <$> followSwap context outcome) visit) := by
  have stays (outcome : Except LinkError VerifyOutcome) :
      (Operation.verifyAndFollow context).Tells .go visit [] .aside
        (run (pure (.verify outcome)) visit) :=
    (leaves_finished (endsWith_pure Outcome.verify) outcome visit visit.tracker).tells .rest
  cases outcome with
  | error error => exact ⟨_, _, stays _⟩
  | ok outcome =>
      cases outcome with
      | swapped previous current =>
          unfold followSwap
          rw [map_bind, run_visit_bind]
          split
          · rw [map_bind]
            exact tells_startTracking ⟨rfl, endsWith_pure fun _ => .verify _⟩ current visit
          · exact ⟨_, _, stays _⟩
      | _ => exact ⟨_, _, stays _⟩

/-- After a log-out, the session ends if it was accepted. -/
theorem tells_followLogOut (outcome : Except LinkError Unit) (visit : Visit) :
    ∃ told phase, Operation.leave.Tells .go visit told phase
      (run (.account <$> followLogOut outcome) visit) := by
  have leaves (tracker : Tracker) : Operation.leave.Leaves visit [] tracker
      (run (pure (.account outcome)) { visit with tracker := tracker }) :=
    leaves_finished (endsWith_pure Outcome.account) outcome visit tracker
  unfold followLogOut
  split
  · exact ⟨_, _, (leaves { visit.tracker with heartbeat := none }).tells .still⟩
  · exact ⟨_, _, (leaves visit.tracker).tells .rest⟩

/-- At most the session follows on what is done off the track. -/
theorem tells_followed {α : Type} {errand : Errand α} {rest : α → Errand Outcome}
    (within : Within Visit.OffTrack errand) (visit : Visit)
    (leads : ∀ {errand : Errand α}, Within Visit.OffTrack errand →
      operation.LeadsOn (errand >>= rest))
    (follows : ∀ result middle,
      ∃ told phase, operation.Tells .go middle told phase (run (rest result) middle)) :
    ∃ told phase, operation.Tells .go visit told phase (run (errand >>= rest) visit) := by
  refine tells_bind within visit Visit.OffTrack.untracked ?_ leads fun result middle off => ?_
  · exact fun ordinary => Call.not_isStart (Call.not_isSession_of_isOrdinary ordinary)
  · obtain ⟨told, phase, tells⟩ := follows result middle
    exact ⟨told, phase, tells.of_offTrack off⟩

/-- What does not depend on the start of a session tells the service in order, from any visit. -/
theorem tells_of_leadsOn {errand : Errand Outcome} (leads : operation.LeadsOn errand)
    (visit : Visit) :
    ∃ told phase, operation.Tells .go visit told phase (run errand visit) := by
  cases leads with
  | nowhere untracks =>
      rw [← bind_pure errand]
      refine tells_bind untracks visit id Call.not_isStart (fun untracks => ?_) ?_
      · rw [bind_pure]
        exact .nowhere untracks
      · intro result after moves
        refine ⟨[], .aside, moves.tracker ▸ .once .rest, ?_, .inl ⟨result, rfl, rfl⟩⟩
        exact moves.reports.trans (List.append_nil _).symm
  | swap within context =>
      exact tells_followed within visit (.swap · context) (tells_followSwap context)
  | logOut within => exact tells_followed within visit .logOut tells_followLogOut

/-- An operation that is not on the session depends on no start of one. -/
theorem leadsOn_errand {operation : Operation} (aside : operation.isOnSession = false) :
    operation.LeadsOn operation.errand := by
  cases follows : operation.followsSession with
  | false => exact .nowhere (untracks_errand aside follows)
  | true =>
      cases operation with
      | verifyAndFollow context =>
          rw [errand_verifyAndFollow]
          exact .swap Visit.OffTrack.frame.within_verify context
      | leave =>
          rw [errand_leave]
          exact .logOut Visit.OffTrack.frame.within_logOut
      | _ => cases follows

/-- What an operation tells when it is started. -/
theorem tells_start (operation : Operation) (visit : Visit) :
    ∃ told phase, operation.Tells .go visit told phase (run operation.errand visit) := by
  have flag : EndsWith fun value => pure (.flag value) := endsWith_pure Outcome.flag
  cases aside : operation.isOnSession with
  | false => exact tells_of_leadsOn (leadsOn_errand aside) visit
  | true =>
      cases operation with
      | startSession context =>
          rw [errand, Errand.startSession, map_bind, run_visit_bind]
          split
          · exact tells_startTracking ⟨rfl, flag⟩ _ visit
          · exact ⟨_, _, (leaves_finished flag false visit visit.tracker).tells .rest⟩
      | startTracking id context => exact tells_startTracking ⟨rfl, flag⟩ id visit
      | recordPage path => exact ⟨_, _, (leaves_recordPage flag visit path).tells (.view path)⟩
      | sendHeartbeat => exact ⟨_, _, (leaves_sendHeartbeat flag visit).tells .pulse⟩
      | hidePage =>
          obtain ⟨told, tells⟩ := tells_hidePage flag visit
          exact ⟨told, _, tells⟩
      | stopHeartbeat =>
          have still : Tracker := { visit.tracker with heartbeat := none }
          have ends : EndsWith fun _ : Unit => pure .nothing := endsWith_pure fun _ => .nothing
          exact ⟨_, _, (leaves_finished ends () visit _).tells .still⟩
      | endTracking =>
          obtain ⟨told, tells⟩ := tells_endTracking flag visit
          exact ⟨told, _, tells⟩
      | shutDown =>
          have ends : EndsWith fun _ : Bool => pure .nothing := endsWith_pure fun _ => .nothing
          obtain ⟨told, tells⟩ := tells_endTracking ends visit
          exact ⟨told, _, tells⟩
      | _ => cases aside

/-- What an operation tells when its call is answered. -/
theorem tells_answer {phase : Phase} {call : Call} {next : call.Answer → Errand Outcome}
    (stands : operation.StandsAt phase (.calling call next)) (answer : call.Answer)
    (visit : Visit) :
    ∃ told phase', operation.Tells (phase.spur (call.accepts answer)) visit told phase'
      (run (next answer) visit) := by
  cases stands with
  | calling other leads => exact tells_of_leadsOn (leads answer) visit
  | closing after =>
      obtain ⟨request, tells⟩ := tells_reopen after _ visit
      exact ⟨_, _, tells⟩
  | starting after =>
      obtain ⟨told, tells⟩ := tells_receiveStart after _ answer visit
      exact ⟨told, _, tells⟩

/-- What an operation tells when it is woken. -/
theorem tells_wake {phase : Phase} {wakeUp : Nat} {next : Errand Outcome}
    (stands : operation.StandsAt phase (.sleeping wakeUp next)) (visit : Visit) :
    ∃ told phase', operation.Tells .go visit told phase' (run next visit) := by
  cases stands with
  | sleeping leads => exact tells_of_leadsOn leads visit

end Operation

end VisitorLink
