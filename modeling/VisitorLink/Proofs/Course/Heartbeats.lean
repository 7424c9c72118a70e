import VisitorLink.Proofs.Course.Reports

/-!
# Heartbeats and their sessions

A heartbeat is started when the service accepts the start of a session. Nothing is checked at that
moment, so it runs for the visitor of the request, whether or not the session has been ended or
another visitor taken up in the meantime. A refusal takes the visitor away likewise, whether or not
a later start has given them a heartbeat.

Main statement: a heartbeat runs beside the session exactly since such an answer
(`heartbeat_strays_iff_careless_start`).
-/

namespace VisitorLink

namespace Tracker

/-- That the heartbeat, if one runs, is that of the visitor whose session goes on. -/
def Attends (tracker : Tracker) : Prop :=
  ∀ heartbeat, tracker.heartbeat = some heartbeat →
    tracker.isActive = true ∧ tracker.visitor = some heartbeat.visitor

theorem attends_of_still {tracker : Tracker} (still : tracker.heartbeat = none) :
    tracker.Attends :=
  fun _ runs => nomatch still.symm.trans runs

/-- That an answer to the start of a session leaves a heartbeat beside the session. -/
def Neglects (tracker : Tracker) (id : String) : Bool → Prop
  | true => ¬ (tracker.isActive = true ∧ tracker.visitor = some id)
  | false => tracker.isBeating = true ∧ tracker.visitor = some id

variable {outside : Outside} {before after : Tracker} {spur : Spur} {told : List Inquiry}
  {phase : Phase}

/-- A heartbeat stays with its session, unless an answer is careless. -/
theorem Acts.attends (acts : before.Acts outside spur told after phase) (attends : before.Attends)
    (careful : ∀ id context accepted, spur = .answered id context accepted →
      ¬ before.Neglects id accepted) : after.Attends := by
  cases acts with
  | rest | pulse => exact attends
  | still | conclude | takeUp => exact attends_of_still rfl
  | view path =>
      unfold viewing
      split <;> exact attends
  | begin id context request =>
      intro heartbeat runs
      obtain ⟨active, known⟩ := attends heartbeat runs
      refine ⟨?_, known⟩
      change (before.visitor).isSome = true
      rw [known]
      rfl
  | @accept id context heartbeat own =>
      have present := not_not.1 (careful id context true rfl)
      rintro _ ⟨⟩
      rw [own]
      unfold viewing
      split <;> exact present
  | refuse id context =>
      intro heartbeat runs
      have beats : before.heartbeat = some heartbeat := runs
      obtain ⟨active, known⟩ := attends heartbeat beats
      have other : heartbeat.visitor ≠ id := by
        intro same
        refine careful id context false rfl ⟨?_, same ▸ known⟩
        rw [isBeating, beats]
        rfl
      have kept : before.visitor.filter (· != id) = before.visitor := by
        rw [known, Option.filter_some, if_pos (bne_iff_ne.2 other)]
      rw [kept]
      exact ⟨active, known⟩

theorem Goes.attends (goes : before.Goes outside spur told after phase) (attends : before.Attends)
    (careful : ∀ id context accepted, spur = .answered id context accepted →
      ¬ before.Neglects id accepted) : after.Attends := by
  cases goes with
  | once acts => exact acts.attends attends careful
  | twice acts goesOn => exact goesOn.attends (acts.attends attends careful) nofun

theorem Idles.attends (idles : before.Idles told after) (attends : before.Attends) :
    after.Attends := by
  intro heartbeat runs
  obtain ⟨former, ran, same⟩ := idles.heartbeat heartbeat runs
  obtain ⟨active, known⟩ := attends former ran
  rw [idles.rest, ← same]
  exact ⟨active, known⟩

/-- After a careless answer a heartbeat runs beside the session. -/
theorem Goes.strays {id : String} {context : PageContext} {accepted : Bool}
    (goes : before.Goes outside (.answered id context accepted) told after phase)
    (neglects : before.Neglects id accepted) : ¬ after.Attends := by
  intro attends
  cases goes with
  | once acts =>
      cases acts with
      | @accept _ _ heartbeat own =>
          obtain ⟨active, known⟩ := attends heartbeat rfl
          unfold viewing at active known
          refine neglects ?_
          rw [own] at known
          split at active <;> exact ⟨active, by split at known <;> exact known⟩
      | refuse id context =>
          obtain ⟨beats, known⟩ := neglects
          obtain ⟨heartbeat, runs⟩ := Option.isSome_iff_exists.1 beats
          have present := (attends heartbeat runs).2
          have gone : before.visitor.filter (· != id) = none := by
            rw [known, Option.filter_some, if_neg (by simp)]
          cases gone.symm.trans present
  | twice acts => cases acts

end Tracker

namespace Course

/-- That a step answers the request to start a session carelessly: it is accepted although the
session of the visitor does not go on, or refused although a heartbeat runs for the visitor. -/
inductive CarelessStart (before : Course) : Course → Prop
  | accepted {number : Nat} {operation : Operation} {id : String} {request : StartRequest}
      {next : Except ApiError SessionReport → Errand Outcome}
      (waits : ⟨number, operation, .calling (.service (.startSession id request)) next⟩ ∈
        before.waiting)
      (gone : ¬ (before.visit.tracker.isActive = true ∧ before.visit.tracker.visitor = some id))
      (report : SessionReport) :
      CarelessStart before
        (before.answer number operation (.service (.startSession id request)) next (.ok report))
  | refused {number : Nat} {operation : Operation} {id : String} {request : StartRequest}
      {next : Except ApiError SessionReport → Errand Outcome}
      (waits : ⟨number, operation, .calling (.service (.startSession id request)) next⟩ ∈
        before.waiting)
      (beats : before.visit.tracker.isBeating = true)
      (known : before.visit.tracker.visitor = some id) (error : ApiError) :
      CarelessStart before
        (before.answer number operation (.service (.startSession id request)) next (.error error))

variable {before after : Course}

/-- A heartbeat stays with its session in every step but a careless answer. -/
theorem Step.attends (step : Step before after) (poised : before.Poised)
    (attends : before.visit.tracker.Attends) :
    after.visit.tracker.Attends ∨ CarelessStart before after := by
  have idles {later : Visit} (idles : before.visit.Idles later) : later.tracker.Attends := by
    obtain ⟨told, idles, _⟩ := idles.tells
    exact idles.attends attends
  cases step with
  | start operation =>
      obtain ⟨told, phase, tells⟩ := operation.tells_start before.visit
      rw [Course.start, pause_visit]
      exact .inl (tells.goes.attends attends nofun)
  | @answer number operation call next waits answer =>
      by_cases careless : CarelessStart before (before.answer number operation call next answer)
      case pos => exact .inr careless
      obtain ⟨phase, stands⟩ := poised _ waits
      obtain ⟨told, phase', tells⟩ := Operation.tells_answer stands answer before.visit
      rw [answer_visit]
      refine .inl (tells.goes.attends attends fun id context accepted same neglects => ?_)
      cases stands with
      | calling | closing => cases same
      | starting after =>
          cases same
          cases answer with
          | ok report => exact careless (.accepted waits neglects report)
          | error error => exact careless (.refused waits neglects.1 neglects.2 error)
  | wake waits due =>
      obtain ⟨phase, stands⟩ := poised _ waits
      obtain ⟨told, phase', tells⟩ := Operation.tells_wake stands before.visit
      rw [Course.wake, pause_visit]
      exact .inl (tells.goes.attends attends nofun)
  | beat due => exact .inl (idles (.beat due))
  | answerBeat sent => exact .inl (idles (.answerBeat _))
  | giveUpBeat => exact .inl (idles .giveUpBeat)
  | changeOutside later => exact .inl (idles (.changeOutside _))

theorem CarelessStart.strays (careless : CarelessStart before after) (poised : before.Poised) :
    ¬ after.visit.tracker.Attends := by
  have answered {number : Nat} {operation : Operation} {id : String} {context : PageContext}
      {request : StartRequest} {call : Call} {next : call.Answer → Errand Outcome}
      (stands : operation.StandsAt (.starting id context request) (.calling call next))
      (answer : call.Answer) (neglects : before.visit.tracker.Neglects id (call.accepts answer)) :
      ¬ (before.answer number operation call next answer).visit.tracker.Attends := by
    obtain ⟨told, phase', tells⟩ := Operation.tells_answer stands answer before.visit
    rw [answer_visit]
    exact tells.goes.strays neglects
  cases careless with
  | accepted waits gone report =>
      obtain ⟨phase, stands⟩ := poised _ waits
      cases stands with
      | calling other => cases other
      | starting after => exact answered (.starting after) (.ok report) gone
  | refused waits beats known error =>
      obtain ⟨phase, stands⟩ := poised _ waits
      cases stands with
      | calling other => cases other
      | starting after => exact answered (.starting after) (.error error) ⟨beats, known⟩

variable {settings : VisitSettings} {outside : Outside} {storage : Storage} {state : State}

/-- A heartbeat runs beside the session that goes on only since the start of a session was answered
carelessly: accepted although the session was ended or another visitor taken up while the answer was
waited for, or refused although a later start had given the visitor a heartbeat. After every such
answer it does. Otherwise what is sent in the background is for the visitor whose session goes
on. -/
theorem heartbeat_strays_iff_careless_start {first : Course}
    (begins : first = opening settings outside storage state) :
    (∀ course, Reaches first course → ¬ course.visit.tracker.Attends →
      ∃ before after, Reaches first before ∧ before.visit.tracker.Attends ∧
        CarelessStart before after ∧ Reaches after course) ∧
    (∀ before after, Reaches first before → CarelessStart before after →
      ¬ after.visit.tracker.Attends) ∧
    ∀ course heartbeat, Reaches first course → course.visit.tracker.Attends →
      course.visit.dueHeartbeat? = some heartbeat →
      course.visit.tracker.isActive = true ∧
        course.visit.tracker.visitor = some heartbeat.visitor := by
  subst begins
  refine ⟨fun course reaches strays => ?_, fun before after reaches careless => ?_, ?_⟩
  · induction reaches with
    | refl => exact absurd (Tracker.attends_of_still rfl) strays
    | @step middle last before next ih =>
        -- The step sought is the last one before which the heartbeat was that of the session.
        by_cases attends : middle.visit.tracker.Attends
        · rcases next.attends before.poised attends with attends' | careless
          · exact absurd attends' strays
          · exact ⟨middle, last, before, attends, careless, .refl⟩
        · obtain ⟨earlier, later, reaches, attended, careless, goesOn⟩ := ih attends
          exact ⟨earlier, later, reaches, attended, careless, .step goesOn next⟩
  · exact careless.strays reaches.poised
  · intro course heartbeat reaches attends due
    exact attends heartbeat (Option.filter_eq_some_iff.1 due).1

/-- The session is ended while its start is waited for, and the start is accepted all the same. -/
theorem heartbeat_is_sent_after_end :
    ∃ (first course : Course) (heartbeat : Heartbeat),
      first = opening { keepsReferrer := false }
        { sendsBeacons := true, random := Vector.replicate 16 0 } (.memory {} {}) ∧
      Reaches first course ∧ course.visit.tracker.isActive = false ∧
      course.visit.dueHeartbeat? = some heartbeat ∧ ¬ course.visit.tracker.Attends ∧
      (course.beat heartbeat).visit.reports =
        [.call (.service (.startSession "visitor" {})), .endBeacon "visitor",
          .call (.service (.heartbeat "visitor"))] := by
  have begins : Reaches
      (opening { keepsReferrer := false } { sendsBeacons := true, random := Vector.replicate 16 0 }
        (.memory {} {})) _ :=
    .step .refl (.start _ (.startTracking "visitor" {}))
  have ended := Reaches.step begins (.start _ .endTracking)
  have accept {course : Course} {number : Nat} {operation : Operation} {id : String}
      {request : StartRequest} {next : Except ApiError SessionReport → Errand Outcome}
      (waits : ⟨number, operation, .calling (.service (.startSession id request)) next⟩ ∈
        course.waiting) :
      Step course
        (course.answer number operation (.service (.startSession id request)) next (.ok {})) :=
    .answer waits _
  have accepted := ended.step (accept (.head _))
  have strays := (heartbeat_strays_iff_careless_start rfl).2.1 _ _ ended
    (.accepted (.head _) (by decide +kernel) {})
  have later := accepted.step <| .changeOutside <| by
    exact Nat.zero_le ({ sendsBeacons := true, clock := 30000, random := Vector.replicate 16 0 } :
      Outside).clock
  exact ⟨_, _, { visitor := "visitor", due := 30000, period := 30000 }, rfl, later,
    by decide +kernel, by decide +kernel, strays, by decide +kernel⟩

end Course

end VisitorLink
