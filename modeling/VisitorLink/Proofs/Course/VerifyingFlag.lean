import VisitorLink.Proofs.Course.Threads

/-!
# Whether a verification is under way

While a verification waits, the state says that one is under way, and no other one is started. The
flag is taken back by the verification itself if its answer is in time. Otherwise it has to be taken
back by whatever changed the visitor or the address.

Main statement: the flag outlives all verifications exactly if a log-in or the linking of a wallet
has put the record of another visitor in place while a verification was waiting
(`stuck_iff_taken_over`).
-/

namespace VisitorLink

open Errand

namespace State

/-- That an answer puts a record in place without a look at the verification under way. -/
inductive TakesRecord (state : State) : Cue → Visitor → Prop
  | loggedIn {id : String} {visitor : Visitor} (current : state.visitorId? = some id) :
      TakesRecord state (.answer (.service (.logIn id)) (.ok visitor)) visitor
  | linked {id address : String} {answer : Except ApiError ConnectAnswer} {visitor : Visitor}
      (current : state.isCurrent id address = true)
      (decided : LinkDecision.ofAnswer answer = .linked (some visitor)) :
      TakesRecord state (.answer (.service (.connectWallet id address)) answer) visitor

/-- Another record at the same address is that of the present visitor, or of another one. -/
theorem isCurrent_of_record {before after : State} {visitor : Visitor}
    (record : after.visitor = some visitor) (same : after.address? = before.address?)
    {id address : String} (current : before.isCurrent id address = true) :
    after.isCurrent id address = true ∨
      visitor.id ≠ id ∧ after.isCurrent visitor.id address = true := by
  have connected := same.trans (isCurrent_iff.1 current).2
  have present : after.isCurrent visitor.id address = true :=
    isCurrent_iff.2 ⟨congrArg (Option.map Visitor.id) record, connected⟩
  rcases eq_or_ne visitor.id id with rfl | other
  · exact .inl present
  · exact .inr ⟨other, present⟩

/-- A verification stays under way for the same visitor and address, unless an answer puts the
record of another visitor in place. -/
theorem Effect.verifying {cue : Cue} {before after : State} (effect : Effect cue before after)
    (verifying : after.connection.verifying = true) :
    before.connection.verifying = true ∧ ∀ id address, before.isCurrent id address = true →
      after.isCurrent id address = true ∨ ∃ visitor, before.TakesRecord cue visitor ∧
        visitor.id ≠ id ∧ after.isCurrent visitor.id address = true := by
  cases effect with
  | quiet drifts =>
      obtain ⟨underWay, kept⟩ := drifts.verifying verifying
      exact ⟨underWay, fun id address current => .inl (kept id address current)⟩
  | required => exact ⟨verifying, fun _ _ current => .inl current⟩
  | @linked _ _ _ _ visitor present decided =>
      refine ⟨verifying, fun id address current => ?_⟩
      cases visitor with
      | none => exact .inl current
      | some visitor =>
          have record : (before.apply (.link (some visitor))).visitor = some visitor := rfl
          have same : (before.apply (.link (some visitor))).address? = before.address? := rfl
          exact (isCurrent_of_record record same current).imp_right fun other =>
            ⟨visitor, .linked present decided, other⟩
  | proved => cases verifying
  | @loggedIn _ _ visitor present =>
      refine ⟨verifying, fun id address current => ?_⟩
      have record : (before.apply (.logIn visitor)).visitor = some visitor := rfl
      have same : (before.apply (.logIn visitor)).address? = before.address? := rfl
      exact (isCurrent_of_record record same current).imp_right fun other =>
        ⟨visitor, .loggedIn present, other⟩
  | loggedOut => cases verifying

end State

namespace Operation

variable {operation : Operation} {id address : String} {call : Call}
  {next : call.Answer → Errand Outcome}

/-- That a verification of the given visitor and address waits for an answer. -/
inductive Verifies (id address : String) (operation : Operation) : Errand.Paused Outcome → Prop
  | prompts {paused : Errand.Paused Outcome}
      (waits : operation.WaitsAt (.prompting id address) paused) :
      Verifies id address operation paused
  | submits {paused : Errand.Paused Outcome}
      (waits : operation.WaitsAt (.submitting id address) paused) :
      Verifies id address operation paused

theorem WaitsAt.eq_of_submitting {id' : String} {request : LinkRequest}
    {next : Except ApiError LinkAnswer → Errand Outcome}
    (waits : operation.WaitsAt (.submitting id address)
      (.calling (.service (.linkWallet id' request)) next)) :
    id' = id ∧ request.address = address := by
  cases waits
  exact ⟨rfl, rfl⟩

/-- A verification that waits is told by what it does with a signature. -/
theorem Verifies.unique {paused : Errand.Paused Outcome} {id' address' : String}
    (verifies : operation.Verifies id address paused)
    (verifies' : operation.Verifies id' address' paused) (visit : Visit) :
    id = id' ∧ address = address' := by
  cases verifies with
  | prompts waits =>
      cases waits with
      | @prompt _ rest after _ _ message time =>
          cases verifies' with
          | prompts waits' =>
              obtain ⟨request, _, same, _, _, _, stops⟩ := waits'.signed ⟨rfl, rfl⟩ "" visit
              have runs := run_receiveSignature_ok id address message "" time visit
              cases (run_bind_of_calling runs rest).symm.trans stops
              exact ⟨rfl, same⟩
          | submits waits' => cases waits'
  | submits waits =>
      cases waits with
      | submit after id request =>
          cases verifies' with
          | prompts waits' => cases waits'
          | submits waits' => exact waits'.eq_of_submitting

/-- An answer in time that is not a signature ends the verification. -/
theorem AfterVerify.settles {rest : Except LinkError VerifyOutcome → Errand Outcome}
    (after : operation.AfterVerify rest) {errand : Errand (Except LinkError VerifyOutcome)}
    {visit later : Visit} {result : Except LinkError VerifyOutcome}
    (stops : run errand visit = (.finished result, later))
    (settled : later.state.connection.verifying = false) :
    (run (errand >>= rest) visit).2.state.connection.verifying = false := by
  rw [run_bind_of_finished stops, (after.rests result later).2]
  exact settled

theorem Verifies.answered (verifies : operation.Verifies id address (.calling call next))
    (answer : call.Answer) {visit : Visit} (current : visit.state.isCurrent id address = true) :
    (run (next answer) visit).2.state.connection.verifying = false ∨
      (run (next answer) visit).2.state = visit.state ∧
        operation.Verifies id address (run (next answer) visit).1 := by
  cases verifies with
  | prompts waits =>
      cases waits with
      | prompt after id address message time =>
          cases answer with
          | ok signature =>
              exact .inr ⟨rfl, .submits (.submit after id ⟨address, message, signature, time⟩)⟩
          | error reason =>
              have runs := run_receiveSignature_error current message time reason
              refine .inl (after.settles (runs.trans (run_failVerification _ _)) ?_)
              rw [Visit.emit_state]
              rfl
  | submits waits =>
      cases waits with
      | submit after id request =>
          refine .inl ?_
          cases answer with
          | error error =>
              have runs := run_receiveProof_error current error
              refine after.settles (runs.trans (run_failVerification _ _)) ?_
              rw [Visit.emit_state]
              rfl
          | ok answer =>
              obtain ⟨_, later, stops, _, proved⟩ := run_applyProof id answer visit
              refine after.settles ((run_receiveProof_ok current answer).trans stops) ?_
              rw [proved]
              rfl

/-- An answer does to the verification under way what its effect does. -/
theorem Turn.verifying {answer : call.Answer} {before : Visit}
    {piece : Errand.Paused Outcome × Visit}
    (turn : operation.Turn (.answer call answer) before piece)
    (verifying : piece.2.state.connection.verifying = true) :
    before.state.connection.verifying = true ∧
      ∀ id address, before.state.isCurrent id address = true →
        piece.2.state.isCurrent id address = true ∨
          ∃ visitor, before.state.TakesRecord (.answer call answer) visitor ∧ visitor.id ≠ id ∧
            piece.2.state.isCurrent visitor.id address = true := by
  cases turn with
  | rest effect rests => exact effect.verifying verifying
  | submit waits => exact ⟨verifying, fun _ _ current => .inl current⟩
  | remove waits => exact ⟨verifying, fun _ _ current => .inl current⟩

/-- What puts a record in place answers no verification. -/
theorem Verifies.not_takesRecord (verifies : operation.Verifies id address (.calling call next))
    {state : State} {answer : call.Answer} {visitor : Visitor} :
    ¬ state.TakesRecord (.answer call answer) visitor := by
  intro takes
  cases verifies with
  | prompts waits =>
      cases waits
      cases takes
  | submits waits =>
      cases waits
      cases takes

/-- An answer that puts a record in place ends the operation and leaves the flag alone. -/
theorem WaitsAt.takesRecord {stage : Stage} (waits : operation.WaitsAt stage (.calling call next))
    {visit : Visit} {answer : call.Answer} {visitor : Visitor}
    (takes : visit.state.TakesRecord (.answer call answer) visitor) :
    ∃ outcome after, run (next answer) visit = (.finished outcome, after) ∧
      after.state.visitor = some visitor ∧ after.state.address? = visit.state.address? ∧
      after.state.connection.verifying = visit.state.connection.verifying := by
  cases takes with
  | @loggedIn id visitor current =>
      cases waits with
      | logIn =>
          have runs := run_receiveLogIn_ok id visitor visit
          rw [if_pos current] at runs
          exact ⟨_, _, run_bind_of_finished runs _, rfl, rfl, rfl⟩
      | track session => cases session
  | @linked id address answer visitor current decided =>
      cases waits with
      | link after =>
          have runs := run_receiveDecision current answer
          rw [run_applyDecision, decided] at runs
          obtain ⟨outcome, ends⟩ := after.ends (.ok .linked)
          refine ⟨outcome, visit.apply (.link (some visitor)), ?_, rfl, rfl, rfl⟩
          rw [run_bind_of_finished runs, ends]
          rfl
      | track session => cases session

/-- A verification waits for an answer of the provider or of the service. -/
theorem Verifies.calling {paused : Errand.Paused Outcome}
    (verifies : operation.Verifies id address paused) :
    ∃ call next, paused = .calling call next ∧
      ∃ stage, operation.WaitsAt stage (.calling call next) ∧ stage.IsAbout id address ∧
        call.isAboutWallet = true ∧ ∃ answer, (Cue.answer call answer).isSignature = false := by
  cases verifies with
  | prompts waits =>
      cases waits with
      | prompt after id address message time =>
          exact ⟨_, _, rfl, _, .prompt after id address message time, ⟨rfl, rfl⟩, rfl,
            (.error "" : Except String String), rfl⟩
  | submits waits =>
      cases waits with
      | submit after id request =>
          exact ⟨_, _, rfl, _, .submit after id request, ⟨rfl, rfl⟩, rfl,
            (.error (.network "") : Except ApiError LinkAnswer), rfl⟩

end Operation

namespace Course

/-! ## Verifications that wait -/

/-- That a verification of the given visitor and address is waiting for an answer. -/
def Verifies (course : Course) (id address : String) : Prop :=
  ∃ waiting ∈ course.waiting, waiting.operation.Verifies id address waiting.paused

/-- That a verification counts as being under way although none is waiting for an answer. -/
structure Stuck (course : Course) : Prop where
  verifying : course.visit.state.connection.verifying = true
  none_waits : ∀ id address, ¬ course.Verifies id address

/-- That a verification of the present visitor and address is waiting, if one counts as being under
way. -/
def Attended (course : Course) : Prop :=
  course.visit.state.connection.verifying = true →
    ∃ id address, course.visit.state.isCurrent id address = true ∧ course.Verifies id address

/-- That a step answers a log-in, or the first step of linking, with the record of another visitor
while a verification is under way, and that nothing is being verified for this other visitor. -/
structure TakesOver (before after : Course) : Prop where
  verifying : before.visit.state.connection.verifying = true
  answered : ∃ number operation call next answer visitor,
    ⟨number, operation, .calling call next⟩ ∈ before.waiting ∧
    after = before.answer number operation call next answer ∧
    before.visit.state.TakesRecord (.answer call answer) visitor ∧
    before.visit.state.visitorId? ≠ some visitor.id ∧
    ∀ address, before.visit.state.address? = some address → ¬ before.Verifies visitor.id address

variable {before after resumed : Course} {number : Nat} {operation : Operation}
  {piece : Errand.Paused Outcome × Visit}

/-- A turn that no answer sets going keeps the verification attended. -/
theorem Attended.go (attended : before.Attended)
    (resumes : Resumes before number operation .go resumed)
    (turn : operation.Turn .go before.visit piece)
    (others : ∀ waiting ∈ before.waiting, ∀ id address,
      waiting.operation.Verifies id address waiting.paused → waiting.number ≠ number) :
    (resumed.pause number operation piece).Attended := by
  intro verifying
  rw [pause_visit] at verifying ⊢
  cases turn with
  | rest effect rests =>
      obtain ⟨underWay, kept⟩ := effect.verifying verifying
      obtain ⟨id, address, current, waiting, mem, verifies⟩ := attended underWay
      rcases kept id address current with current | ⟨visitor, takes, _⟩
      · have other := others waiting mem id address verifies
        exact ⟨id, address, current, waiting,
          mem_waiting_pause_of_mem (resumes.mem_waiting_of_ne mem other) _ _ _, verifies⟩
      · cases takes
  | prompt current idle waits starts =>
      rw [starts]
      refine ⟨_, _, current, _, mem_waiting_pause_self _ _ _ fun outcome ends => ?_, .prompts waits⟩
      rw [ends] at waits
      cases waits

/-- An answer keeps the verification attended, or it puts the record of another visitor in place. -/
theorem Attended.answer (attended : before.Attended) (numbered : before.Numbered)
    {call : Call} {next : call.Answer → Errand Outcome} {stage : Stage}
    (waits : ⟨number, operation, .calling call next⟩ ∈ before.waiting)
    (stands : operation.WaitsAt stage (.calling call next)) (answer : call.Answer) :
    (before.answer number operation call next answer).Attended ∨
      TakesOver before (before.answer number operation call next answer) := by
  have turn := Operation.turn_answer stands answer before.visit
  have resumes : Resumes before number operation (.answer call answer) _ := .answer waits answer
  have visit : (before.answer number operation call next answer).visit =
    (run (next answer) before.visit).2 := pause_visit _ _ _ _
  by_cases verifying : (run (next answer) before.visit).2.state.connection.verifying = true
  case neg => exact .inl fun holds => absurd (visit ▸ holds) verifying
  obtain ⟨underWay, kept⟩ := turn.verifying verifying
  obtain ⟨id, address, current, waiting, mem, verifies⟩ := attended underWay
  -- Either the verification itself is answered, or another operation that may replace the record.
  rcases eq_or_ne waiting.number number with same | other
  · cases numbered.eq mem waits same
    rcases verifies.answered answer current with settled | ⟨kept, verifies⟩
    · cases settled.symm.trans verifying
    · refine .inl fun _ => ⟨id, address, ?_, _, mem_waiting_pause_self _ _ _ ?_, verifies⟩
      · rw [visit, kept]
        exact current
      · intro outcome ends
        obtain ⟨_, _, calling, _⟩ := verifies.calling
        cases ends.symm.trans calling
  · have stays {waiting : Waiting} (mem : waiting ∈ before.waiting)
        (other : waiting.number ≠ number) :
        waiting ∈ (before.answer number operation call next answer).waiting :=
      mem_waiting_pause_of_mem (resumes.mem_waiting_of_ne mem other) _ _ _
    rcases kept id address current with current' | ⟨visitor, takes, another, current'⟩
    · exact .inl fun _ => ⟨id, address, visit ▸ current', waiting, stays mem other, verifies⟩
    · obtain ⟨loaded, connected⟩ := State.isCurrent_iff.1 current
      by_cases attends : before.Verifies visitor.id address
      · obtain ⟨waiting, mem, verifies⟩ := attends
        have other : waiting.number ≠ number := fun same => by
          cases numbered.eq mem waits same
          exact verifies.not_takesRecord takes
        exact .inl fun _ =>
          ⟨visitor.id, address, visit ▸ current', waiting, stays mem other, verifies⟩
      · refine .inr ⟨underWay, number, operation, call, next, answer, visitor, waits, rfl, takes,
          fun known => another (Option.some.inj (known.symm.trans loaded)), ?_⟩
        intro wallet shown
        cases shown.symm.trans connected
        exact attends

/-- A step keeps the verification attended, or it puts the record of another visitor in place. -/
theorem Attended.step (attended : before.Attended) (numbered : before.Numbered)
    (staged : before.Staged) (step : Step before after) :
    after.Attended ∨ TakesOver before after := by
  have calls {waiting : Waiting} {id address : String}
      (verifies : waiting.operation.Verifies id address waiting.paused) :
      ∃ call next, waiting.paused = .calling call next := by
    obtain ⟨call, next, calling, _⟩ := verifies.calling
    exact ⟨call, next, calling⟩
  cases step with
  | start operation =>
      refine .inl (attended.go (.start operation) (operation.turn_start before.visit) ?_)
      intro waiting mem _ _ _ same
      exact Nat.lt_irrefl _ (same ▸ numbered.lt_started _ (List.mem_map_of_mem mem))
  | answer waits answer =>
      obtain ⟨stage, stands⟩ := staged _ waits
      exact attended.answer numbered waits stands answer
  | wake waits due =>
      obtain ⟨stage, stands⟩ := staged _ waits
      refine .inl (attended.go (.wake waits) (Operation.turn_wake stands before.visit) ?_)
      intro waiting mem id address verifies same
      cases numbered.eq mem waits same
      obtain ⟨call, next, calling⟩ := calls verifies
      cases calling
  | beat due => exact .inl attended
  | @answerBeat beat sent =>
      refine .inl fun verifying => ?_
      have same : (before.answerBeat beat).visit.state = before.visit.state :=
        before.visit.answerHeartbeat_state _
      rw [same] at verifying ⊢
      exact attended verifying
  | giveUpBeat => exact .inl attended
  | changeOutside later => exact .inl attended

/-- The record of another visitor leaves nobody to attend to the verification under way. -/
theorem TakesOver.not_attended (takesOver : TakesOver before after) (staged : before.Staged) :
    ¬ after.Attended := by
  obtain ⟨verifying, number, operation, call, next, answer, visitor, waits, rfl, takes, _, none⟩ :=
    takesOver
  obtain ⟨stage, stands⟩ := staged _ waits
  obtain ⟨outcome, later, stops, record, connected, flag⟩ := stands.takesRecord takes
  intro attended
  unfold Course.answer at attended
  rw [stops] at attended
  obtain ⟨id, address, current, waiting, mem, verifies⟩ := attended (flag.trans verifying)
  obtain ⟨loaded, shown⟩ := State.isCurrent_iff.1 current
  cases ((congrArg (Option.map Visitor.id) record).symm.trans loaded)
  exact none address (connected.symm.trans shown) ⟨waiting, (List.mem_filter.1 mem).1, verifies⟩

/-- Verifications of other visitors and addresses than the present ones can all be refused, which
leaves the flag as it is. -/
theorem stuck_of_unattended {course : Course}
    (verifying : course.visit.state.connection.verifying = true)
    (unattended : ∀ id address, course.visit.state.isCurrent id address = true →
      ¬ course.Verifies id address) :
    ∃ stuck, Reaches course stuck ∧ stuck.Stuck := by
  -- Each refusal leaves the visit alone and one operation less waiting.
  induction bound : course.waiting.length using Nat.strongRecOn generalizing course with
  | _ length ih =>
    by_cases waits : ∃ id address, course.Verifies id address
    case neg =>
      exact ⟨course, .refl, verifying, fun id address verifies => waits ⟨id, address, verifies⟩⟩
    obtain ⟨id, address, ⟨number, operation, paused⟩, mem, verifies⟩ := waits
    have late : course.visit.state.isCurrent id address = false := by
      by_contra current
      exact unattended id address (eq_true_of_ne_false current) ⟨_, mem, verifies⟩
    obtain ⟨call, next, rfl, stage, stands, about, wallet, answer, unsigned⟩ := verifies.calling
    obtain ⟨outcome, stops, _⟩ := stands.late about wallet unsigned late
    have fewer : (course.without number).waiting.length < length := by
      rw [← bound]
      exact List.length_filter_lt_length_iff_exists.2 ⟨_, mem, by simp⟩
    have kept : ∀ id address, course.visit.state.isCurrent id address = true →
        ¬ (course.without number).Verifies id address := by
      rintro id address current ⟨waiting, stays, verifies⟩
      exact unattended id address current ⟨waiting, (List.mem_filter.1 stays).1, verifies⟩
    have refused := Step.answer mem answer
    unfold Course.answer at refused
    rw [stops] at refused
    obtain ⟨stuck, reaches, isStuck⟩ := @ih _ fewer
      (((course.without number).note (.answered number call answer)).pause number operation
        (.finished outcome, course.visit)) verifying kept rfl
    exact ⟨stuck, (Reaches.step .refl refused).trans reaches, isStuck⟩

variable {settings : VisitSettings} {outside : Outside} {storage : Storage} {state : State}

/-- Where a verification is not attended to, the record of another visitor was put in place. -/
theorem Reaches.takesOver_of_not_attended {first course : Course}
    (opens : first = opening settings outside storage state) (idle : state.Opens)
    (reaches : Reaches first course) (unattended : ¬ course.Attended) :
    ∃ before after, Reaches first before ∧ TakesOver before after ∧ Reaches after course := by
  subst opens
  induction reaches with
  | refl => exact absurd (fun verifying => nomatch idle.idle.symm.trans verifying) unattended
  | @step middle last before next ih =>
      by_cases attended : middle.Attended
      · rcases attended.step before.numbered before.staged next with attended | takesOver
        · exact absurd attended unattended
        · exact ⟨middle, last, before, takesOver, .refl⟩
      · obtain ⟨earlier, later, reaches, takesOver, goesOn⟩ := ih attended
        exact ⟨earlier, later, reaches, takesOver, .step goesOn next⟩

/-- A verification counts as being under way without any that waits for an answer only where the
record of another visitor was put in place by the answer to a log-in or to the first step of
linking, while nothing was being verified for that visitor. Whenever this happens, refusing all
verifications leads there. -/
theorem stuck_iff_taken_over {first : Course}
    (opens : first = opening settings outside storage state) (idle : state.Opens) :
    (∀ course, Reaches first course → course.Stuck →
      ∃ before after, Reaches first before ∧ TakesOver before after ∧ Reaches after course) ∧
    ∀ before after, Reaches first before → TakesOver before after →
      ∃ stuck, Reaches after stuck ∧ stuck.Stuck := by
  constructor
  · intro course reaches stuck
    refine reaches.takesOver_of_not_attended opens idle fun attended => ?_
    obtain ⟨id, address, _, verifies⟩ := attended stuck.verifying
    exact stuck.none_waits id address verifies
  · intro before after reaches takesOver
    subst opens
    have unattended := takesOver.not_attended reaches.staged
    have verifying : after.visit.state.connection.verifying = true := by
      by_contra idle
      exact unattended fun verifying => absurd verifying idle
    exact stuck_of_unattended verifying fun id address current verifies =>
      unattended fun _ => ⟨id, address, current, verifies⟩

/-- The visitor logs in while the prompt is open, and the service answers with another visitor. -/
theorem stuck_after_logging_in_as_another :
    ∃ (visitor : Visitor) (stuck : Course),
      Reaches (opening {} { random := Vector.replicate 16 0 } (.memory {} {})
        (State.hydrated visitor)) stuck ∧ stuck.Stuck := by
  let time : Timestamp :=
    ⟨⟨2025, 1, 1, by decide, by decide, by decide⟩, 0, 0, by decide, by decide⟩
  let visitor : Visitor :=
    { id := "visitor", wallets := [{ address := "wallet", linkedAt := time, lastUsed := time }] }
  let first := opening {} { random := Vector.replicate 16 0 } (.memory {} {})
    (State.hydrated visitor)
  let before := (first.start .verify).start .logIn
  have waits : ⟨1, .logIn, .calling (.service (.logIn "visitor")) _⟩ ∈ before.waiting :=
    .tail _ (.head _)
  have takes : before.visit.state.TakesRecord
    (.answer (.service (.logIn "visitor")) (.ok { id := "other" })) { id := "other" } :=
    .loggedIn rfl
  have none (address : String) : ¬ before.Verifies "other" address := by
    rintro ⟨waiting, mem, verifies⟩
    rcases List.mem_cons.1 mem with rfl | mem
    · obtain ⟨same, _⟩ := verifies.unique
        (.prompts (.prompt .verify "visitor" "wallet" _ _)) first.visit
      exact absurd same (by decide)
    · cases List.mem_singleton.1 mem
      exact verifies.not_takesRecord takes
  have takesOver : TakesOver before
      (before.answer 1 .logIn (.service (.logIn "visitor")) _ (.ok { id := "other" })) :=
    ⟨rfl, 1, .logIn, _, _, _, { id := "other" }, waits, rfl, takes, by decide,
      fun address _ => none address⟩
  have reaches : Reaches first before := .step (.step .refl (.start _ _)) (.start _ _)
  obtain ⟨stuck, goesOn, isStuck⟩ :=
    (stuck_iff_taken_over rfl (.known visitor)).2 _ _ reaches takesOver
  exact ⟨visitor, stuck, (Reaches.step reaches (.answer waits _)).trans goesOn, isStuck⟩

end Course

end VisitorLink
