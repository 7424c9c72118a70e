import VisitorLink.Proofs.Course.Threads

/-!
# Submissions

A signature is sent to the service as soon as the prompt yields it. Nothing is checked at that
moment, so it goes out for the visitor and the address for which the prompt was opened, whether or
not they are the present ones.

Main statement: signatures are sent exactly in the steps that answer an open prompt with one, for
the visitor and the address that were the present ones when it opened
(`submitted_iff_prompt_signed`).
-/

namespace VisitorLink

open Errand

/-- Whether a call sends a signature to the service. -/
def Call.isSubmission : Call → Bool
  | .service (.linkWallet _ _) | .service (.unlinkWallet _ _ _) => true
  | _ => false

theorem Call.not_isSubmission {call : Call} (session : call.isSession = true) :
    ¬ call.isSubmission = true := by
  intro submits
  cases call with
  | provider call => cases session
  | service call => cases call <;> simp [Call.isSession, Call.isSubmission] at session submits

namespace Operation

variable {operation : Operation}

/-- A signature is sent only in the turn that it sets going. -/
theorem Turn.isSignature {cue : Cue} {before : Visit} {piece : Errand.Paused Outcome × Visit}
    (turn : operation.Turn cue before piece) {call : Call} {next : call.Answer → Errand Outcome}
    (stops : piece.1 = .calling call next) (submits : call.isSubmission = true) :
    cue.isSignature = true := by
  cases turn with
  | rest effect rests =>
      rw [stops] at rests
      cases rests with
      | waits waits opens =>
          cases waits with
          | submit => cases opens
          | remove => cases opens
          | track session aside => exact absurd submits (Call.not_isSubmission session)
          | _ => cases submits
  | prompt current idle waits starts =>
      rw [stops] at waits
      cases waits
      cases submits
  | submit waits => rfl
  | remove waits => rfl

theorem AfterVerify.linksWallet {rest : Except LinkError VerifyOutcome → Errand Outcome}
    (after : operation.AfterVerify rest) : operation.linksWallet = true := by
  cases after <;> rfl

/-- That an operation has ended, or is removing a wallet of the given visitor. -/
inductive Removes (id address : String) (operation : Operation) : Errand.Paused Outcome → Prop
  | finished (outcome : Outcome) : Removes id address operation (.finished outcome)
  | prompts {paused : Errand.Paused Outcome}
      (waits : operation.WaitsAt (.unlinking id address) paused) :
      Removes id address operation paused
  | submits {paused : Errand.Paused Outcome}
      (waits : operation.WaitsAt (.removing id address) paused) :
      Removes id address operation paused

/-- A signature for the removal of a wallet is sent on, on behalf of the visitor of the prompt. -/
theorem Removes.signed {id address message : String} {next : Except String String → Errand Outcome}
    (removes : operation.Removes id address (.calling (.provider (.signMessage message)) next))
    (signature : String) (visit : Visit) :
    ∃ next', run (next (.ok signature)) visit =
      (.calling (.service (.unlinkWallet id address ⟨message, signature⟩)) next',
        visit.inquire (.call (.service (.unlinkWallet id address ⟨message, signature⟩)))) := by
  cases removes with
  | prompts waits =>
      cases waits with
      | unlink id address message => exact ⟨_, rfl⟩
  | submits waits => cases waits

/-- A prompt is open for a verification or for the removal of a wallet. -/
theorem WaitsAt.of_prompt {stage : Stage} {message : String}
    {next : Except String String → Errand Outcome}
    (waits : operation.WaitsAt stage (.calling (.provider (.signMessage message)) next)) :
    (∃ id address, stage = .prompting id address) ∨
      ∃ id address, stage = .unlinking id address := by
  cases waits with
  | prompt after id address => exact .inl ⟨id, address, rfl⟩
  | unlink id address => exact .inr ⟨id, address, rfl⟩
  | track session => cases session

theorem removes_of_endsQuietly {id address : String} {errand : Errand Outcome} {visit : Visit}
    (ends : EndsQuietly errand visit) : operation.Removes id address (run errand visit).1 := by
  obtain ⟨outcome, after, stops, _⟩ := ends
  rw [stops]
  exact .finished outcome

theorem removes_persists (id address : String) :
    Persists fun operation paused => operation.Removes id address paused where
  answered removes answer visit := by
    cases removes with
    | prompts waits =>
        cases waits with
        | unlink id address message =>
            cases answer with
            | error reason => exact removes_of_endsQuietly ((failUpdate_endsQuietly _ visit).map _)
            | ok signature => exact .submits (.remove id address ⟨message, signature⟩)
    | submits waits =>
        cases waits with
        | remove id address request =>
            have ends := receiveUnlinked_endsQuietly id address answer visit
            exact removes_of_endsQuietly (ends.map _)
  woken removes visit := by
    cases removes with
    | prompts waits => cases waits
    | submits waits => cases waits

end Operation

namespace Course

/-- That an operation has just had its prompt for the removal of a wallet opened, for the visitor
that is the present one then. -/
structure TakesUpRemoval (course : Course) (number : Nat) (id address : String) : Prop where
  asked : ∃ message next,
    ⟨number, .unlink address, .calling (.provider (.signMessage message)) next⟩ ∈ course.waiting ∧
    course.Sends number (.provider (.signMessage message))
  current : course.visit.state.visitorId? = some id

/-! ## Prompts -/

/-- That the prompt of a stage was opened in the course of a visit, for the visitor and the address
of the stage. -/
def PromptedSince (first course : Course) (number : Nat) : Stage → Prop
  | .prompting id address =>
      ∃ begun, Reaches first begun ∧ begun.TakesUp number id address ∧ Reaches begun course
  | .unlinking id address =>
      ∃ begun, Reaches first begun ∧ begun.TakesUpRemoval number id address ∧ Reaches begun course
  | _ => True

theorem PromptedSince.step {first course last : Course} {number : Nat} {stage : Stage}
    (prompted : PromptedSince first course number stage) (step : Step course last) :
    PromptedSince first last number stage := by
  cases stage with
  | prompting id address =>
      obtain ⟨begun, before, takes, after⟩ := prompted
      exact ⟨begun, before, takes, .step after step⟩
  | unlinking id address =>
      obtain ⟨begun, before, takes, after⟩ := prompted
      exact ⟨begun, before, takes, .step after step⟩
  | _ => trivial

/-- An operation that waits after its turn stands at a stage whose prompt has been opened, if only
in this turn. -/
theorem promptedSince_of_turn {first resumed : Course} {number : Nat} {operation : Operation}
    {cue : Cue} {before : Visit} {piece : Errand.Paused Outcome × Visit}
    (turn : operation.Turn cue before piece)
    (reaches : Reaches first (resumed.pause number operation piece)) :
    (∃ outcome, piece.1 = .finished outcome) ∨ ∃ stage, operation.WaitsAt stage piece.1 ∧
      PromptedSince first (resumed.pause number operation piece) number stage := by
  rcases piece with ⟨paused, visit⟩
  cases turn with
  | rest effect rests =>
      cases rests with
      | finished outcome => exact .inl ⟨outcome, rfl⟩
      | waits waits opens =>
          refine .inr ⟨_, waits, ?_⟩
          cases waits with
          | unlink id address message =>
              refine ⟨_, reaches, ⟨⟨message, _, mem_waiting_pause_calling _ _ _ _ _ _,
                sends_pause _ _ _ _ _ _⟩, ?_⟩, .refl⟩
              rw [pause_visit]
              exact opens
          | prompt => cases opens
          | _ => trivial
  | prompt current idle waits starts =>
      refine .inr ⟨_, waits, ?_⟩
      cases waits with
      | prompt after id address message time =>
          refine ⟨_, reaches, ⟨⟨operation, _, _, after.linksWallet, rfl,
            mem_waiting_pause_calling _ _ _ _ _ _, sends_pause _ _ _ _ _ _⟩, ?_⟩, .refl⟩
          rw [pause_visit, starts]
          exact current
  | submit waits => exact .inr ⟨_, waits, trivial⟩
  | remove waits => exact .inr ⟨_, waits, trivial⟩

variable {settings : VisitSettings} {outside : Outside} {storage : Storage} {state : State}

/-- From the opening of its prompt on, an operation removes a wallet of one visitor. -/
theorem TakesUpRemoval.thread {course : Course} {number : Nat} {id address : String}
    (takes : course.TakesUpRemoval number id address)
    (reaches : Reaches (opening settings outside storage state) course) :
    course.Thread number (Operation.Removes id address) := by
  obtain ⟨⟨message, next, waits, asked⟩, current⟩ := takes
  cases reaches with
  | refl => cases asked
  | step before step =>
      obtain ⟨_, cue, resumed, ⟨_, visit⟩, _, resumes, turn, rfl, rfl⟩ :=
        (step.moves before.staged).of_sends asked
      cases resumes.eq_of_mem_pause before.numbered waits rfl
      rw [pause_visit] at current
      refine (resumes.thread before.numbered before.settled).pause fun _ => ?_
      cases turn with
      | rest effect rests =>
          cases rests with
          | waits waits opens =>
              cases waits with
              | unlink visitor =>
                  cases opens.symm.trans current
                  exact .prompts (.unlink _ _ _)
              | prompt => cases opens
              | track session => cases session
      | prompt present idle waits =>
          cases waits with
          | prompt after => cases after

/-- Every open prompt was opened in the course of the visit. -/
theorem Reaches.prompted {course : Course}
    (reaches : Reaches (opening settings outside storage state) course) :
    ∀ waiting ∈ course.waiting, ∃ stage, waiting.operation.WaitsAt stage waiting.paused ∧
      PromptedSince (opening settings outside storage state) course waiting.number stage := by
  induction reaches with
  | refl => exact fun waiting mem => absurd mem List.not_mem_nil
  | step before next ih =>
      intro waiting mem
      have kept (waits : waiting ∈ _) := ih waiting waits
      have reaches := Reaches.step before next
      cases next.moves before.staged with
      | turn resumes turn =>
          rcases mem_waiting_pause mem with mem | ⟨rfl, waits⟩
          · obtain ⟨stage, stands, prompted⟩ := kept (resumes.mem_waiting mem)
            exact ⟨stage, stands, prompted.step next⟩
          · rcases promptedSince_of_turn turn reaches with ⟨outcome, ends⟩ | stands
            · exact absurd ends (waits outcome)
            · exact stands
      | aside state same started aside history =>
          obtain ⟨stage, stands, prompted⟩ := kept (same ▸ mem)
          exact ⟨stage, stands, prompted.step next⟩

/-- A signature is sent in the step that answers the prompt with it. -/
theorem Step.of_sends {before after : Course} {number : Nat} {call : Call}
    (step : Step before after) (staged : before.Staged) (sends : after.Sends number call)
    (submits : call.isSubmission = true) :
    ∃ operation message next signature,
      ⟨number, operation, .calling (.provider (.signMessage message)) next⟩ ∈ before.waiting ∧
      after = before.answer number operation (.provider (.signMessage message)) next
        (.ok signature) := by
  cases step with
  | start operation =>
      obtain ⟨_, next, stops⟩ := (Resumes.start operation).of_sends sends
      cases (operation.turn_start before.visit).isSignature stops submits
  | answer waits answer =>
      obtain ⟨rfl, next, stops⟩ := (Resumes.answer waits answer).of_sends sends
      obtain ⟨stage, stands⟩ := staged _ waits
      have turn := Operation.turn_answer stands answer before.visit
      obtain ⟨message, signature, same⟩ := Cue.eq_of_isSignature (turn.isSignature stops submits)
      cases same
      exact ⟨_, message, _, signature, waits, rfl⟩
  | wake waits due =>
      obtain ⟨rfl, next, stops⟩ := (Resumes.wake waits).of_sends sends
      obtain ⟨stage, stands⟩ := staged _ waits
      cases (Operation.turn_wake stands before.visit).isSignature stops submits
  | beat due => exact absurd sends (not_sends_of_aside rfl rfl number call)
  | answerBeat sent => exact absurd sends (not_sends_of_aside rfl rfl number call)
  | giveUpBeat => exact absurd sends (not_sends_of_aside rfl rfl number call)
  | changeOutside later => exact absurd sends (not_sends_of_aside rfl rfl number call)

/-! ## Signatures -/

/-- That a step answers the prompt of an operation with a signature, and that the operation began
the prompt in the given way before. -/
structure Signs (Began : Course → Prop) (first before after : Course) (number : Nat)
    (message signature : String) : Prop where
  prompted : ∃ begun, Reaches first begun ∧ Began begun ∧ Reaches begun before
  signed : ∃ operation next,
    ⟨number, operation, .calling (.provider (.signMessage message)) next⟩ ∈ before.waiting ∧
    after = before.answer number operation (.provider (.signMessage message)) next (.ok signature)

variable {before after : Course} {number : Nat} {id address message signature : String}

/-- What follows on a signature is what the piece after it stops at. -/
theorem signature_sends {operation : Operation} {next : Except String String → Errand Outcome}
    {call : Call} {onwards : call.Answer → Errand Outcome} {visit : Visit}
    (stops : run (next (.ok signature)) before.visit = (.calling call onwards, visit))
    (number : Nat) (message : String) :
    (before.answer number operation (.provider (.signMessage message)) next
        (.ok signature)).Sends number call ∧
      (before.answer number operation (.provider (.signMessage message)) next
        (.ok signature)).visit = visit := by
  unfold Course.answer
  rw [stops]
  exact ⟨sends_pause _ _ _ _ _ _, pause_visit _ _ _ _⟩

/-- A signature for a verification is sent as it comes. -/
theorem Signs.submits_proof
    (signs : Signs (fun begun => begun.TakesUp number id address)
      (opening settings outside storage state) before after number message signature) :
    (∃ time, after.Sends number (.service (.linkWallet id ⟨address, message, signature, time⟩))) ∧
      after.visit.state = before.visit.state := by
  obtain ⟨⟨begun, reaches, takes, goesOn⟩, operation, next, waits, rfl⟩ := signs
  have thread := (takes.thread reaches).reaches (Operation.pursues_persists id address) goesOn
  obtain ⟨stage, stands, about⟩ := (thread.waits waits).stands
  obtain ⟨request, next', rfl, rfl, rfl, _, stops⟩ := stands.signed about signature before.visit
  obtain ⟨sends, visit⟩ := signature_sends stops number _
  exact ⟨⟨request.timestamp, sends⟩, (congrArg Visit.state visit).trans rfl⟩

/-- A signature for the removal of a wallet is sent as it comes. -/
theorem Signs.submits_removal
    (signs : Signs (fun begun => begun.TakesUpRemoval number id address)
      (opening settings outside storage state) before after number message signature) :
    after.Sends number (.service (.unlinkWallet id address ⟨message, signature⟩)) ∧
      after.visit.state = before.visit.state := by
  obtain ⟨⟨begun, reaches, takes, goesOn⟩, operation, next, waits, rfl⟩ := signs
  have thread := (takes.thread reaches).reaches (Operation.removes_persists id address) goesOn
  obtain ⟨next', stops⟩ := (thread.waits waits).signed signature before.visit
  obtain ⟨sends, visit⟩ := signature_sends stops number _
  exact ⟨sends, (congrArg Visit.state visit).trans rfl⟩

/-- The signature of a verification that is sent was given in a prompt of the verification. -/
theorem Step.signs_of_proof (step : Step before after)
    (reaches : Reaches (opening settings outside storage state) before) {time : Int64}
    (sends : after.Sends number (.service (.linkWallet id ⟨address, message, signature, time⟩))) :
    Signs (fun begun => begun.TakesUp number id address) (opening settings outside storage state)
      before after number message signature := by
  obtain ⟨operation, message', next, signature', waits, rfl⟩ :=
    step.of_sends reaches.staged sends rfl
  obtain ⟨stage, stands, prompted⟩ := reaches.prompted _ waits
  rcases stands.of_prompt with ⟨id', address', rfl⟩ | ⟨id', address', rfl⟩
  · obtain ⟨request, next', wallet, text, signed, _, stops⟩ :=
      stands.signed ⟨rfl, rfl⟩ signature' before.visit
    cases ((signature_sends stops number message').1.unique sends).2
    cases wallet
    cases text
    cases signed
    exact ⟨prompted, operation, next, waits, rfl⟩
  · obtain ⟨next', stops⟩ := Operation.Removes.signed (.prompts stands) signature' before.visit
    cases ((signature_sends stops number message').1.unique sends).2

/-- The signature for a removal that is sent was given in a prompt of the removal. -/
theorem Step.signs_of_removal (step : Step before after)
    (reaches : Reaches (opening settings outside storage state) before)
    (sends : after.Sends number (.service (.unlinkWallet id address ⟨message, signature⟩))) :
    Signs (fun begun => begun.TakesUpRemoval number id address)
      (opening settings outside storage state) before after number message signature := by
  obtain ⟨operation, message', next, signature', waits, rfl⟩ :=
    step.of_sends reaches.staged sends rfl
  obtain ⟨stage, stands, prompted⟩ := reaches.prompted _ waits
  rcases stands.of_prompt with ⟨id', address', rfl⟩ | ⟨id', address', rfl⟩
  · obtain ⟨request, next', _, _, _, _, stops⟩ := stands.signed ⟨rfl, rfl⟩ signature' before.visit
    cases ((signature_sends stops number message').1.unique sends).2
  · obtain ⟨next', stops⟩ := Operation.Removes.signed (.prompts stands) signature' before.visit
    cases ((signature_sends stops number message').1.unique sends).2
    exact ⟨prompted, operation, next, waits, rfl⟩

/-- Signatures are sent exactly in the steps that answer an open prompt with one. The visitor and
the address that a signature is sent for are those of the opening of the prompt, so they are the
present ones when it is sent if and only if they still are when it is given; and it is sent in
either case. -/
theorem submitted_iff_prompt_signed {first : Course}
    (opens : first = opening settings outside storage state)
    (reaches : Reaches first before) (step : Step before after) (number : Nat)
    (id address message signature : String) (current : Bool) :
    ((∃ time, after.Sends number
          (.service (.linkWallet id ⟨address, message, signature, time⟩))) ∧
        after.visit.state.isCurrent id address = current ↔
      Signs (fun begun => begun.TakesUp number id address) first before after number message
          signature ∧
        before.visit.state.isCurrent id address = current) ∧
    (after.Sends number (.service (.unlinkWallet id address ⟨message, signature⟩)) ∧
        (after.visit.state.visitorId? == some id) = current ↔
      Signs (fun begun => begun.TakesUpRemoval number id address) first before after number message
          signature ∧
        (before.visit.state.visitorId? == some id) = current) := by
  subst opens
  constructor
  · constructor
    · rintro ⟨⟨time, sends⟩, present⟩
      have signs := step.signs_of_proof reaches sends
      exact ⟨signs, signs.submits_proof.2 ▸ present⟩
    · rintro ⟨signs, present⟩
      obtain ⟨sends, same⟩ := signs.submits_proof
      exact ⟨sends, same.symm ▸ present⟩
  · constructor
    · rintro ⟨sends, present⟩
      have signs := step.signs_of_removal reaches sends
      exact ⟨signs, signs.submits_removal.2 ▸ present⟩
    · rintro ⟨signs, present⟩
      obtain ⟨sends, same⟩ := signs.submits_removal
      exact ⟨sends, same.symm ▸ present⟩

/-- A verification is cancelled while the prompt is open, and the prompt is signed afterwards. -/
theorem signature_after_cancelling_is_submitted :
    ∃ (course : Course) (message : String) (next : Except String String → Errand Outcome)
      (time : Int64),
      course.visit.state.isCurrent "visitor" "wallet" = false ∧
      (course.answer 0 .verify (.provider (.signMessage message)) next (.ok "signature")).Sends 0
        (.service (.linkWallet "visitor" ⟨"wallet", message, "signature", time⟩)) := by
  let first := opening {} { random := Vector.replicate 16 0 } (.memory {} {})
    { visitor := some { id := "visitor" }, connection.address := some "wallet" }
  let begun := first.start .verify
  let before := begun.start .cancelLogin
  have asks : ((Operation.errand .verify).run first.visit).1 =
    .calling (.provider (.signMessage (challenge .link "wallet" first.visit.outside.time))) _ := rfl
  have present : first.visit.state.isCurrent "visitor" "wallet" = true := by decide
  have takes : begun.TakesUp 0 "visitor" "wallet" :=
    takesUp_start (.inr (.inl rfl)) asks rfl present
  have waits : ⟨0, .verify, .calling (.provider (.signMessage
      (challenge .link "wallet" first.visit.outside.time))) _⟩ ∈ before.waiting :=
    List.mem_singleton.2 rfl
  have goesOn : Reaches begun before := .step .refl (.start _ _)
  have reaches : Reaches first before := .step (.step .refl (.start _ _)) (.start _ _)
  have submitted := submitted_iff_prompt_signed rfl reaches (.answer waits (.ok "signature")) 0
    "visitor" "wallet" (challenge .link "wallet" first.visit.outside.time) "signature" false
  obtain ⟨⟨time, sends⟩, _⟩ := submitted.1.2
    ⟨⟨⟨begun, .step .refl (.start _ _), takes, goesOn⟩, _, _, waits, rfl⟩, rfl⟩
  exact ⟨before, _, _, time, rfl, sends⟩

end Course

end VisitorLink
