import VisitorLink.Proofs.Course.PendingLogin
import VisitorLink.Proofs.Course.Submissions

/-!
# What is signed

A challenge is written when an operation is started: for the visitor and the wallet that are the
present ones then, for a log-in if one is pending then, and with the time that the visit sees then.
All of these may have changed by the time that the prompt yields a signature. The signature is still
sent with the challenge that it was given for, and for the visitor and the wallet of the challenge.

Main statement: every request that holds a signature holds the challenge that was signed with it, in
the terms of the moment when the operation was started (`submission_matches_challenge`).
-/

namespace VisitorLink

open Errand

namespace Operation

variable {operation : Operation}

/-! ## Challenges -/

/-- What a verification asks for a signature of at its start. -/
theorem verify_asks (visit : Visit) :
    (∃ result after, run Errand.verify visit = (.finished result, after)) ∨
      ∃ id address, visit.state.isCurrent id address = true ∧
        run Errand.verify visit = run (prove id address
          (if visit.state.connection.pendingLogin.isSome then .login else .link)) visit := by
  rw [run_verify]
  cases loaded : visit.state.visitorId? with
  | none => exact .inl ⟨_, _, rfl⟩
  | some id =>
      cases connected : visit.state.connection.address with
      | none => exact .inl ⟨_, _, rfl⟩
      | some address =>
          dsimp only
          split
          · exact .inl ⟨_, _, rfl⟩
          · split
            · exact .inl ⟨_, _, rfl⟩
            · split
              · exact .inr ⟨id, address, State.isCurrent_iff.2 ⟨loaded, connected⟩, rfl⟩
              · exact .inl ⟨_, _, rfl⟩

/-- The prompts that operations open when they are started, with what they do with the answer. -/
inductive Prompts (visit : Visit) :
    Operation → (message : String) → (Except String String → Errand Outcome) → Prop
  | verification {operation : Operation} {rest : Except LinkError VerifyOutcome → Errand Outcome}
      (after : operation.AfterVerify rest) {id address message : String}
      (current : visit.state.isCurrent id address = true)
      (written : message = challenge
        (if visit.state.connection.pendingLogin.isSome then .login else .link) address
        visit.outside.time) :
      Prompts visit operation message fun answer =>
        receiveSignature id address message visit.outside.time answer >>= rest
  | removal {id : String} (loaded : visit.state.visitorId? = some id) {address message : String}
      (written : message = challenge .unlink address visit.outside.time) :
      Prompts visit (.unlink address) message fun answer =>
        .account <$> receiveUnlinkSignature id address message answer

/-- An operation that verifies is verifying and what comes after it. -/
theorem AfterVerify.errand_eq {rest : Except LinkError VerifyOutcome → Errand Outcome}
    (after : operation.AfterVerify rest) : operation.errand = Errand.verify >>= rest := by
  cases after with
  | verify => rfl
  | verifyAndFollow context => exact errand_verifyAndFollow context

/-- The prompt that an operation opens when it verifies is one of these. -/
theorem AfterVerify.prompts {rest : Except LinkError VerifyOutcome → Errand Outcome}
    (after : operation.AfterVerify rest) {visit : Visit} {message : String}
    {next : Except String String → Errand Outcome}
    (stops : (run operation.errand visit).1 = .calling (.provider (.signMessage message)) next) :
    operation.Prompts visit message next := by
  rw [after.errand_eq] at stops
  rcases verify_asks visit with ⟨result, later, ends⟩ | ⟨id, address, current, asks⟩
  · -- What follows on a verification that has ended is about the session only.
    rw [run_bind_of_finished ends] at stops
    rcases Classical.em (result = .ok .stale) with rfl | fresh
    · rw [after.run_stale] at stops
      cases stops
    · cases ((after.tracks fresh).asks stops).1
  · rw [run_prove] at asks
    rw [run_bind_of_calling asks] at stops
    cases stops
    exact .verification after current rfl

/-- So is the prompt that it opens to remove a wallet. -/
theorem prompts_unlink {address : String} {visit : Visit} {message : String}
    {next : Except String String → Errand Outcome}
    (stops : (run (errand (.unlink address)) visit).1 =
      .calling (.provider (.signMessage message)) next) :
    Prompts visit (.unlink address) message next := by
  have runs := run_unlink address visit
  cases loaded : visit.state.visitorId? with
  | none =>
      simp only [loaded] at runs
      rw [errand, map_eq_bind, run_bind_of_finished runs] at stops
      cases stops
  | some id =>
      simp only [loaded] at runs
      split at runs
      · rw [errand, map_eq_bind, run_bind_of_calling runs] at stops
        cases stops
        exact .removal loaded rfl
      · rw [errand, map_eq_bind, run_bind_of_finished runs] at stops
        cases stops

/-- An operation that opens a prompt at its start writes the challenge in the terms of its start. -/
theorem prompts_of_stops {visit : Visit} {message : String}
    {next : Except String String → Errand Outcome}
    (stops : (run operation.errand visit).1 = .calling (.provider (.signMessage message)) next) :
    operation.Prompts visit message next := by
  have turn := operation.turn_start visit
  generalize same : run operation.errand visit = piece at turn
  rw [same] at stops
  cases turn with
  | rest effect rests =>
      rw [stops] at rests
      cases rests with
      | waits waits opens =>
          cases waits with
          | unlink => exact prompts_unlink ((congrArg Prod.fst same).trans stops)
          | prompt => cases opens
          | track session => cases session
  | prompt current idle waits =>
      rw [stops] at waits
      cases waits with
      | prompt after => exact after.prompts ((congrArg Prod.fst same).trans stops)

/-- What is called when a prompt that was opened at the start is signed. -/
theorem Prompts.signed {begun : Visit} {message : String}
    {next : Except String String → Errand Outcome} (prompts : operation.Prompts begun message next)
    (signature : String) (visit : Visit) :
    (∃ id address rest onwards after, operation.AfterVerify rest ∧
      begun.state.isCurrent id address = true ∧
      message = challenge (if begun.state.connection.pendingLogin.isSome then .login else .link)
        address begun.outside.time ∧
      run (next (.ok signature)) visit = (.calling (.service (.linkWallet id
        ⟨address, message, signature, begun.outside.time⟩)) onwards, after)) ∨
    ∃ id address onwards after, operation = .unlink address ∧ begun.state.visitorId? = some id ∧
      message = challenge .unlink address begun.outside.time ∧
      run (next (.ok signature)) visit =
        (.calling (.service (.unlinkWallet id address ⟨message, signature⟩)) onwards, after) := by
  cases prompts with
  | @verification _ rest after id address _ current written =>
      have sends :=
        run_receiveSignature_ok id address message signature begun.outside.time visit
      exact .inl ⟨id, address, rest, _, _, after, current, written, run_bind_of_calling sends rest⟩
  | @removal id loaded address _ written =>
      have sends := run_receiveUnlinkSignature_ok id address message signature visit
      have stops := run_bind_of_calling sends fun result => pure (Outcome.account result)
      exact .inr ⟨id, address, _, _, rfl, loaded, written, stops⟩

/-- What ends at once opens no prompt. -/
theorem not_prompts_of_endsQuietly {errand : Errand Outcome} {visit : Visit}
    (ends : EndsQuietly errand visit) (message : String)
    (onwards : Except String String → Errand Outcome) :
    (run errand visit).1 ≠ .calling (.provider (.signMessage message)) onwards := by
  obtain ⟨outcome, after, stops, _⟩ := ends
  rw [stops]
  nofun

/-- An operation that removes a wallet opens one prompt only. -/
theorem WaitsAt.not_prompts_unlink {address : String} {stage : Stage} {call : Call}
    {next : call.Answer → Errand Outcome}
    (waits : WaitsAt (.unlink address) stage (.calling call next)) (answer : call.Answer)
    (visit : Visit) (message : String) (onwards : Except String String → Errand Outcome) :
    (run (next answer) visit).1 ≠ .calling (.provider (.signMessage message)) onwards := by
  cases waits with
  | track session aside =>
      intro stops
      cases ((aside answer).asks stops).1
  | link after => cases after
  | prompt after => cases after
  | submit after => cases after
  | unlink id address text =>
      cases answer with
      | error reason =>
          exact not_prompts_of_endsQuietly ((failUpdate_endsQuietly _ visit).map _) message onwards
      | ok signature =>
          intro stops
          have sends := run_receiveUnlinkSignature_ok id address text signature visit
          have asks := run_bind_of_calling sends fun result => pure (Outcome.account result)
          cases (congrArg Prod.fst asks).symm.trans stops
  | remove id =>
      have ends := receiveUnlinked_endsQuietly id address answer visit
      exact not_prompts_of_endsQuietly (ends.map _) message onwards

/-- No operation opens a prompt after an answer. -/
theorem WaitsAt.not_prompts {stage : Stage} {call : Call} {next : call.Answer → Errand Outcome}
    (waits : operation.WaitsAt stage (.calling call next)) (answer : call.Answer) (visit : Visit)
    (message : String) (onwards : Except String String → Errand Outcome) :
    (run (next answer) visit).1 ≠ .calling (.provider (.signMessage message)) onwards := by
  intro stops
  have turn := turn_answer waits answer visit
  generalize same : run (next answer) visit = piece at turn
  rw [same] at stops
  cases turn with
  | rest effect rests =>
      rw [stops] at rests
      cases rests with
      | waits stands opens =>
          cases stands with
          | prompt => cases opens
          | track session => cases session
          | unlink id address =>
              exact waits.not_prompts_unlink answer visit message _
                ((congrArg Prod.fst same).trans stops)
  | submit => cases stops
  | remove => cases stops

/-- An operation that was woken opens no prompt. -/
theorem WaitsAt.not_prompts_woken {stage : Stage} {wakeUp : Nat} {next : Errand Outcome}
    (waits : operation.WaitsAt stage (.sleeping wakeUp next)) (visit : Visit) (message : String)
    (onwards : Except String String → Errand Outcome) :
    (run next visit).1 ≠ .calling (.provider (.signMessage message)) onwards := by
  intro stops
  cases waits with
  | sleep aside => cases (aside.asks stops).1

end Operation

namespace Course

variable {settings : VisitSettings} {outside : Outside} {storage : Storage} {state : State}
  {first before after : Course} {number : Nat}

/-! ## Prompts -/

/-- That an operation opened its prompt when it was started, and what the prompt is for. -/
structure PromptedAtStart (first begun course : Course) (number : Nat) (operation : Operation)
    (message : String) (next : Except String String → Errand Outcome) : Prop where
  reaches : Reaches first begun
  started : begun.started = number
  prompts : operation.Prompts begun.visit message next
  goesOn : Reaches (begun.start operation) course

/-- A prompt that was opened at the start stays so. -/
theorem PromptedAtStart.step {begun : Course} {operation : Operation} {message : String}
    {next : Except String String → Errand Outcome}
    (prompted : PromptedAtStart first begun before number operation message next)
    (step : Step before after) :
    PromptedAtStart first begun after number operation message next where
  reaches := prompted.reaches
  started := prompted.started
  prompts := prompted.prompts
  goesOn := .step prompted.goesOn step

/-- Every open prompt was opened when its operation was started. -/
theorem Reaches.promptedAtStart {course : Course}
    (reaches : Reaches (opening settings outside storage state) course) {operation : Operation}
    {message : String} {next : Except String String → Errand Outcome}
    (waits : ⟨number, operation, .calling (.provider (.signMessage message)) next⟩ ∈
      course.waiting) :
    ∃ begun, PromptedAtStart (opening settings outside storage state) begun course number operation
      message next := by
  induction reaches with
  | refl => cases waits
  | step earlier step ih =>
      have staged := earlier.staged
      have kept := fun waits => (ih waits).imp fun begun prompted => prompted.step step
      cases step with
      | start starting =>
          rcases mem_waiting_pause waits with waits | ⟨same, _⟩
          · exact kept waits
          · injection same with same same' stops
            subst same same'
            exact ⟨_, earlier, rfl, Operation.prompts_of_stops stops.symm, .refl⟩
      | answer waits' answer =>
          obtain ⟨stage, stands⟩ := staged _ waits'
          rcases mem_waiting_pause waits with waits | ⟨same, _⟩
          · exact kept (List.mem_filter.1 waits).1
          · injection same with _ _ stops
            exact absurd stops.symm (stands.not_prompts answer _ message next)
      | wake waits' due =>
          obtain ⟨stage, stands⟩ := staged _ waits'
          rcases mem_waiting_pause waits with waits | ⟨same, _⟩
          · exact kept (List.mem_filter.1 waits).1
          · injection same with _ _ stops
            exact absurd stops.symm (stands.not_prompts_woken _ message next)
      | beat due => exact kept waits
      | answerBeat sent => exact kept waits
      | giveUpBeat => exact kept waits
      | changeOutside later => exact kept waits

/-! ## Signatures -/

/-- That an operation is started in the course `begun`, has a challenge signed, and sends the call
that holds the signature in the step from `before` to `after`, right when it is given. -/
structure Signed (first begun before after : Course) (number : Nat) (operation : Operation)
    (message signature : String) (call : ServiceCall) : Prop where
  reaches : Reaches first begun
  started : begun.started = number
  goesOn : Reaches (begun.start operation) before
  history : after.history = before.history ++
    [.answered number (.provider (.signMessage message)) (.ok signature),
      .asked number (.service call)]

/-- A signature is sent on in the step that it is given in. -/
theorem history_of_signature {operation : Operation} {message signature : String}
    {next : Except String String → Errand Outcome} {call : Call}
    {onwards : call.Answer → Errand Outcome} {visit : Visit}
    (stops : run (next (.ok signature)) before.visit = (.calling call onwards, visit)) :
    (before.answer number operation (.provider (.signMessage message)) next
      (.ok signature)).history = before.history ++
        [.answered number (.provider (.signMessage message)) (.ok signature),
          .asked number call] := by
  unfold Course.answer
  rw [stops, pause_history]
  exact List.append_assoc _ _ _

/-- The call that holds a signature belongs to the prompt of its operation. -/
theorem PromptedAtStart.signed {begun : Course} {operation : Operation}
    {message signature : String} {next : Except String String → Errand Outcome}
    (prompted : PromptedAtStart first begun before number operation message next)
    {call : ServiceCall} {onwards : call.Answer → Errand Outcome} {visit : Visit}
    (stops : run (next (.ok signature)) before.visit = (.calling (.service call) onwards, visit)) :
    Signed first begun before
      (before.answer number operation (.provider (.signMessage message)) next (.ok signature))
      number operation message signature call where
  reaches := prompted.reaches
  started := prompted.started
  goesOn := prompted.goesOn
  history := history_of_signature stops

/-- A request that holds a signature is sent when the signature is given, with the challenge that it
was given for. A request to link a wallet names the visitor and the wallet that were the present
ones when the verification was started; its challenge is about this wallet and the time of the
request, and it is for a log-in exactly if one was pending then, which was one for this wallet. The
challenge of a request to remove a wallet is for its removal. -/
theorem submission_matches_challenge (begins : first = opening settings outside storage state)
    (opens : state.Opens) (reaches : Reaches first before) (step : Step before after)
    (number : Nat) (id : String) :
    (∀ request, after.Sends number (.service (.linkWallet id request)) →
      ∃ begun operation, (operation = .verify ∨ ∃ context, operation = .verifyAndFollow context) ∧
        Signed first begun before after number operation request.message request.signature
          (.linkWallet id request) ∧
        begun.visit.state.isCurrent id request.address = true ∧
        request.message = challenge
          (if begun.visit.state.connection.pendingLogin.isSome then .login else .link)
          request.address request.timestamp ∧
        ∀ pending, begun.visit.state.connection.pendingLogin = some pending →
          pending.address = request.address) ∧
    ∀ address request, after.Sends number (.service (.unlinkWallet id address request)) →
      ∃ begun, Signed first begun before after number (.unlink address) request.message
          request.signature (.unlinkWallet id address request) ∧
        begun.visit.state.visitorId? = some id ∧
        ∃ time, request.message = challenge .unlink address time := by
  subst begins
  constructor
  · intro request sends
    obtain ⟨operation, message, next, signature, waits, rfl⟩ :=
      step.of_sends reaches.staged sends rfl
    obtain ⟨begun, prompted⟩ := reaches.promptedAtStart waits
    rcases prompted.prompts.signed signature before.visit with
      ⟨_, address, rest, onwards, later, after, current, written, stops⟩ |
      ⟨_, _, onwards, later, _, _, _, stops⟩
    · cases ((signature_sends stops number message).1.unique sends).2
      refine ⟨begun, operation, ?_, prompted.signed stops, current, written, ?_⟩
      · cases after with
        | verify => exact .inl rfl
        | verifyAndFollow context => exact .inr ⟨context, rfl⟩
      · intro pending awaited
        -- The wallet of a pending log-in is the connected one at every moment.
        have connected := (prompted.reaches.pendsAtWallet opens pending awaited).2
        exact Option.some.inj (connected.symm.trans (State.isCurrent_iff.1 current).2)
    · cases ((signature_sends stops number message).1.unique sends).2
  · intro address request sends
    obtain ⟨operation, message, next, signature, waits, rfl⟩ :=
      step.of_sends reaches.staged sends rfl
    obtain ⟨begun, prompted⟩ := reaches.promptedAtStart waits
    rcases prompted.prompts.signed signature before.visit with
      ⟨_, _, rest, onwards, later, _, _, _, stops⟩ |
      ⟨_, _, onwards, later, rfl, loaded, written, stops⟩
    · cases ((signature_sends stops number message).1.unique sends).2
    · cases ((signature_sends stops number message).1.unique sends).2
      exact ⟨begun, prompted.signed stops, loaded, _, written⟩

/-- The connection is dropped while the prompt is open, and the prompt is signed afterwards. -/
theorem signed_challenge_is_submitted_after_disconnecting :
    ∃ (first begun before : Course) (operation : Operation)
      (next : Except String String → Errand Outcome) (message : String),
      begun.visit.state.isCurrent "visitor" "wallet" = true ∧
      before.visit.state.address? = none ∧
      Signed first begun before
        (before.answer 0 .verify (.provider (.signMessage message)) next (.ok "signature"))
        0 operation message "signature"
        (.linkWallet "visitor" ⟨"wallet", message, "signature", 0⟩) := by
  let time : Timestamp :=
    ⟨⟨2025, 1, 1, by decide, by decide, by decide⟩, 0, 0, by decide, by decide⟩
  let visitor : Visitor :=
    { id := "visitor", wallets := [{ address := "wallet", linkedAt := time, lastUsed := time }] }
  let first := opening {} { random := Vector.replicate 16 0 } (.memory {} {})
    (State.hydrated visitor)
  let before := (first.start .verify).start .disconnect
  let message := challenge .link "wallet" first.visit.outside.time
  have waits : ⟨0, .verify, .calling (.provider (.signMessage message)) _⟩ ∈ before.waiting :=
    List.mem_singleton.2 rfl
  have reaches : Reaches first before := .step (.step .refl (.start _ _)) (.start _ _)
  have matching := submission_matches_challenge rfl (.known _) reaches
    (.answer waits (.ok "signature")) 0 "visitor"
  obtain ⟨begun, operation, _, signed, current, _⟩ :=
    matching.1 ⟨"wallet", message, "signature", 0⟩ rfl
  exact ⟨first, begun, before, operation, _, message, current, rfl, signed⟩

end Course

end VisitorLink
