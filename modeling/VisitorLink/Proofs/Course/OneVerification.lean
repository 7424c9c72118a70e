import VisitorLink.Proofs.Conduct.Operations
import VisitorLink.Proofs.Course.Progress
import VisitorLink.Proofs.Course.VerifyingFlag

/-!
# One verification at a time

The flag for a verification under way belongs to the connection and is reset with it, although the
verification that raised it goes on waiting. So there is one verification for a visitor and an
address as long as these stay the present ones while it waits. Once the visitor or the address has
changed in between, there may be two.

Main statements: `one_verification_while_present`, and a course with two of them,
`two_verifications_after_reconnecting`.
-/

namespace VisitorLink

open Errand

namespace Operation

variable {operation : Operation} {id address : String}

/-- A verification is about a proof exactly where its cue is. -/
theorem Verifies.isProof_eq {paused : Errand.Paused Outcome}
    (verifies : operation.Verifies id address paused) (cue : Cue) :
    operation.isProof cue = cue.isProof := by
  cases verifies with
  | prompts waits =>
      cases waits with
      | prompt after => exact after.isProof_eq cue
  | submits waits =>
      cases waits with
      | submit after => exact after.isProof_eq cue

/-- A verification that waits is answered about its challenge or its signature. -/
theorem Verifies.isProof {call : Call} {next : call.Answer → Errand Outcome}
    (verifies : operation.Verifies id address (.calling call next)) (answer : call.Answer) :
    operation.isProof (.answer call answer) = true := by
  rw [verifies.isProof_eq]
  cases verifies with
  | prompts waits =>
      cases waits
      rfl
  | submits waits =>
      cases waits
      rfl

/-- An answer about the session proves nothing. -/
theorem not_isProof_of_session {call : Call} (session : call.isSession = true)
    (answer : call.Answer) : operation.isProof (.answer call answer) ≠ true := by
  have other : (Cue.answer call answer).isProof = false := by
    cases call with
    | provider call => cases session
    | service call => cases call <;> first | rfl | cases session
  cases operation <;> simp [isProof, other]

/-- An operation at rest does not verify. -/
theorem Rests.not_verifies {state : State} {paused : Errand.Paused Outcome}
    (rests : operation.Rests state paused) : ¬ operation.Verifies id address paused := by
  intro verifies
  obtain ⟨call, next, rfl, _, _, _, _, answer, _⟩ := verifies.calling
  have proof := verifies.isProof answer
  cases rests with
  | waits waits opens =>
      cases waits with
      | prompt => cases opens
      | submit => cases opens
      | link after => cases after <;> cases proof
      | track session => exact not_isProof_of_session session answer proof
      | _ => cases proof

/-- What an answer proves has waited for it at a stage of a verification. -/
theorem WaitsAt.verifies {stage : Stage} {call : Call} {next : call.Answer → Errand Outcome}
    (waits : operation.WaitsAt stage (.calling call next)) {answer : call.Answer}
    (proof : operation.isProof (.answer call answer) = true) :
    ∃ id address, stage.IsAbout id address ∧
      operation.Verifies id address (.calling call next) := by
  cases waits with
  | prompt after id address message time =>
      exact ⟨id, address, ⟨rfl, rfl⟩, .prompts (.prompt after id address message time)⟩
  | submit after id request =>
      exact ⟨id, request.address, ⟨rfl, rfl⟩, .submits (.submit after id request)⟩
  | link after => cases after <;> cases proof
  | track session => exact absurd proof (not_isProof_of_session session answer)
  | _ => cases proof

/-- Only a signature lets a verification wait on after an answer. -/
theorem Turn.not_verifies {call : Call} {answer : call.Answer} {before : Visit}
    {piece : Errand.Paused Outcome × Visit}
    (turn : operation.Turn (.answer call answer) before piece)
    (unsigned : (Cue.answer call answer).isSignature = false) :
    ¬ operation.Verifies id address piece.1 := by
  cases turn with
  | rest effect rests => exact rests.not_verifies
  | submit waits => cases unsigned
  | remove waits => cases unsigned

end Operation

namespace Course

/-- That one operation at most waits with a verification of the given visitor and address, and that
the state tells so. -/
structure Exclusive (course : Course) (id address : String) : Prop where
  one : ∀ waiting ∈ course.waiting, ∀ other ∈ course.waiting,
    waiting.operation.Verifies id address waiting.paused →
    other.operation.Verifies id address other.paused → waiting = other
  flagged : course.Verifies id address → course.visit.state.connection.verifying = true

/-- Where no verification waits, there is one at most. -/
theorem exclusive_of_none {course : Course} {id address : String}
    (none : ¬ course.Verifies id address) : course.Exclusive id address where
  one waiting mem _ _ verifies := absurd ⟨waiting, mem, verifies⟩ none
  flagged verifies := absurd verifies none

variable {before after resumed : Course} {number : Nat} {operation : Operation} {cue : Cue}
  {id address : String} {piece : Errand.Paused Outcome × Visit}

/-- An operation that does not verify the pair after its piece leaves the others alone. -/
theorem Exclusive.others (exclusive : before.Exclusive id address)
    (resumes : Resumes before number operation cue resumed)
    (silent : ¬ operation.Verifies id address piece.1)
    (kept : before.Verifies id address →
      (resumed.pause number operation piece).Verifies id address →
      piece.2.state.connection.verifying = true) :
    (resumed.pause number operation piece).Exclusive id address := by
  have waited {waiting : Waiting}
      (mem : waiting ∈ (resumed.pause number operation piece).waiting)
      (verifies : waiting.operation.Verifies id address waiting.paused) :
      waiting ∈ before.waiting := by
    rcases mem_waiting_pause mem with mem | ⟨rfl, _⟩
    · exact resumes.mem_waiting mem
    · exact absurd verifies silent
  constructor
  · intro waiting mem other mem' verifies verifies'
    exact exclusive.one waiting (waited mem verifies) other (waited mem' verifies') verifies
      verifies'
  · rintro ⟨waiting, mem, verifies⟩
    rw [pause_visit]
    exact kept ⟨waiting, waited mem verifies, verifies⟩ ⟨waiting, mem, verifies⟩

/-- An operation that takes up the pair while no other one verifies it. -/
theorem exclusive_of_alone
    (alone : ∀ waiting ∈ resumed.waiting, ¬ waiting.operation.Verifies id address waiting.paused)
    (verifying : piece.2.state.connection.verifying = true) :
    (resumed.pause number operation piece).Exclusive id address := by
  have taken {waiting : Waiting}
      (mem : waiting ∈ (resumed.pause number operation piece).waiting)
      (verifies : waiting.operation.Verifies id address waiting.paused) :
      waiting = ⟨number, operation, piece.1⟩ := by
    rcases mem_waiting_pause mem with mem | ⟨same, _⟩
    · exact absurd verifies (alone waiting mem)
    · exact same
  constructor
  · intro waiting mem other mem' verifies verifies'
    rw [taken mem verifies, taken mem' verifies']
  · intro _
    rw [pause_visit]
    exact verifying

/-- A turn without a proof opens a verification only where none goes on. -/
theorem Exclusive.turn (exclusive : before.Exclusive id address)
    (resumes : Resumes before number operation cue resumed)
    (turn : operation.Turn cue before.visit piece) (unproven : operation.isProof cue = false)
    (steady : before.visit.state.Steady piece.2.state)
    (present : before.Verifies id address → before.visit.state.isCurrent id address = true)
    (present' : (resumed.pause number operation piece).Verifies id address →
      piece.2.state.isCurrent id address = true) :
    (resumed.pause number operation piece).Exclusive id address := by
  cases turn with
  | rest effect rests =>
      refine exclusive.others resumes rests.not_verifies fun attended attended' => ?_
      exact steady id address (present attended) (present' attended') (exclusive.flagged attended)
  | prompt current idle waits starts =>
      -- Nobody else verifies the pair, or the flag would have kept this prompt from opening.
      refine exclusive_of_alone (fun waiting mem verifies => ?_) ?_
      · have flagged := exclusive.flagged ⟨waiting, resumes.mem_waiting mem, verifies⟩
        cases idle.symm.trans flagged
      · rw [starts]
        rfl
  | submit waits =>
      rw [Operation.Verifies.isProof_eq (.submits waits)] at unproven
      cases unproven
  | remove waits =>
      refine exclusive.others resumes (fun verifies => ?_) fun attended _ =>
        exclusive.flagged attended
      cases waits with
      | remove => cases verifies.isProof (.error (.network ""))

/-- The answer in a verification ends it or takes it to its next stage, and no other one waits. -/
theorem Exclusive.proof (exclusive : before.Exclusive id address) (numbered : before.Numbered)
    {call : Call} {next : call.Answer → Errand Outcome} {stage : Stage}
    (waits : ⟨number, operation, .calling call next⟩ ∈ before.waiting)
    (stands : operation.WaitsAt stage (.calling call next)) {answer : call.Answer}
    (proof : operation.isProof (.answer call answer) = true)
    (present : before.Verifies id address → before.visit.state.isCurrent id address = true) :
    (before.answer number operation call next answer).Exclusive id address := by
  obtain ⟨id', address', about, verifies⟩ := stands.verifies proof
  have resumes : Resumes before number operation (.answer call answer) _ := .answer waits answer
  have gone {waiting : Waiting}
      (mem : waiting ∈ ((before.without number).note (.answered number call answer)).waiting) :
      waiting ≠ ⟨number, operation, .calling call next⟩ := by
    rintro rfl
    exact resumes.fresh numbered (List.mem_map_of_mem mem)
  cases signed : (Cue.answer call answer).isSignature with
  | true =>
      obtain ⟨message, signature, same⟩ := Cue.eq_of_isSignature signed
      cases same
      obtain ⟨request, next', rfl, _, _, sends, stops⟩ :=
        stands.signed about signature before.visit
      unfold Course.answer
      rw [stops]
      -- The signature of the pair is sent on by the one that waited for it, so it is alone again.
      by_cases pair : id' = id ∧ request.address = address
      · obtain ⟨rfl, rfl⟩ := pair
        refine exclusive_of_alone (fun waiting mem others => gone mem ?_) ?_
        · exact exclusive.one waiting (resumes.mem_waiting mem) _ waits others verifies
        · exact exclusive.flagged ⟨_, waits, verifies⟩
      · refine exclusive.others resumes (fun goesOn => pair ?_) fun attended _ =>
          exclusive.flagged attended
        exact Operation.Verifies.unique (.submits sends) goesOn before.visit
  | false =>
      have turn := Operation.turn_answer stands answer before.visit
      refine exclusive.others resumes (turn.not_verifies signed) fun attended attended' => ?_
      obtain ⟨waiting, mem, others⟩ := attended'
      have stays : waiting ∈
          ((before.without number).note (.answered number call answer)).waiting := by
        rcases mem_waiting_pause mem with mem | ⟨rfl, _⟩
        · exact mem
        · exact absurd others (turn.not_verifies signed)
      -- Another operation verifies the present pair, so the one that is answered verifies another.
      have late : before.visit.state.isCurrent id' address' = false := by
        by_contra current
        obtain ⟨rfl, rfl⟩ := State.eq_of_isCurrent (eq_true_of_ne_false current) (present attended)
        exact gone stays
          (exclusive.one waiting (resumes.mem_waiting stays) _ waits others verifies)
      have wallet : call.isAboutWallet = true := by
        rcases stands.isAboutWallet about with rfl | wallet
        · cases stands with
          | track session => exact absurd proof (Operation.not_isProof_of_session session answer)
        · exact wallet
      obtain ⟨outcome, stops, _⟩ := stands.late about wallet signed late
      rw [stops]
      exact exclusive.flagged attended

variable {settings : VisitSettings} {outside : Outside} {storage : Storage} {state : State}

/-- What happens outside of the operations starts no verification. -/
theorem Exclusive.aside (exclusive : before.Exclusive id address)
    (waiting : after.waiting = before.waiting) (same : after.visit.state = before.visit.state) :
    after.Exclusive id address := by
  have verifies : after.Verifies id address ↔ before.Verifies id address := by
    rw [Course.Verifies, waiting]
    rfl
  refine ⟨?_, fun attended => ?_⟩
  · rw [waiting]
    exact exclusive.one
  · rw [same]
    exact exclusive.flagged (verifies.1 attended)

/-- One verification at most goes on after every step, if the pair is present while it waits. -/
theorem Exclusive.step (exclusive : before.Exclusive id address)
    (reaches : Reaches (opening settings outside storage state) before) (step : Step before after)
    (present : before.Verifies id address → before.visit.state.isCurrent id address = true)
    (present' : after.Verifies id address → after.visit.state.isCurrent id address = true) :
    after.Exclusive id address := by
  have conduct {number : Nat} {operation : Operation} {cue : Cue}
      {piece : Errand.Paused Outcome × Visit}
      (proceeds : before.Proceeds number operation cue piece) :=
    reaches.lawful Operation.observes_conduct proceeds
  cases step with
  | start operation =>
      have unproven : operation.isProof .go = false := by cases operation <;> rfl
      unfold Course.start at present' ⊢
      rw [pause_visit] at present'
      exact exclusive.turn (.start operation) (operation.turn_start before.visit) unproven
        ((conduct (.start operation)).steady unproven) present present'
  | @answer number operation call next waits answer =>
      obtain ⟨stage, stands⟩ := reaches.staged _ waits
      cases proof : operation.isProof (.answer call answer) with
      | true => exact exclusive.proof reaches.numbered waits stands proof present
      | false =>
          unfold Course.answer at present' ⊢
          rw [pause_visit] at present'
          exact exclusive.turn (.answer waits answer) (Operation.turn_answer stands answer _) proof
            ((conduct (.answer waits answer)).steady proof) present present'
  | @wake number wakeUp operation next waits due =>
      obtain ⟨stage, stands⟩ := reaches.staged _ waits
      have unproven : operation.isProof .go = false := by cases operation <;> rfl
      unfold Course.wake at present' ⊢
      rw [pause_visit] at present'
      exact exclusive.turn (.wake waits) (Operation.turn_wake stands _) unproven
        ((conduct (.wake waits)).steady unproven) present present'
  | beat due => exact exclusive.aside rfl rfl
  | answerBeat sent => exact exclusive.aside rfl (before.visit.answerHeartbeat_state _)
  | giveUpBeat => exact exclusive.aside rfl rfl
  | changeOutside later => exact exclusive.aside rfl rfl

/-- That a course goes on to another one while the pair is the present one whenever a verification
of it waits. -/
abbrev Holds (id address : String) : Course → Course → Prop :=
  Runs fun _ after => after.Verifies id address → after.visit.state.isCurrent id address = true

variable {begun last : Course}

/-- One verification at most goes on all along, by induction on the steps. -/
theorem Holds.exclusive (holds : Holds id address begun last)
    (reaches : Reaches (opening settings outside storage state) begun)
    (idle : ¬ begun.Verifies id address) :
    last.Exclusive id address ∧
      (last.Verifies id address → last.visit.state.isCurrent id address = true) := by
  induction holds with
  | refl => exact ⟨exclusive_of_none idle, fun attended => absurd attended idle⟩
  | step before next present ih =>
      exact ⟨ih.1.step (reaches.trans before.reaches) next ih.2 present, present⟩

/-- A verification of the present visitor and address is turned away while one is under way. -/
theorem run_verify_of_verifying {visit : Visit}
    (current : visit.state.isCurrent id address = true)
    (verifying : visit.state.connection.verifying = true) :
    ∃ result, run Errand.verify visit = (.finished result, visit) ∧
      (result = .ok .alreadyVerified ∨
        result = .error (.verifyFailed "A verification is already in progress")) := by
  obtain ⟨loaded, connected⟩ := State.isCurrent_iff.1 current
  unfold State.address? at connected
  rw [run_verify, loaded, connected]
  dsimp only
  split
  · exact ⟨_, rfl, .inl rfl⟩
  · exact ⟨_, rfl, .inr rfl⟩

/-- What waited before a start waits on. -/
theorem mem_waiting_start_of_mem {course : Course} {waiting : Waiting}
    (mem : waiting ∈ course.waiting) (operation : Operation) :
    waiting ∈ (course.start operation).waiting := by
  unfold Course.start
  refine mem_waiting_pause_of_mem ?_ _ _ _
  exact mem

/-- A verification that is not turned away opens a prompt. -/
theorem exists_verifies_start {course : Course}
    (current : course.visit.state.isCurrent id address = true)
    (unproven : course.visit.state.connection.verified = false)
    (idle : course.visit.state.connection.verifying = false)
    (signs : course.visit.outside.providerSigns = true) :
    ∃ waiting ∈ (course.start .verify).waiting, waiting.number = course.started ∧
      waiting.operation.Verifies id address waiting.paused := by
  obtain ⟨loaded, connected⟩ := State.isCurrent_iff.1 current
  unfold State.address? at connected
  have stops := run_verify course.visit
  rw [loaded, connected] at stops
  dsimp only at stops
  rw [unproven, idle, signs, Bool.and_false, if_neg nofun, if_neg nofun, if_pos rfl,
    run_prove] at stops
  have errand : Operation.errand .verify = verify >>= fun result => pure (.verify result) := rfl
  unfold Course.start
  rw [errand, run_bind_of_calling stops]
  exact ⟨_, mem_waiting_pause_calling _ _ _ _ _ _, rfl, .prompts (.prompt .verify id address _ _)⟩

/-- As long as a visitor and an address are the present ones whenever a verification of them waits,
there is one such verification at most, and any further one is turned away without a call. -/
theorem one_verification_while_present
    (reaches : Reaches (opening settings outside storage state) begun)
    (idle : ¬ begun.Verifies id address) (holds : Holds id address begun last) :
    (∀ waiting ∈ last.waiting, ∀ other ∈ last.waiting,
      waiting.operation.Verifies id address waiting.paused →
      other.operation.Verifies id address other.paused → waiting = other) ∧
    (last.Verifies id address →
      ∀ operation : Operation,
        (operation = .verify ∨ ∃ context, operation = .verifyAndFollow context) →
        ∃ result, operation.errand.run last.visit = (.finished (.verify result), last.visit) ∧
          (result = .ok .alreadyVerified ∨
            result = .error (.verifyFailed "A verification is already in progress"))) := by
  obtain ⟨exclusive, present⟩ := holds.exclusive reaches idle
  refine ⟨exclusive.one, fun attended operation verifies => ?_⟩
  obtain ⟨result, stops, turnedAway⟩ :=
    run_verify_of_verifying (present attended) (exclusive.flagged attended)
  refine ⟨result, ?_, turnedAway⟩
  rcases verifies with rfl | ⟨context, rfl⟩
  · exact run_bind_of_finished stops _
  · rw [Operation.errand_verifyAndFollow, run_bind_of_finished stops]
    rcases turnedAway with rfl | rfl <;> rfl

/-- A wallet is verified again while the prompt is open. -/
theorem second_verification_is_turned_away :
    ∃ (last : Course) (result : Except LinkError VerifyOutcome),
      last.Verifies "visitor" "wallet" ∧
      (Operation.errand .verify).run last.visit = (.finished (.verify result), last.visit) := by
  let begun := opening {} { random := Vector.replicate 16 0 } (.memory {} {})
    { visitor := some { id := "visitor" }, connection.address := some "wallet" }
  let last := begun.start .verify
  have current : begun.visit.state.isCurrent "visitor" "wallet" = true := by decide
  obtain ⟨waiting, mem, _, verifies⟩ := exists_verifies_start current rfl rfl rfl
  have attended : last.Verifies "visitor" "wallet" := ⟨waiting, mem, verifies⟩
  have idle : ¬ begun.Verifies "visitor" "wallet" := by
    rintro ⟨waiting, mem, _⟩
    cases mem
  have present : last.visit.state.isCurrent "visitor" "wallet" = true := by decide
  have holds : Holds "visitor" "wallet" begun last :=
    .step .refl (.start _ _) fun _ => present
  obtain ⟨_, turnedAway⟩ := one_verification_while_present .refl idle holds
  obtain ⟨result, stops, _⟩ := turnedAway attended .verify (.inl rfl)
  exact ⟨last, result, attended, stops⟩

/-- The wallet is disconnected and connected again while the prompt is open, and verified anew. -/
theorem two_verifications_after_reconnecting :
    ∃ (visitor : Visitor) (last : Course),
      Reaches (opening {} { random := Vector.replicate 16 0, providerAddress := some "TA" }
        (.memory {} {}) (State.hydrated visitor)) last ∧
      last.visit.state.isCurrent "visitor" "TA" = true ∧
      ∃ waiting ∈ last.waiting, ∃ other ∈ last.waiting, waiting.number ≠ other.number ∧
        waiting.operation.Verifies "visitor" "TA" waiting.paused ∧
        other.operation.Verifies "visitor" "TA" other.paused := by
  let visitor : Visitor := { id := "visitor" }
  let first := opening {} { random := Vector.replicate 16 0, providerAddress := some "TA" }
    (.memory {} {}) (State.hydrated visitor)
  let shown := first.start .checkShown
  let back := ((shown.start .verify).start .disconnect).start .checkShown
  have begins : Reaches first (shown.start .verify) :=
    .step (.step .refl (.start _ _)) (.start _ _)
  have reaches : Reaches first (back.start .verify) :=
    .step (.step (.step begins (.start _ _)) (.start _ _)) (.start _ _)
  have present : (back.start .verify).visit.state.isCurrent "visitor" "TA" = true := by
    decide +kernel
  obtain ⟨waiting, mem, early, verifies⟩ : ∃ waiting ∈ (shown.start .verify).waiting,
      waiting.number = shown.started ∧
        waiting.operation.Verifies "visitor" "TA" waiting.paused :=
    exists_verifies_start (by decide +kernel) (by decide +kernel) (by decide +kernel) rfl
  obtain ⟨other, mem', late, verifies'⟩ : ∃ other ∈ (back.start .verify).waiting,
      other.number = back.started ∧ other.operation.Verifies "visitor" "TA" other.paused :=
    exists_verifies_start (by decide +kernel) (by decide +kernel) (by decide +kernel) rfl
  have goesOn : waiting ∈ back.waiting :=
    mem_waiting_start_of_mem (mem_waiting_start_of_mem mem _) _
  refine ⟨visitor, back.start .verify, reaches, present, waiting,
    mem_waiting_start_of_mem goesOn _, other, mem', ?_, verifies, verifies'⟩
  rw [early, late]
  decide +kernel

end Course

end VisitorLink
