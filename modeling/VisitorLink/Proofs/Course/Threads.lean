import VisitorLink.Proofs.Course.Moves
import VisitorLink.Proofs.Visit.Lateness

/-!
# Threads

What one operation does in the course of a visit, from some point on, while anything may happen in
between. A property of the operation that each of its pieces keeps is kept throughout
(`Thread.reaches`). The first call that an operation makes about a wallet fixes the visitor and the
address that it pursues from there (`TakesUp.thread`).
-/

namespace VisitorLink

open Errand

/-- That a property of operations that wait or have ended is kept by every piece. -/
structure Operation.Persists (Holds : Operation → Errand.Paused Outcome → Prop) : Prop where
  answered : ∀ {operation : Operation} {call : Call} {next : call.Answer → Errand Outcome},
    Holds operation (.calling call next) →
      ∀ answer visit, Holds operation ((next answer).run visit).1
  woken : ∀ {operation : Operation} {wakeUp : Nat} {next : Errand Outcome},
    Holds operation (.sleeping wakeUp next) → ∀ visit, Holds operation (next.run visit).1

namespace Course

variable {Holds : Operation → Errand.Paused Outcome → Prop} {number : Nat}

/-- That one operation of a course has a property, whether it waits or has ended. -/
structure Thread (course : Course) (number : Nat)
    (Holds : Operation → Errand.Paused Outcome → Prop) : Prop where
  lt_started : number < course.started
  waits : ∀ {operation : Operation} {paused : Errand.Paused Outcome},
    ⟨number, operation, paused⟩ ∈ course.waiting → Holds operation paused
  ended : ∀ {outcome : Outcome}, .ended number outcome ∈ course.history →
    ∃ operation, Holds operation (.finished outcome)

/-- Resuming any operation leaves the property of those that wait. -/
theorem Thread.resumes {before resumed : Course} {other : Nat} {operation : Operation} {cue : Cue}
    (thread : before.Thread number Holds)
    (resumes : Resumes before other operation cue resumed) : resumed.Thread number Holds where
  lt_started := Nat.lt_of_lt_of_le thread.lt_started resumes.started_le
  waits mem := thread.waits (resumes.mem_waiting mem)
  ended mem := thread.ended ((resumes.mem_history_iff rfl).1 mem)

/-- An operation that has a turn has any property until then, since it neither waits nor has
ended. -/
theorem Resumes.thread {before resumed : Course} {operation : Operation} {cue : Cue}
    (resumes : Resumes before number operation cue resumed) (numbered : before.Numbered)
    (settled : before.Settled) : resumed.Thread number Holds where
  lt_started := resumes.lt_started numbered
  waits mem := absurd (List.mem_map_of_mem mem) (resumes.fresh numbered)
  ended mem := by
    obtain ⟨lt, gone⟩ := settled _ _ ((resumes.mem_history_iff rfl).1 mem)
    rcases resumes.origin with started | waited
    · exact absurd (started ▸ lt) (Nat.lt_irrefl _)
    · exact absurd waited gone

/-- A pause of an operation with the property leaves it with the property. -/
theorem Thread.pause {course : Course} {other : Nat} {operation : Operation}
    {piece : Errand.Paused Outcome × Visit} (thread : course.Thread number Holds)
    (holds : other = number → Holds operation piece.1) :
    (course.pause other operation piece).Thread number Holds where
  lt_started := (pause_started _ _ _ _).symm ▸ thread.lt_started
  waits mem := by
    rcases mem_waiting_pause mem with mem | ⟨same, _⟩
    · exact thread.waits mem
    · cases same
      exact holds rfl
  ended mem := by
    rw [pause_history, List.mem_append] at mem
    rcases mem with mem | mem
    · exact thread.ended mem
    · obtain ⟨rfl, ends⟩ := eq_of_ended_mem_pauseNote mem
      exact ⟨operation, ends ▸ holds rfl⟩

/-- What is no end of an operation leaves the property. -/
theorem Thread.aside {before after : Course} {happening : Happening}
    (thread : before.Thread number Holds) (waiting : after.waiting = before.waiting)
    (started : after.started = before.started) (aside : happening.isAside = true)
    (history : after.history = before.history ++ [happening]) : after.Thread number Holds where
  lt_started := started ▸ thread.lt_started
  waits mem := thread.waits (waiting ▸ mem)
  ended mem := thread.ended ((mem_history_iff_of_aside aside history rfl).1 mem)

/-- A property that every piece keeps is kept by every step. -/
theorem Thread.step {before after : Course} (thread : before.Thread number Holds)
    (persists : Operation.Persists Holds) (step : Step before after) :
    after.Thread number Holds := by
  cases step with
  | start operation =>
      refine (thread.resumes (.start operation)).pause fun same => ?_
      exact absurd thread.lt_started (by simp [same])
  | answer waits answer =>
      refine (thread.resumes (.answer waits answer)).pause fun same => ?_
      cases same
      exact persists.answered (thread.waits waits) answer before.visit
  | wake waits due =>
      refine (thread.resumes (.wake waits)).pause fun same => ?_
      cases same
      exact persists.woken (thread.waits waits) before.visit
  | beat due => exact thread.aside rfl rfl rfl rfl
  | answerBeat sent => exact thread.aside rfl rfl rfl rfl
  | giveUpBeat => exact thread.aside rfl rfl rfl rfl
  | changeOutside later => exact thread.aside rfl rfl rfl rfl

/-- What every piece of an operation keeps is kept whatever else happens. -/
theorem Thread.reaches {first last : Course} (thread : first.Thread number Holds)
    (persists : Operation.Persists Holds) (reaches : Reaches first last) :
    last.Thread number Holds := by
  induction reaches with
  | refl => exact thread
  | step before next ih => exact ih.step persists next

/-! ## The course of one call -/

/-- A call of the last step was made in a turn. -/
theorem Moves.of_sends {before after : Course} (moves : Moves before after) {call : Call}
    (sends : after.Sends number call) :
    ∃ operation cue resumed piece next, Resumes before number operation cue resumed ∧
      operation.Turn cue before.visit piece ∧ piece.1 = .calling call next ∧
      after = resumed.pause number operation piece := by
  cases moves with
  | turn resumes turn =>
      obtain ⟨rfl, next, stops⟩ := resumes.of_sends sends
      exact ⟨_, _, _, _, next, resumes, turn, stops, rfl⟩
  | aside state waiting started aside history =>
      exact absurd sends (not_sends_of_aside aside history number call)

/-- Nothing but the call of the last turn is waited for under its number. -/
theorem Resumes.eq_of_mem_pause {before resumed : Course} {operation : Operation} {cue : Cue}
    {piece : Errand.Paused Outcome × Visit} (resumes : Resumes before number operation cue resumed)
    (numbered : before.Numbered) {waiting : Waiting}
    (mem : waiting ∈ (resumed.pause number operation piece).waiting)
    (same : waiting.number = number) : waiting = ⟨number, operation, piece.1⟩ := by
  rcases mem_waiting_pause mem with mem | ⟨rfl, _⟩
  · exact absurd (same ▸ List.mem_map_of_mem mem) (resumes.fresh numbered)
  · rfl

end Course

/-! ## Taking up a wallet -/

/-- Whether operations link or verify the connected wallet by their first call of this kind. -/
def Call.takesUpWallet : Call → Bool
  | .provider (.signMessage _) | .service (.connectWallet _ _) => true
  | _ => false

/-- A first call about the connected wallet is one about a wallet. -/
theorem Call.isAboutWallet_of_takesUp {call : Call} (takes : call.takesUpWallet = true) :
    call.isAboutWallet = true := by
  cases call with
  | provider call => cases call <;> first | rfl | cases takes
  | service call => cases call <;> first | rfl | cases takes

/-- Whether an operation links or verifies the connected wallet, if there is one. -/
def Operation.linksWallet : Operation → Bool
  | .bootstrap | .link | .connectWallet | .verify | .verifyAndFollow _ => true
  | _ => false

/-- Operations pursue what they pursue. -/
theorem Operation.pursues_persists (id address : String) :
    Operation.Persists fun operation paused => operation.Pursues id address paused where
  answered pursues answer visit := pursues.answered answer visit
  woken pursues visit := pursues.woken visit

/-- Operations that are in time stay so. -/
theorem Operation.inTime_persists : Operation.Persists Operation.InTime where
  answered inTime answer visit := inTime.answered answer visit
  woken inTime visit := inTime.woken visit

/-- An operation that takes up a wallet in a turn has come to a stage about the present visitor and
address. -/
theorem Operation.Turn.takesUp {operation : Operation} (links : operation.linksWallet = true)
    {cue : Cue} {before after : Visit} {call : Call} {next : call.Answer → Errand Outcome}
    (turn : operation.Turn cue before (.calling call next, after))
    (takes : call.takesUpWallet = true) {id address : String}
    (current : after.state.isCurrent id address = true) :
    ∃ stage, operation.WaitsAt stage (.calling call next) ∧ stage.IsAbout id address := by
  cases turn with
  | rest effect rests =>
      cases rests with
      | waits waits opens =>
          cases waits with
          | link rest visitor wallet =>
              exact ⟨_, .link rest visitor wallet, State.eq_of_isCurrent opens current⟩
          | track session aside =>
              exact absurd (Call.isAboutWallet_of_takesUp takes) (Call.not_isAboutWallet session)
          | unlink => cases links
          | prompt => cases opens
          | submit => cases opens
          | remove => cases opens
          | _ => cases takes
  | prompt present idle waits starts =>
      have current' : (before.state.apply .startVerification).isCurrent id address = true :=
        starts ▸ current
      exact ⟨_, waits, State.eq_of_isCurrent present current'⟩
  | submit waits => cases takes
  | remove waits => cases takes

namespace Operation

variable {operation : Operation} {visit : Visit} {call : Call} {next : call.Answer → Errand Outcome}

/-- A link request that makes a call has not changed which pair is the present one. -/
theorem AfterLink.isCurrent_of_asks {rest : Except LinkError LinkOutcome → Errand Outcome}
    (after : operation.AfterLink rest)
    (asks : (run (Errand.link >>= rest) visit).1 = .calling call next) (id address : String) :
    (run (Errand.link >>= rest) visit).2.state.isCurrent id address =
      visit.state.isCurrent id address := by
  rcases link_stops visit with ⟨result, stops⟩ | ⟨_, _, later, stops, _, same⟩
  · obtain ⟨outcome, ends⟩ := after.ends result
    rw [run_bind_of_finished stops, ends] at asks
    cases asks
  · rw [run_bind_of_calling stops, same]

/-- A verification that makes a call has not changed which pair is the present one. -/
theorem AfterVerify.isCurrent_of_asks {rest : Except LinkError VerifyOutcome → Errand Outcome}
    (after : operation.AfterVerify rest)
    (asks : (run (Errand.verify >>= rest) visit).1 = .calling call next)
    (takes : call.takesUpWallet = true) (id address : String) :
    (run (Errand.verify >>= rest) visit).2.state.isCurrent id address =
      visit.state.isCurrent id address := by
  rcases verify_stops visit with
    ⟨result, later, stops, _⟩ | ⟨_, _, _, _, later, stops, _, _, starts⟩
  · rw [run_bind_of_finished stops] at asks
    rcases Classical.em (result = .ok .stale) with rfl | fresh
    · rw [after.run_stale] at asks
      cases asks
    · exact absurd (Call.isAboutWallet_of_takesUp takes)
        (Call.not_isAboutWallet ((after.tracks fresh).asks asks).1)
  · rw [run_bind_of_calling stops, starts]
    rfl

end Operation

namespace Course

/-- That an operation has just made its first call about the connected wallet, for the visitor and
the address that are the present ones then. -/
structure TakesUp (course : Course) (number : Nat) (id address : String) : Prop where
  asked : ∃ operation call next, operation.linksWallet = true ∧ call.takesUpWallet = true ∧
    ⟨number, operation, .calling call next⟩ ∈ course.waiting ∧
    course.Sends number call
  current : course.visit.state.isCurrent id address = true

/-- Linking and verifying take up the visitor and the address that are the present ones at their
start. -/
theorem takesUp_start {course : Course} {operation : Operation}
    (direct : operation = .link ∨ operation = .verify ∨
      ∃ context, operation = .verifyAndFollow context)
    {call : Call} {next : call.Answer → Errand Outcome}
    (asks : (operation.errand.run course.visit).1 = .calling call next)
    (takes : call.takesUpWallet = true) {id address : String}
    (current : course.visit.state.isCurrent id address = true) :
    (course.start operation).TakesUp course.started id address := by
  have kept : (operation.errand.run course.visit).2.state.isCurrent id address = true := by
    rcases direct with rfl | rfl | ⟨context, rfl⟩
    · exact (Operation.AfterLink.link.isCurrent_of_asks asks id address).trans current
    · exact (Operation.AfterVerify.verify.isCurrent_of_asks asks takes id address).trans current
    · rw [Operation.errand_verifyAndFollow] at asks ⊢
      have after := Operation.AfterVerify.verifyAndFollow context
      exact (after.isCurrent_of_asks asks takes id address).trans current
  have links : operation.linksWallet = true := by
    rcases direct with rfl | rfl | ⟨context, rfl⟩ <;> rfl
  unfold Course.start
  rcases stops : operation.errand.run course.visit with ⟨paused, after⟩
  rw [stops] at asks kept
  cases asks
  exact ⟨⟨operation, call, next, links, takes, mem_waiting_pause_calling _ _ _ _ _ _,
    sends_pause _ _ _ _ _ _⟩, kept⟩

variable {settings : VisitSettings} {outside : Outside} {storage : Storage} {state : State}

/-- From its first call about the connected wallet on, an operation pursues one visitor and one
address. -/
theorem TakesUp.thread {course : Course} {number : Nat} {id address : String}
    (takes : course.TakesUp number id address)
    (reaches : Reaches (opening settings outside storage state) course) :
    course.Thread number (Operation.Pursues id address) := by
  obtain ⟨⟨operation, call, next, links, first, waits, asked⟩, current⟩ := takes
  -- The call is the last thing that happened, so the turn that made it is that of the last step.
  cases reaches with
  | refl => cases asked
  | step before step =>
      obtain ⟨_, cue, resumed, ⟨_, visit⟩, _, resumes, turn, rfl, rfl⟩ :=
        (step.moves before.staged).of_sends asked
      cases resumes.eq_of_mem_pause before.numbered waits rfl
      rw [pause_visit] at current
      obtain ⟨stage, stands, about⟩ := turn.takesUp links first current
      exact (resumes.thread before.numbered before.settled).pause fun _ => .waits stands about

end Course

end VisitorLink
