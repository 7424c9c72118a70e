import VisitorLink.Proofs.Course.Moves
import VisitorLink.Proofs.Errand.Laws
import VisitorLink.Proofs.Visit.Aside

/-!
# Progress under laws

A step of a course is a piece of one operation, or it concerns the tracking of pages and the outside
only. If the errands of all operations observe a law, then every piece in the course of a visit
falls under it, at whatever moment and in whatever order the operations proceed.

Main statements: `Reaches.lawful`, and that a course goes on to another one by steps that all avoid
something unless one of them does it (`Reaches.avoids_or_does`).
-/

namespace VisitorLink

open Errand

/-- The answer to a heartbeat does not concern the wallet. -/
theorem Visit.answerHeartbeat_apart (visit : Visit) (number : Nat) :
    visit.Apart (visit.answerHeartbeat number) := by
  unfold answerHeartbeat
  split <;> exact .of_eq rfl rfl rfl rfl rfl rfl

/-- Whether something happens without any operation going on. -/
def Happening.isBackground : Happening → Bool
  | .beat _ | .beatAnswered | .beatGivenUp | .outsideChanged => true
  | _ => false

namespace Course

/-! ## Pieces -/

/-- That an operation goes on by a piece when it is started, answered or woken. -/
inductive Proceeds (course : Course) :
    Nat → Operation → Cue → Errand.Paused Outcome × Visit → Prop
  | start (operation : Operation) :
      Proceeds course course.started operation .go (operation.errand.run course.visit)
  | answer {number : Nat} {operation : Operation} {call : Call}
      {next : call.Answer → Errand Outcome}
      (waits : ⟨number, operation, .calling call next⟩ ∈ course.waiting) (answer : call.Answer) :
      Proceeds course number operation (.answer call answer) ((next answer).run course.visit)
  | wake {number wakeUp : Nat} {operation : Operation} {next : Errand Outcome}
      (waits : ⟨number, operation, .sleeping wakeUp next⟩ ∈ course.waiting) :
      Proceeds course number operation .go (next.run course.visit)

/-- What a step does to a course: one operation goes on by a piece, or the visit changes in what
does not concern the wallet. -/
inductive Progress (before : Course) : Course → Prop
  | piece {number : Nat} {operation : Operation} {cue : Cue} {resumed : Course}
      {piece : Errand.Paused Outcome × Visit}
      (proceeds : before.Proceeds number operation cue piece)
      (resumes : Resumes before number operation cue resumed) :
      Progress before (resumed.pause number operation piece)
  | aside {after : Course} {happening : Happening} (apart : before.visit.Apart after.visit)
      (waiting : after.waiting = before.waiting) (background : happening.isBackground = true)
      (history : after.history = before.history ++ [happening]) : Progress before after

variable {before after : Course}

/-- Every step is a piece of an operation or does not concern the wallet. -/
theorem Step.progress (step : Step before after) : Progress before after := by
  cases step with
  | start operation => exact .piece (.start operation) (.start operation)
  | answer waits answer => exact .piece (.answer waits answer) (.answer waits answer)
  | wake waits due => exact .piece (.wake waits) (.wake waits)
  | beat due => exact .aside (.of_eq rfl rfl rfl rfl rfl rfl) rfl rfl rfl
  | answerBeat sent => exact .aside (before.visit.answerHeartbeat_apart _) rfl rfl rfl
  | giveUpBeat => exact .aside (.of_eq rfl rfl rfl rfl rfl rfl) rfl rfl rfl
  | changeOutside later => exact .aside (.of_eq rfl rfl rfl rfl rfl rfl) rfl rfl rfl

/-! ## Cues -/

/-- That a step sets an operation going by a cue. -/
def Cues (before after : Course) (number : Nat) (operation : Operation) (cue : Cue) : Prop :=
  ∃ resumed piece, Resumes before number operation cue resumed ∧
    after = resumed.pause number operation piece

/-- The turn of an operation is noted as none of the background. -/
theorem Resumes.history_turn {number : Nat} {operation : Operation} {cue : Cue} {resumed : Course}
    (resumes : Resumes before number operation cue resumed) :
    ∃ happening, happening.isBackground = false ∧
      resumed.history = before.history ++ [happening] := by
  cases resumes with
  | start operation => exact ⟨_, rfl, rfl⟩
  | answer waits answer => exact ⟨_, rfl, rfl⟩
  | wake waits => exact ⟨_, rfl, rfl⟩

/-- What is noted in the history tells which operation is set going and by what. -/
theorem Resumes.unique {number other : Nat} {operation operation' : Operation} {cue cue' : Cue}
    {resumed resumed' : Course} (resumes : Resumes before number operation cue resumed)
    (resumes' : Resumes before other operation' cue' resumed') (numbered : before.Numbered)
    (same : resumed.history = resumed'.history) :
    number = other ∧ operation = operation' ∧ cue = cue' := by
  cases resumes with
  | start operation =>
      cases resumes' with
      | start operation' =>
          cases List.append_cancel_left same
          exact ⟨rfl, rfl, rfl⟩
      | answer waits answer => cases List.append_cancel_left same
      | wake waits => cases List.append_cancel_left same
  | answer waits answer =>
      cases resumes' with
      | start operation' => cases List.append_cancel_left same
      | answer waits' answer' =>
          cases List.append_cancel_left same
          cases numbered.eq waits waits' rfl
          exact ⟨rfl, rfl, rfl⟩
      | wake waits => cases List.append_cancel_left same
  | wake waits =>
      cases resumes' with
      | start operation' => cases List.append_cancel_left same
      | answer waits answer => cases List.append_cancel_left same
      | wake waits' =>
          cases List.append_cancel_left same
          cases numbered.eq waits waits' rfl
          exact ⟨rfl, rfl, rfl⟩

/-- A step sets one operation going at most. -/
theorem Cues.unique {number other : Nat} {operation operation' : Operation} {cue cue' : Cue}
    (cues : Cues before after number operation cue)
    (cues' : Cues before after other operation' cue') (numbered : before.Numbered) :
    number = other ∧ operation = operation' ∧ cue = cue' := by
  obtain ⟨resumed, piece, resumes, rfl⟩ := cues
  obtain ⟨resumed', piece', resumes', same⟩ := cues'
  obtain ⟨happening, _, history⟩ := resumes.history_turn
  obtain ⟨happening', _, history'⟩ := resumes'.history_turn
  have histories := congrArg Course.history same
  rw [pause_history, pause_history] at histories
  refine resumes.unique resumes' numbered (List.append_inj_left histories ?_)
  rw [history, history', List.length_append, List.length_append]
  rfl

/-- What happens in the background sets no operation going. -/
theorem not_cues_of_background {number : Nat} {operation : Operation} {cue : Cue}
    {happening : Happening} (background : happening.isBackground = true)
    (history : after.history = before.history ++ [happening]) :
    ¬ Cues before after number operation cue := by
  rintro ⟨resumed, piece, resumes, rfl⟩
  obtain ⟨turn, foreground, noted⟩ := resumes.history_turn
  rw [pause_history, noted, List.append_assoc] at history
  obtain ⟨rfl, _⟩ := List.cons.inj (List.append_cancel_left history)
  cases foreground.symm.trans background

/-- What happens in the background makes no call of an operation. -/
theorem not_sends_of_background {happening : Happening} (background : happening.isBackground = true)
    (history : after.history = before.history ++ [happening]) (number : Nat) (call : Call) :
    ¬ after.Sends number call := by
  refine not_sends_of_aside ?_ history number call
  cases happening <;> first | rfl | cases background

/-- An operation waits until it is answered or woken. -/
theorem Step.waits_on (step : Step before after) (numbered : before.Numbered) {waiting : Waiting}
    (waits : waiting ∈ before.waiting) :
    waiting ∈ after.waiting ∨
      (∃ call next answer, waiting.paused = .calling call next ∧
        after = before.answer waiting.number waiting.operation call next answer) ∨
      ∃ wakeUp next, waiting.paused = .sleeping wakeUp next := by
  have stays {number : Nat} {operation : Operation} {cue : Cue} {resumed : Course}
      (resumes : Resumes before number operation cue resumed) (other : waiting.number ≠ number)
      (piece : Errand.Paused Outcome × Visit) :
      waiting ∈ (resumed.pause number operation piece).waiting :=
    mem_waiting_pause_of_mem (resumes.mem_waiting_of_ne waits other) _ _ _
  cases step with
  | start operation =>
      refine .inl (stays (.start operation) (fun same => ?_) _)
      exact Nat.lt_irrefl _ (same ▸ numbered.lt_started _ (List.mem_map_of_mem waits))
  | @answer number operation call next waits' answer =>
      by_cases same : waiting.number = number
      · cases numbered.eq waits waits' same
        exact .inr (.inl ⟨call, next, answer, rfl, rfl⟩)
      · exact .inl (stays (.answer waits' answer) same _)
  | @wake number wakeUp operation next waits' due =>
      by_cases same : waiting.number = number
      · cases numbered.eq waits waits' same
        exact .inr (.inr ⟨wakeUp, next, rfl⟩)
      · exact .inl (stays (.wake waits') same _)
  | beat due => exact .inl waits
  | answerBeat sent => exact .inl waits
  | giveUpBeat => exact .inl waits
  | changeOutside later => exact .inl waits

/-! ## Laws -/

variable {laws : Operation → Law Outcome} {settings : VisitSettings} {outside : Outside}
  {storage : Storage} {state : State}

/-- A piece falls under the law, and so will what is left of the operation. -/
theorem Proceeds.lawful {course : Course} {number : Nat} {operation : Operation} {cue : Cue}
    {piece : Errand.Paused Outcome × Visit} (proceeds : course.Proceeds number operation cue piece)
    (observes : ∀ operation visit,
      ObservesFrom (laws operation) .go visit operation.errand visit)
    (uphold : ∀ waiting ∈ course.waiting, Upholds (laws waiting.operation) waiting.paused) :
    laws operation cue course.visit piece ∧ Upholds (laws operation) piece.1 := by
  cases proceeds with
  | start => exact (observes operation course.visit).run
  | answer waits answer => exact (uphold _ waits answer course.visit).run
  | wake waits => exact (uphold _ waits course.visit).run

/-- What operations uphold is upheld after every step. -/
theorem Step.uphold (step : Step before after)
    (observes : ∀ operation visit,
      ObservesFrom (laws operation) .go visit operation.errand visit)
    (uphold : ∀ waiting ∈ before.waiting, Upholds (laws waiting.operation) waiting.paused) :
    ∀ waiting ∈ after.waiting, Upholds (laws waiting.operation) waiting.paused := by
  intro waiting mem
  cases step.progress with
  | piece proceeds resumes =>
      rcases mem_waiting_pause mem with mem | ⟨rfl, _⟩
      · exact uphold waiting (resumes.mem_waiting mem)
      · exact (proceeds.lawful observes uphold).2
  | aside apart same =>
      rw [same] at mem
      exact uphold waiting mem

/-- It is upheld in all that is reached, by induction on the steps. -/
theorem Reaches.uphold {course : Course}
    (reaches : Reaches (opening settings outside storage state) course)
    (observes : ∀ operation visit,
      ObservesFrom (laws operation) .go visit operation.errand visit) :
    ∀ waiting ∈ course.waiting, Upholds (laws waiting.operation) waiting.paused := by
  induction reaches with
  | refl => exact fun waiting mem => absurd mem List.not_mem_nil
  | step before next ih => exact next.uphold observes ih

/-- Every piece in the course of a visit falls under a law that all operations observe. -/
theorem Reaches.lawful {course : Course}
    (reaches : Reaches (opening settings outside storage state) course)
    (observes : ∀ operation visit,
      ObservesFrom (laws operation) .go visit operation.errand visit)
    {number : Nat} {operation : Operation} {cue : Cue} {piece : Errand.Paused Outcome × Visit}
    (proceeds : course.Proceeds number operation cue piece) :
    laws operation cue course.visit piece :=
  (proceeds.lawful observes (reaches.uphold observes)).1

/-- What an operation waits at is where a lawful piece of it has stopped. -/
theorem Reaches.lawful_waits {course : Course}
    (reaches : Reaches (opening settings outside storage state) course)
    (observes : ∀ operation visit,
      ObservesFrom (laws operation) .go visit operation.errand visit) :
    ∀ waiting ∈ course.waiting, ∃ cue before after,
      laws waiting.operation cue before (waiting.paused, after) := by
  induction reaches with
  | refl => exact fun waiting mem => absurd mem List.not_mem_nil
  | step before next ih =>
      intro waiting mem
      cases next.progress with
      | piece proceeds resumes =>
          rcases mem_waiting_pause mem with mem | ⟨rfl, _⟩
          · exact ih waiting (resumes.mem_waiting mem)
          · exact ⟨_, _, _, before.lawful observes proceeds⟩
      | aside apart same =>
          rw [same] at mem
          exact ih waiting mem

/-! ## Stretches -/

/-- That a course goes on to another one by steps that are all allowed. -/
inductive Runs (Allowed : Course → Course → Prop) (first : Course) : Course → Prop
  | refl : Runs Allowed first first
  | step {middle last : Course} (before : Runs Allowed first middle) (next : Step middle last)
      (allowed : Allowed middle last) : Runs Allowed first last

variable {Allowed : Course → Course → Prop} {first last : Course}

/-- A run goes on by steps. -/
theorem Runs.reaches (runs : Runs Allowed first last) : Reaches first last := by
  induction runs with
  | refl => exact .refl
  | step before next allowed ih => exact .step ih next

/-- Either nothing of a kind happens on the way from a course to another one, or some step of the
way does it. -/
theorem Reaches.avoids_or_does (Does : Course → Course → Prop) (reaches : Reaches first last) :
    Runs (fun before after => ¬ Does before after) first last ∨
      ∃ before after, Reaches first before ∧ Step before after ∧ Does before after ∧
        Reaches after last := by
  induction reaches with
  | refl => exact .inl .refl
  | @step middle last before next ih =>
      rcases ih with avoids | ⟨earlier, later, reaches, does, happens, goesOn⟩
      · by_cases happens : Does middle last
        · exact .inr ⟨middle, last, before, next, happens, .refl⟩
        · exact .inl (.step avoids next happens)
      · exact .inr ⟨earlier, later, reaches, does, happens, .step goesOn next⟩

/-- What holds at first and does not in the end was given up in some step for good. -/
theorem Reaches.exists_last_turn (Holds : Course → Prop) (reaches : Reaches first last)
    (begins : Holds first) (fails : ¬ Holds last) :
    ∃ before after, Reaches first before ∧ Holds before ∧ Step before after ∧ ¬ Holds after ∧
      Runs (fun _ later => ¬ Holds later) after last := by
  induction reaches with
  | refl => exact absurd begins fails
  | @step middle last before next ih =>
      by_cases holds : Holds middle
      · exact ⟨middle, last, before, holds, next, fails, .refl⟩
      · obtain ⟨earlier, later, reaches, held, turns, failed, goesOn⟩ := ih holds
        exact ⟨earlier, later, reaches, held, turns, failed, .step goesOn next fails⟩

end Course

end VisitorLink
