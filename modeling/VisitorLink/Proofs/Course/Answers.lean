import VisitorLink.Proofs.Conduct.Heeding
import VisitorLink.Proofs.Course.Progress

/-!
# Answers in the course of a visit

A step of a course either sets an operation going, which takes what its cue brings and nothing else,
or it takes nothing at all. The history tells which answer came in a step.

Main statements: `Step.follows`, `Step.takes` and `Step.of_answered`.
-/

namespace VisitorLink.Course

open Errand

variable {settings : VisitSettings} {outside : Outside} {storage : Storage} {state : State}
  {before after : Course}

theorem Reaches.heeding {course : Course}
    (reaches : Reaches (opening settings outside storage state) course) {number : Nat}
    {operation : Operation} {cue : Cue} {piece : Errand.Paused Outcome × Visit}
    (proceeds : course.Proceeds number operation cue piece) : Heeding cue course.visit piece := by
  have observes (operation : Operation) (visit : Visit) :
      ObservesFrom (fun cue first piece => Heeding cue first piece) .go visit operation.errand
        visit :=
    operation.observes_heeding visit
  exact reaches.lawful observes proceeds

/-- A visit takes what the cue of a step brings and nothing else. -/
theorem Step.follows (step : Step before after)
    (reaches : Reaches (opening settings outside storage state) before) {number : Nat}
    {operation : Operation} {cue : Cue} (cues : Cues before after number operation cue) :
    before.visit.Follows cue after.visit := by
  cases step.progress with
  | piece proceeds resumes =>
      obtain ⟨rfl, rfl, rfl⟩ := cues.unique ⟨_, _, resumes, rfl⟩ reaches.numbered
      rw [pause_visit]
      exact (reaches.heeding proceeds).follows
  | aside apart same background history =>
      exact absurd cues (not_cues_of_background background history)

/-- In every step a visit takes what one cue brings and nothing else, and only what sets an
operation going brings something. -/
theorem Step.takes (step : Step before after)
    (reaches : Reaches (opening settings outside storage state) before) :
    ∃ cue, before.visit.Follows cue after.visit ∧
      (cue = .go ∨ ∃ number operation, Cues before after number operation cue) := by
  cases step.progress with
  | piece proceeds resumes =>
      refine ⟨_, ?_, .inr ⟨_, _, _, _, resumes, rfl⟩⟩
      rw [pause_visit]
      exact (reaches.heeding proceeds).follows
  | aside apart => exact ⟨.go, (Visit.follows_go _).wanders apart.wanders, .inl rfl⟩

theorem cues_answer {number : Nat} {operation : Operation} {call : Call}
    {next : call.Answer → Errand Outcome}
    (waits : ⟨number, operation, .calling call next⟩ ∈ before.waiting) (answer : call.Answer) :
    Cues before (before.answer number operation call next answer) number operation
      (.answer call answer) :=
  ⟨_, _, .answer waits answer, rfl⟩

/-- An operation that a step sets going by an answer has waited for it. -/
theorem Step.of_cues (step : Step before after)
    (reaches : Reaches (opening settings outside storage state) before) {number : Nat}
    {operation : Operation} {call : Call} {answer : call.Answer}
    (cues : Cues before after number operation (.answer call answer)) :
    ∃ next, ⟨number, operation, .calling call next⟩ ∈ before.waiting ∧
      after.visit = (run (next answer) before.visit).2 := by
  cases step.progress with
  | piece proceeds resumes =>
      obtain ⟨rfl, rfl, rfl⟩ := cues.unique ⟨_, _, resumes, rfl⟩ reaches.numbered
      cases proceeds with
      | answer waits answer => exact ⟨_, waits, pause_visit _ _ _ _⟩
  | aside apart same background history =>
      exact absurd cues (not_cues_of_background background history)

/-- An answer and what follows on it in the same step are the last two things that happened. -/
theorem Step.of_answered (step : Step before after) {number : Nat} {call : Call}
    {answer : call.Answer} {happening : Happening}
    (history : after.history = before.history ++ [.answered number call answer, happening]) :
    ∃ operation next, ⟨number, operation, .calling call next⟩ ∈ before.waiting ∧
      after = before.answer number operation call next answer ∧
      pauseNote number (run (next answer) before.visit).1 = [happening] := by
  have noted {resumed : Course} {other : Nat} {operation : Operation} {noted : Happening}
      {piece : Errand.Paused Outcome × Visit}
      (resumes : resumed.history = before.history ++ [noted])
      (same : (resumed.pause other operation piece).history =
        before.history ++ [.answered number call answer, happening]) :
      noted = .answered number call answer ∧ pauseNote other piece.1 = [happening] := by
    rw [pause_history, resumes, List.append_assoc] at same
    exact List.cons.inj (List.append_cancel_left same)
  cases step with
  | start operation => cases (noted rfl history).1
  | answer waits received =>
      obtain ⟨same, follows⟩ := noted rfl history
      cases same
      exact ⟨_, _, waits, rfl, follows⟩
  | wake waits due => cases (noted rfl history).1
  | beat due => cases List.append_cancel_left history
  | answerBeat sent => cases List.append_cancel_left history
  | giveUpBeat => cases List.append_cancel_left history
  | changeOutside later => cases List.append_cancel_left history

end VisitorLink.Course
