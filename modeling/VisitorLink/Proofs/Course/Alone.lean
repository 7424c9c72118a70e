import VisitorLink.Proofs.Course.Progress
import VisitorLink.Proofs.Course.Threads
import VisitorLink.Proofs.Visit.Silence

/-!
# Operations that are alone

Between the pieces of operations a visit idles: heartbeats are sent and answered, and the outside
changes. While one operation is alone, it is the only one that goes on, so all that happens is what
its pieces do and idling.

Main statements: what the pieces of an operation and idling do is done all along while the operation
is alone (`Runs.moves_of_alone`), and a course that is silent about a visitor stays so until the
tracker takes them up (`Runs.silent`).
-/

namespace VisitorLink

open Errand

/-! ## Idling -/

/-- What happens to a visit while no operation goes on. -/
inductive Visit.Idles (before : Visit) : Visit → Prop
  | beat {heartbeat : Heartbeat} (due : before.dueHeartbeat? = some heartbeat) :
      Idles before (before.sendHeartbeat heartbeat)
  | answerBeat (number : Nat) : Idles before (before.answerHeartbeat number)
  | giveUpBeat : Idles before before.giveUpHeartbeat
  | changeOutside (outside : Outside) : Idles before { before with outside := outside }

namespace Visit.Idles

variable {before after : Visit}

theorem apart (idles : before.Idles after) : before.Apart after := by
  cases idles with
  | answerBeat number => exact before.answerHeartbeat_apart number
  | _ => exact .of_eq rfl rfl rfl rfl rfl rfl

theorem storage (idles : before.Idles after) : after.storage = before.storage := by
  cases idles with
  | answerBeat number =>
      unfold answerHeartbeat
      split <;> rfl
  | _ => rfl

/-- Idling does not break the silence about a visitor. -/
theorem hushes (idles : before.Idles after) (id : String) : before.Hushes id after := by
  cases idles with
  | @beat heartbeat due =>
      intro silent
      have other : heartbeat.visitor ≠ id :=
        silent.heartbeat heartbeat (Option.filter_eq_some_iff.1 due).1
      have sends : before.Inquires (fun inquiry => inquiry.isAboutSession id = false)
          (before.inquire (.call (.service (.heartbeat heartbeat.visitor)))) :=
        inquires_inquire before (beq_false_of_ne other)
      refine ⟨⟨silent.visitor, ?_⟩, sends⟩
      rintro _ ⟨⟩
      exact other
  | answerBeat number =>
      unfold answerHeartbeat
      split
      · refine .of_journal (fun silent => ⟨silent.visitor, fun heartbeat beats => ?_⟩) rfl
        obtain ⟨earlier, beat, rfl⟩ := Option.map_eq_some_iff.1 beats
        exact silent.heartbeat earlier beat
      · exact .refl before
  | giveUpBeat =>
      refine .of_journal (fun silent => ⟨silent.visitor, fun heartbeat beats => ?_⟩) rfl
      exact silent.heartbeat heartbeat (Option.filter_eq_some_iff.1 beats).1
  | changeOutside outside => exact .of_journal (fun silent => silent) rfl

/-- Without a heartbeat nothing is inquired in the background. -/
theorem of_still (idles : before.Idles after) (still : before.tracker.heartbeat = none) :
    after.journal = before.journal ∧ after.tracker.heartbeat = none := by
  cases idles with
  | beat due =>
      rw [dueHeartbeat?, still] at due
      cases due
  | answerBeat number =>
      unfold answerHeartbeat
      split
      · exact ⟨rfl, congrArg (Option.map _) still⟩
      · exact ⟨rfl, still⟩
  | giveUpBeat => exact ⟨rfl, congrArg (Option.filter _) still⟩
  | changeOutside outside => exact ⟨rfl, still⟩

end Visit.Idles

theorem Operation.stillKeeps_persists {Moves : Visit → Visit → Prop} {Asks : Call → Prop}
    {Ends : Outcome → Prop} :
    Operation.Persists fun _ paused => StillKeeps Moves Asks Ends paused where
  answered keeps answer visit := (keeps answer).stillKeeps visit
  woken keeps visit := keeps.stillKeeps visit

namespace Course

variable {before after first last : Course} {number : Nat} {id : String}
  {Moves : Visit → Visit → Prop} {Asks : Call → Prop} {Ends : Outcome → Prop}

/-- In a step one operation goes on by a piece, or the visit idles. -/
theorem Step.proceeds_or_idles (step : Step before after) :
    (∃ number operation cue resumed piece, before.Proceeds number operation cue piece ∧
        Resumes before number operation cue resumed ∧
        after = resumed.pause number operation piece) ∨
      before.visit.Idles after.visit ∧ after.waiting = before.waiting := by
  cases step with
  | start operation => exact .inl ⟨_, _, _, _, _, .start operation, .start operation, rfl⟩
  | answer waits answer =>
      exact .inl ⟨_, _, _, _, _, .answer waits answer, .answer waits answer, rfl⟩
  | wake waits due => exact .inl ⟨_, _, _, _, _, .wake waits, .wake waits, rfl⟩
  | beat due => exact .inr ⟨.beat due, rfl⟩
  | answerBeat sent => exact .inr ⟨.answerBeat _, rfl⟩
  | giveUpBeat => exact .inr ⟨.giveUpBeat, rfl⟩
  | changeOutside later => exact .inr ⟨.changeOutside _, rfl⟩

/-! ## All operations that wait -/

variable {settings : VisitSettings} {outside : Outside} {storage : Storage} {state : State}
  {course : Course}

/-- What every piece of an operation keeps holds of all operations that wait, and none of them has
ended. -/
theorem Reaches.persists {Holds : Operation → Errand.Paused Outcome → Prop}
    (reaches : Reaches (opening settings outside storage state) course)
    (persists : Operation.Persists Holds)
    (begins : ∀ operation visit, Holds operation (operation.errand.run visit).1) :
    ∀ waiting ∈ course.waiting, Holds waiting.operation waiting.paused ∧
      ∀ outcome, waiting.paused ≠ .finished outcome := by
  induction reaches with
  | refl => exact fun waiting mem => absurd mem List.not_mem_nil
  | step before next ih =>
      intro waiting mem
      cases next.progress with
      | piece proceeds resumes =>
          rcases mem_waiting_pause mem with mem | ⟨rfl, unfinished⟩
          · exact ih waiting (resumes.mem_waiting mem)
          · refine ⟨?_, unfinished⟩
            cases proceeds with
            | start => exact begins _ _
            | answer waits answer => exact persists.answered (ih _ waits).1 answer _
            | wake waits => exact persists.woken (ih _ waits).1 _
      | aside apart same =>
          rw [same] at mem
          exact ih waiting mem

/-! ## One operation -/

/-- That a step sets no operation going but the given one. -/
def Alone (number : Nat) (before after : Course) : Prop :=
  ∀ other operation cue, Cues before after other operation cue → other = number

theorem Step.moves_of_alone (step : Step before after) (alone : Alone number before after)
    (idle : ∀ {first last : Visit}, first.Idles last → Moves first last)
    (thread : before.Thread number fun _ paused => StillKeeps Moves Asks Ends paused) :
    Moves before.visit after.visit := by
  rcases step.proceeds_or_idles with ⟨other, operation, cue, resumed, piece, proceeds, resumes, rfl⟩
    | ⟨idles, _⟩
  · cases alone other operation cue ⟨resumed, piece, resumes, rfl⟩
    rw [pause_visit]
    cases proceeds with
    | start => exact absurd thread.lt_started (Nat.lt_irrefl _)
    | answer waits answer => exact (thread.waits waits answer).moves before.visit
    | wake waits => exact Errand.Keeps.moves (thread.waits waits) before.visit
  · exact idle idles

/-- While one operation is alone, all that is done is what its pieces and idling do. -/
theorem Runs.moves_of_alone (runs : Runs (Alone number) first last)
    (refl : ∀ visit, Moves visit visit)
    (trans : ∀ first middle last, Moves first middle → Moves middle last → Moves first last)
    (idle : ∀ {first last : Visit}, first.Idles last → Moves first last)
    (thread : first.Thread number fun _ paused => StillKeeps Moves Asks Ends paused) :
    Moves first.visit last.visit := by
  induction runs with
  | refl => exact refl first.visit
  | step before next alone ih =>
      have thread := thread.reaches Operation.stillKeeps_persists before.reaches
      exact trans _ _ _ ih (next.moves_of_alone alone idle thread)

/-! ## Silence -/

/-- That a course is silent about a visitor: the tracker is, and so are the operations that wait,
unless they take the visitor up. -/
structure Silent (course : Course) (id : String) : Prop where
  tracker : course.visit.tracker.Silent id
  waits : ∀ waiting ∈ course.waiting, RemainsSilent id waiting.paused

theorem Silent.step (silent : before.Silent id) (step : Step before after)
    (other : after.visit.tracker.visitor ≠ some id) :
    after.Silent id ∧
      before.visit.Inquires (fun inquiry => inquiry.isAboutSession id = false) after.visit := by
  rcases step.proceeds_or_idles with
    ⟨number, operation, cue, resumed, piece, proceeds, resumes, rfl⟩ | ⟨idles, same⟩
  · rw [pause_visit] at other ⊢
    have keeps : before.visit.Hushes id piece.2 ∧ RemainsSilent id piece.1 := by
      refine Or.resolve_left ?_ other
      cases proceeds with
      | start => exact (operation.staysSilent_errand id before.visit silent.tracker).run
      | answer waits answer => exact (silent.waits _ waits answer before.visit silent.tracker).run
      | wake waits => exact SilentFrom.run (silent.waits _ waits before.visit silent.tracker)
    obtain ⟨tracker, inquires⟩ := keeps.1 silent.tracker
    refine ⟨⟨by rwa [pause_visit], fun waiting mem => ?_⟩, inquires⟩
    rcases mem_waiting_pause mem with mem | ⟨rfl, _⟩
    · exact silent.waits waiting (resumes.mem_waiting mem)
    · exact keeps.2
  · obtain ⟨tracker, inquires⟩ := idles.hushes id silent.tracker
    exact ⟨⟨tracker, same ▸ silent.waits⟩, inquires⟩

/-- Silence lasts until the tracker takes the visitor up. -/
theorem Runs.silent
    (runs : Runs (fun _ after => after.visit.tracker.visitor ≠ some id) first last)
    (silent : first.Silent id) :
    last.Silent id ∧
      first.visit.Inquires (fun inquiry => inquiry.isAboutSession id = false) last.visit := by
  induction runs with
  | refl => exact ⟨silent, Visit.inquires_of_eq rfl⟩
  | step before next other ih =>
      obtain ⟨silent', inquires⟩ := ih.1.step next other
      exact ⟨silent', ih.2.trans inquires⟩

end Course

end VisitorLink
