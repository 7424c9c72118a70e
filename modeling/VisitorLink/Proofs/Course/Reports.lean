import VisitorLink.Proofs.Course.Alone
import VisitorLink.Proofs.Visit.Reports

/-!
# What is reported of sessions in the course of a visit

Besides the pieces of operations, the service is told of sessions by heartbeats in the background,
which `Tracker.Idles` describes.

Main statements: what idling tells (`Visit.Idles.tells`), and that it is known of each operation
that waits how far it is with the start of a session (`Reaches.poised`).
-/

namespace VisitorLink

/-! ## Idling -/

/-- What idling does to a tracker: the heartbeat is timed anew or given up, and what is told is a
heartbeat of the visitor whose heartbeat runs. -/
structure Tracker.Idles (before : Tracker) (told : List Inquiry) (after : Tracker) : Prop where
  rest : after = { before with heartbeat := after.heartbeat }
  heartbeat : ∀ heartbeat, after.heartbeat = some heartbeat →
    ∃ former, before.heartbeat = some former ∧ former.visitor = heartbeat.visitor
  told : ∀ inquiry ∈ told, ∃ heartbeat, before.heartbeat = some heartbeat ∧
    inquiry = .call (.service (.heartbeat heartbeat.visitor))

theorem Tracker.Idles.refl (tracker : Tracker) : tracker.Idles [] tracker where
  rest := rfl
  heartbeat heartbeat runs := ⟨heartbeat, runs, rfl⟩
  told := nofun

theorem Visit.Idles.tells {before after : Visit} (idles : before.Idles after) :
    ∃ told, before.tracker.Idles told after.tracker ∧ after.reports = before.reports ++ told := by
  have silent {after : Visit} (idles : before.tracker.Idles [] after.tracker)
      (journal : after.journal = before.journal) :
      ∃ told, before.tracker.Idles told after.tracker ∧ after.reports = before.reports ++ told :=
    ⟨[], idles, (reports_of_journal journal).trans (List.append_nil _).symm⟩
  have still : before.tracker.Idles [] before.tracker := .refl before.tracker
  cases idles with
  | @beat heartbeat due =>
      have runs := (Option.filter_eq_some_iff.1 due).1
      refine ⟨_, ⟨rfl, ?_, ?_⟩, before.reports_inquire rfl⟩
      · rintro _ ⟨⟩
        exact ⟨heartbeat, runs, rfl⟩
      · intro inquiry mem
        exact ⟨heartbeat, runs, List.mem_singleton.1 mem⟩
  | answerBeat number =>
      unfold answerHeartbeat
      split
      · refine silent ⟨rfl, fun heartbeat runs => ?_, nofun⟩ rfl
        obtain ⟨former, ran, rfl⟩ := Option.map_eq_some_iff.1 runs
        exact ⟨former, ran, rfl⟩
      · exact silent still rfl
  | giveUpBeat =>
      refine silent ⟨rfl, fun heartbeat runs => ?_, nofun⟩ rfl
      exact ⟨heartbeat, (Option.filter_eq_some_iff.1 runs).1, rfl⟩
  | changeOutside outside => exact silent still rfl

namespace Course

/-! ## Where operations stand -/

variable {settings : VisitSettings} {outside : Outside} {storage : Storage} {state : State}
  {course : Course}

/-- That it is known of every operation that waits how far it is with the start of a session. -/
def Poised (course : Course) : Prop :=
  ∀ waiting ∈ course.waiting, ∃ phase, waiting.operation.StandsAt phase waiting.paused

theorem Reaches.poised (reaches : Reaches (opening settings outside storage state) course) :
    course.Poised := by
  have stands {operation : Operation} {spur : Spur} {before : Visit} {told : List Inquiry}
      {phase : Phase} {piece : Errand.Paused Outcome × Visit}
      (tells : operation.Tells spur before told phase piece)
      (unfinished : ∀ outcome, piece.1 ≠ .finished outcome) :
      ∃ phase, operation.StandsAt phase piece.1 :=
    tells.stands.elim (fun ⟨outcome, ends, _⟩ => absurd ends (unfinished outcome))
      fun stands => ⟨phase, stands⟩
  let Holds (operation : Operation) (paused : Errand.Paused Outcome) : Prop :=
    (∀ outcome, paused ≠ .finished outcome) → ∃ phase, operation.StandsAt phase paused
  have persists : Operation.Persists Holds := by
    refine ⟨fun holds answer visit => ?_, fun holds visit => ?_⟩
    · obtain ⟨phase, poised⟩ := holds fun _ => nofun
      obtain ⟨told, phase', tells⟩ := Operation.tells_answer poised answer visit
      exact stands tells
    · obtain ⟨phase, poised⟩ := holds fun _ => nofun
      obtain ⟨told, phase', tells⟩ := Operation.tells_wake poised visit
      exact stands tells
  intro waiting mem
  obtain ⟨holds, unfinished⟩ := reaches.persists persists (fun operation visit => by
    obtain ⟨told, phase, tells⟩ := operation.tells_start visit
    exact stands tells) waiting mem
  exact holds unfinished

end Course

end VisitorLink
