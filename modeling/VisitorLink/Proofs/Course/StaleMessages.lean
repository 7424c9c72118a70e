import VisitorLink.Proofs.Conduct.Messages
import VisitorLink.Proofs.Course.OneConnection

/-!
# Stale messages of failed connections

The message of a failed connection is cleared by whatever takes the status out of the failure, save
by a look at the shown address that finds none. After such a look a visit that is idle or connected
still carries the message of the earlier attempt.

Main statement: the message and the status are at odds exactly since a look in vain
(`message_strays_iff_vain_look`).
-/

namespace VisitorLink.Course

open Errand

variable {before after : Course}

/-- That a step of a course looks at the shown address in vain, with the message of a failed
connection left. -/
inductive VainLook (before : Course) : Course → Prop
  | look {number : Nat} {operation : Operation} {cue : Cue} {resumed : Course}
      {piece : Errand.Paused Outcome × Visit}
      (proceeds : before.Proceeds number operation cue piece)
      (resumes : Resumes before number operation cue resumed)
      (vain : operation.LooksInVain cue before.visit piece.1) :
      VainLook before (resumed.pause number operation piece)

/-- Every other step keeps the message and the status in agreement. -/
theorem Step.candid_or_vain (step : Step before after)
    (lawful : ∀ {number operation cue piece}, before.Proceeds number operation cue piece →
      operation.Tidies cue before.visit piece)
    (candid : before.visit.state.connection.Candid) :
    after.visit.state.connection.Candid ∨ VainLook before after := by
  cases step.progress with
  | @piece number operation cue resumed piece proceeds resumes =>
      by_cases vain : operation.LooksInVain cue before.visit piece.1
      · exact .inr (.look proceeds resumes vain)
      · rw [pause_visit]
        exact .inl ((lawful proceeds).candid vain candid)
  | aside apart waiting background history =>
      rw [apart.state]
      exact .inl candid

theorem Step.dialsClean (step : Step before after)
    (lawful : ∀ {number operation cue piece}, before.Proceeds number operation cue piece →
      operation.Tidies cue before.visit piece)
    (clean : before.visit.DialsClean) : after.visit.DialsClean := by
  cases step.progress with
  | piece proceeds resumes =>
      rw [pause_visit]
      exact (lawful proceeds).clean clean
  | aside apart waiting background history =>
      unfold Visit.DialsClean
      rw [apart.connecting, apart.state]
      exact clean

variable {settings : VisitSettings} {outside : Outside} {storage : Storage} {state : State}

/-- No message is left while a connection is being made. -/
theorem Reaches.dialsClean {course : Course}
    (reaches : Reaches (opening settings outside storage state) course) :
    course.visit.DialsClean := by
  induction reaches with
  | refl => exact nofun
  | step before next ih => exact next.dialsClean (before.lawful Operation.observes_tidies) ih

/-- What a look in vain leaves: the message of an earlier attempt, in a visit that is idle or
connected, while no connection is being made. -/
structure Strays (course : Course) : Prop where
  message : course.visit.state.connection.error.isSome = true
  settled : course.visit.state.connection.status = .idle ∨
    course.visit.state.connection.status = .connected
  free : ¬ course.IsConnecting

theorem Strays.not_candid (strays : after.Strays) : ¬ after.visit.state.connection.Candid := by
  intro candid
  have failed := candid.1 strays.message
  rcases strays.settled with settled | settled <;> cases settled.symm.trans failed

theorem VainLook.strays (looks : VainLook before after) (next : Step before after)
    (opens : state.Opens) (reaches : Reaches (opening settings outside storage state) before) :
    after.Strays := by
  have dialled := (Reaches.step reaches next).dialled opens
  cases looks with
  | @look number operation cue resumed piece proceeds resumes vain =>
      have lost := (reaches.lawful Operation.observes_tidies proceeds).strays vain
      constructor
      case message =>
        rw [pause_visit, lost.message]
        exact vain.failed
      case settled =>
        rw [pause_visit]
        exact lost.settled
      case free =>
        intro connecting
        have busy := dialled.busy_iff.2 connecting
        rw [pause_visit, lost.connecting] at busy
        have failed := vain.failed
        rw [reaches.dialsClean busy] at failed
        cases failed

/-- The message of a failed connection and the status are at odds only since a look at the shown
address that found none, and after every such look with a message left they are, while no connection
is being made: the visit is idle or connected and still carries the message. -/
theorem message_strays_iff_vain_look {first : Course}
    (begins : first = opening settings outside storage state) (opens : state.Opens) :
    (∀ course, Reaches first course → ¬ course.visit.state.connection.Candid →
      ∃ before after, Reaches first before ∧ before.visit.state.connection.Candid ∧
        Step before after ∧ VainLook before after ∧
        Runs (fun _ later => ¬ later.visit.state.connection.Candid) after course) ∧
    ∀ before after, Reaches first before → Step before after → VainLook before after →
      ¬ after.visit.state.connection.Candid ∧ after.Strays := by
  subst begins
  constructor
  · intro course reaches strays
    obtain ⟨before, after, earlier, candid, next, strays', later⟩ :=
      reaches.exists_last_turn (·.visit.state.connection.Candid) opens.candid strays
    rcases next.candid_or_vain (earlier.lawful Operation.observes_tidies) candid with still | vain
    · exact absurd still strays'
    · exact ⟨before, after, earlier, candid, next, vain, later⟩
  · intro before after reaches next vain
    have strays := vain.strays next opens reaches
    exact ⟨strays.not_candid, strays⟩

/-- The provider is not there, and a look after the failed attempt does not find it either. -/
theorem message_is_left_by_vain_look :
    ∃ (first course : Course),
      first = opening {} { providerPresent := false, random := Vector.replicate 16 0 }
        (.memory {} {}) ∧
      Reaches first course ∧ course.Strays ∧
      course.visit.state.connection.error = some ConnectionError.providerNotDetected.message ∧
      course.visit.state.connection.status = .idle := by
  let first := opening {} { providerPresent := false, random := Vector.replicate 16 0 }
    (.memory {} {})
  have failed : Reaches first (first.start .connect) := .step .refl (.start _ .connect)
  have vain : VainLook (first.start .connect) ((first.start .connect).start .checkShown) := by
    refine .look (.start .checkShown) (.start .checkShown) ⟨.check _, by decide +kernel, ?_⟩
    intro address shows
    cases shows.present
  have strays := ((message_strays_iff_vain_look rfl .unknown).2 _ _ failed (.start _ _) vain).2
  exact ⟨first, _, rfl, failed.step (.start _ .checkShown), strays, by decide +kernel,
    by decide +kernel⟩

end VisitorLink.Course
