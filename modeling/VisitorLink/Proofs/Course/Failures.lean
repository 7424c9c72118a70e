import VisitorLink.Proofs.Conduct.Operations
import VisitorLink.Proofs.Course.Progress

/-!
# Failures in the course of a visit

Whatever the others have done meanwhile, the piece with which an operation fails leaves the visit as
it has found it, apart from what tells of the failure and from what the operation takes back. No
operation fails when it is woken, so this piece follows on the start of the operation or on the
answer to its last call.

Main statement: `failed_operation_spares`.
-/

namespace VisitorLink.Course

open Errand

variable {course : Course} {number : Nat} {operation : Operation} {cue : Cue} {outcome : Outcome}
  {settings : VisitSettings} {outside : Outside} {storage : Storage} {state : State}

theorem Reaches.not_isFailure_of_sleeping
    (reaches : Reaches (opening settings outside storage state) course) {wakeUp : Nat}
    {next : Errand Outcome} (sleeps : ⟨number, operation, .sleeping wakeUp next⟩ ∈ course.waiting)
    {visit : Visit} (ends : (next.run visit).1 = .finished outcome) :
    outcome.isFailure = false := by
  obtain ⟨cue, before, after, conduct⟩ :=
    reaches.lawful_waits Operation.observes_conduct _ sleeps
  exact (conduct.woken wakeUp next rfl).ends ends

/-- An operation that ends as a failure does so when it is started or answered. -/
theorem Proceeds.not_sleeping {piece : Errand.Paused Outcome × Visit}
    (proceeds : course.Proceeds number operation cue piece)
    (reaches : Reaches (opening settings outside storage state) course)
    (ends : piece.1 = .finished outcome) (failing : outcome.isFailure = true) (wakeUp : Nat)
    (next : Errand Outcome) : ⟨number, operation, .sleeping wakeUp next⟩ ∉ course.waiting := by
  intro sleeps
  cases proceeds with
  | start =>
      have started := reaches.numbered.lt_started _ (List.mem_map_of_mem sleeps)
      exact Nat.lt_irrefl _ started
  | answer waits answer => cases reaches.numbered.eq waits sleeps rfl
  | wake waits => cases failing.symm.trans (reaches.not_isFailure_of_sleeping waits ends)

/-- An operation that fails leaves the visit intact, and changes no more than is its due, compared
with the moment when it was started or when its last call was answered. -/
theorem failed_operation_spares (reaches : Reaches (opening settings outside storage state) course)
    {after : Visit} (proceeds : course.Proceeds number operation cue (.finished outcome, after))
    (failing : outcome.isFailure = true) :
    course.visit.Intact after ∧ operation.Spares cue course.visit after ∧
      ∀ wakeUp next, ⟨number, operation, .sleeping wakeUp next⟩ ∉ course.waiting := by
  have failure : operation.Failure cue course.visit after :=
    (reaches.lawful Operation.observes_conduct proceeds).failure outcome rfl failing
  exact ⟨failure.intact, failure.spares, proceeds.not_sleeping reaches rfl failing⟩

/-- The service cannot be reached for linking a wallet, which may be tried again. -/
theorem failed_link_spares :
    ∃ (asked : Course) (after : Visit) (reason : String),
      asked.Proceeds 0 .link (.answer (.service (.connectWallet "visitor" "wallet"))
        (.error (.network "down"))) (.finished (.link (.error (.connectFailed reason))), after) ∧
      asked.visit.Intact after ∧ asked.visit.attempted = ["wallet"] ∧ after.attempted = [] := by
  let first := opening {} { random := Vector.replicate 16 0 } (.memory {} {})
    { visitor := some { id := "visitor" }, connection.address := some "wallet" }
  let asked := first.start .link
  let call : ServiceCall := .connectWallet "visitor" "wallet"
  let next : Except ApiError ConnectAnswer → Errand Outcome := fun answer =>
    .link <$> receiveDecision "visitor" "wallet" answer
  let down : Except ApiError ConnectAnswer := .error (.network "down")
  let after := ((next down).run asked.visit).2
  have waits : ⟨0, .link, .calling (.service call) next⟩ ∈ asked.waiting := .head _
  let reason : String := ApiError.userMessage (.network "down")
  have proceeds : asked.Proceeds 0 .link (.answer (.service call) down)
      (.finished (.link (.error (.connectFailed reason))), after) := .answer waits down
  obtain ⟨intact, _⟩ := failed_operation_spares (.step .refl (.start _ _)) proceeds rfl
  have tried : asked.visit.attempted = ["wallet"] := by decide +kernel
  have forgotten : after.attempted = [] := by decide +kernel
  exact ⟨asked, after, reason, proceeds, intact, tried, forgotten⟩

end VisitorLink.Course
