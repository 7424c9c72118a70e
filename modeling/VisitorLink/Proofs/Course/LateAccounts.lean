import VisitorLink.Proofs.Course.Moves

/-!
# Late answers about the account

A wallet is removed or marked as primary, and a visitor logged in or out, on behalf of the visitor
that is present when the service is asked. When the service accepts, another visitor may be present.

Main statement: what comes too late is dropped, except that a log-out still drops the connection,
the addresses tried and, on leaving, the heartbeat (`late_account_answer`).
-/

namespace VisitorLink

open Errand

namespace ServiceCall

/-- Whether a call logs the visitor out. -/
def isLogOut : ServiceCall → Bool
  | .logOut _ => true
  | _ => false

/-- Whether a call is about the account of the visitor. -/
def isAccount : ServiceCall → Bool
  | .unlinkWallet _ _ _ | .setPrimaryWallet _ _ | .logIn _ | .logOut _ => true
  | _ => false

end ServiceCall

/-- The visit without the connection, the addresses tried and, on leaving, the heartbeat. -/
def Visit.afterLateLogOut (visit : Visit) (leaves : Bool) : Visit :=
  { visit.apply .disconnect with
    attempted := []
    tracker.heartbeat := if leaves then none else visit.tracker.heartbeat }

namespace Operation

variable {operation : Operation} {visit : Visit} {id : String}

/-! ## What is dropped -/

theorem run_receiveUnlinked_late (late : visit.state.visitorId? ≠ some id) (address : String)
    (visitor : Visitor) :
    run (receiveUnlinked id address (.ok visitor)) visit = (.finished (.ok ()), visit) := by
  unfold receiveUnlinked
  rw [run_isVisitor_bind, beq_false_of_ne late]
  rfl

theorem run_receivePrimary_late (late : visit.state.visitorId? ≠ some id) (visitor : Visitor) :
    run (receivePrimary id (.ok visitor)) visit = (.finished (.ok ()), visit) := by
  unfold receivePrimary
  rw [run_isVisitor_bind, beq_false_of_ne late]
  rfl

theorem run_receiveLogIn_late (late : visit.state.visitorId? ≠ some id) (visitor : Visitor) :
    run (receiveLogIn id (.ok visitor)) visit = (.finished (.ok ()), visit) := by
  rw [run_receiveLogIn_ok, if_neg late]

/-- A log-out drops the connection whether or not it comes in time. -/
theorem run_receiveLogOut_late (late : visit.state.visitorId? ≠ some id) (visitor : Visitor) :
    run (receiveLogOut id (.ok visitor)) visit =
      (.finished (.ok ()), { visit.apply .disconnect with attempted := [] }) := by
  rw [run_receiveLogOut_ok, if_neg late]

/-- What an operation on the account does when the service accepts it too late. -/
theorem WaitsAt.run_late {stage : Stage} {call : ServiceCall}
    {next : Except ApiError call.Value → Errand Outcome}
    (waits : operation.WaitsAt stage (.calling (.service call) next))
    (account : call.isAccount = true) (late : visit.state.visitorId? ≠ some call.visitor)
    (value : call.Value) :
    ((next (.ok value)).run visit).2 =
      if call.isLogOut then visit.afterLateLogOut (operation = .leave) else visit := by
  cases waits with
  | remove id address request =>
      exact congrArg Prod.snd (run_bind_of_finished (run_receiveUnlinked_late late address value) _)
  | setPrimary id address =>
      exact congrArg Prod.snd (run_bind_of_finished (run_receivePrimary_late late value) _)
  | logIn id =>
      exact congrArg Prod.snd (run_bind_of_finished (run_receiveLogIn_late late value) _)
  | logOut id =>
      exact congrArg Prod.snd (run_bind_of_finished (run_receiveLogOut_late late value) _)
  | leave id =>
      exact congrArg Prod.snd (run_bind_of_finished (run_receiveLogOut_late late value) _)
  | track session =>
      have other : (Call.service call).isSession = false := by
        cases call <;> first | rfl | cases account
      cases other.symm.trans session
  | _ => cases account

end Operation

namespace Course

variable {settings : VisitSettings} {outside : Outside} {storage : Storage} {state : State}

/-- What the service accepts about the account of a visitor that is not present any more has no
effect on the visit, unless it is a log-out. So it spares the state, the addresses tried and the
heartbeat if and only if it is no log-out or there is nothing for a log-out to drop. -/
theorem late_account_answer {course : Course} {number : Nat} {operation : Operation}
    {call : ServiceCall} {next : Except ApiError call.Value → Errand Outcome}
    (reaches : Reaches (opening settings outside storage state) course)
    (waits : ⟨number, operation, .calling (.service call) next⟩ ∈ course.waiting)
    (account : call.isAccount = true)
    (late : course.visit.state.visitorId? ≠ some call.visitor) (value : call.Value)
    {after : Course}
    (accepted : after = course.answer number operation (.service call) next (.ok value)) :
    (after.visit = if call.isLogOut then course.visit.afterLateLogOut (operation = .leave)
      else course.visit) ∧
    ((after.visit.state = course.visit.state ∧ after.visit.attempted = course.visit.attempted ∧
        after.visit.tracker.heartbeat = course.visit.tracker.heartbeat) ↔
      (call.isLogOut = true →
        course.visit.state.connection = course.visit.state.connection.reset ∧
        course.visit.attempted = [] ∧
        (operation = .leave → course.visit.tracker.heartbeat = none))) := by
  subst accepted
  obtain ⟨stage, stands⟩ := reaches.staged _ waits
  have drops := (course.answer_visit number operation (.service call) next (.ok value)).trans
    (stands.run_late account late value)
  refine ⟨drops, ?_⟩
  rw [drops]
  cases logsOut : call.isLogOut with
  | false => exact ⟨fun _ => nofun, fun _ => ⟨rfl, rfl, rfl⟩⟩
  | true =>
      rw [if_pos rfl]
      constructor
      · rintro ⟨kept, forgotten, heartbeat⟩ _
        refine ⟨(congrArg State.connection kept).symm, forgotten.symm, fun leaves => ?_⟩
        rw [← heartbeat, leaves]
        rfl
      · intro nothing
        obtain ⟨connection, attempted, heartbeat⟩ := nothing rfl
        refine ⟨?_, attempted.symm, ?_⟩
        · exact congrArg (State.mk course.visit.state.visitor) connection.symm
        · change (if decide (operation = .leave) = true then none else _) = _
          split
          case isTrue leaves => exact (heartbeat (of_decide_eq_true leaves)).symm
          case isFalse => rfl

namespace LateLeave

def begun : Course :=
  opening {} { random := Vector.replicate 16 0, providerAddress := some "TA" } (.memory {} {})
    (State.hydrated { id := "visitor" })

/-- A wallet is connected, and the visitor logs in and leaves before the service has answered. -/
def leaving : Course :=
  ((begun.start .checkShown).start .logIn).start .leave

def leave (answer : Except ApiError Visitor) : Errand Outcome :=
  .account <$> (receiveLogOut "visitor" answer >>= followLogOut)

/-- The log-in takes effect as another visitor, whose session starts. -/
theorem exists_logged_in_as_other :
    ∃ course, Reaches begun course ∧
      ⟨2, .leave, .calling (.service (.logOut "visitor")) leave⟩ ∈ course.waiting ∧
      course.visit.state.visitorId? = some "other" ∧ course.visit.state.address? = some "TA" ∧
      course.visit.tracker.heartbeat.map Heartbeat.visitor = some "other" := by
  have logsIn : ⟨1, .logIn, .calling (.service (.logIn "visitor"))
      fun answer => .account <$> receiveLogIn "visitor" answer⟩ ∈ leaving.waiting :=
    .head _
  let other := leaving.answer 1 .logIn (.service (.logIn "visitor"))
    (fun answer => .account <$> receiveLogIn "visitor" answer) (.ok { id := "other" })
  have starts : ⟨3, .startSession {}, .calling (.service (.startSession "other" _)) _⟩ ∈
      (other.start (.startSession {})).waiting :=
    .tail _ (.head _)
  have reaches : Reaches begun leaving :=
    .step (.step (.step .refl (.start _ _)) (.start _ _)) (.start _ _)
  exact ⟨_, .step (.step (.step reaches (.answer logsIn _)) (.start _ _)) (.answer starts (.ok {})),
    .head _, rfl, by decide +kernel, rfl⟩

/-- The connection and the heartbeat that the late log-out drops are those of the other visitor. -/
theorem other_loses_connection :
    ∃ course, Reaches begun course ∧
      ⟨2, .leave, .calling (.service (.logOut "visitor")) leave⟩ ∈ course.waiting ∧
      course.visit.state.visitorId? = some "other" ∧ course.visit.state.address? = some "TA" ∧
      course.visit.tracker.heartbeat.map Heartbeat.visitor = some "other" ∧
      (course.answer 2 .leave (.service (.logOut "visitor")) leave
        (.ok { id := "visitor" })).visit.state.address? = none ∧
      (course.answer 2 .leave (.service (.logOut "visitor")) leave
        (.ok { id := "visitor" })).visit.tracker.heartbeat = none := by
  obtain ⟨course, reaches, waits, other, connected, beats⟩ := exists_logged_in_as_other
  have late : course.visit.state.visitorId? ≠ some "visitor" := by
    rw [other]
    decide
  obtain ⟨drops, _⟩ := late_account_answer reaches waits rfl late { id := "visitor" } rfl
  exact ⟨course, reaches, waits, other, connected, beats,
    congrArg (·.state.address?) drops, congrArg (·.tracker.heartbeat) drops⟩

end LateLeave

end Course

end VisitorLink
