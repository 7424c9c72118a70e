import VisitorLink.Proofs.Course.Moves

/-!
# Log-ins that are waited for

The service may answer a request to link the connected wallet by asking for a log-in as the wallet's
owner. The log-in is pending for that wallet, so it goes with the connection: no other wallet takes
it over, however late the answer comes.

Main statement: a pending log-in is about the connected wallet of a known visitor, and it has ended
once the connection is given up, the visitor is logged out or another wallet is connected
(`pendingLogin_belongs_to_connected_wallet`).
-/

namespace VisitorLink

open Errand

/-- The phase tells whether a log-in is pending, and as whom. -/
theorem Connection.phase_eq_loginRequired_iff (connection : Connection) (owner : String) :
    connection.phase = .loginRequired owner ↔
      ∃ address, connection.pendingLogin = some ⟨address, owner⟩ := by
  unfold Connection.phase
  cases connection.pendingLogin with
  | none =>
      cases connection.address with
      | none => simp
      | some address => cases connection.verified <;> simp
  | some pending =>
      obtain ⟨address, other⟩ := pending
      simp

namespace State

/-- That whatever log-in is pending in the end was pending before, at the same address. -/
structure Awaits (before after : State) : Prop where
  pendingLogin : ∀ pending, after.connection.pendingLogin = some pending →
    before.connection.pendingLogin = some pending ∧ after.address? = before.address?
  visitor : before.visitor.isSome = true → after.visitor.isSome = true

theorem Awaits.refl (state : State) : state.Awaits state where
  pendingLogin _ pending := ⟨pending, rfl⟩
  visitor := id

/-- A log-in that was pending all along was pending before. -/
theorem Awaits.trans {first middle last : State} (before : first.Awaits middle)
    (after : middle.Awaits last) : first.Awaits last where
  pendingLogin pending awaited := by
    obtain ⟨awaited', same⟩ := after.pendingLogin pending awaited
    obtain ⟨awaited'', same'⟩ := before.pendingLogin pending awaited'
    exact ⟨awaited'', same.trans same'⟩
  visitor known := after.visitor (before.visitor known)

/-- A state with the same log-in pending at the same address. -/
theorem awaits_of_eq {before after : State} (visitor : after.visitor = before.visitor)
    (address : after.address? = before.address?)
    (pendingLogin : after.connection.pendingLogin = before.connection.pendingLogin) :
    before.Awaits after where
  pendingLogin _ awaited := ⟨pendingLogin ▸ awaited, address⟩
  visitor known := visitor ▸ known

/-- Without a pending log-in in the end, none needs to have been pending. -/
theorem awaits_of_none {before after : State} (none : after.connection.pendingLogin = none)
    (visitor : before.visitor.isSome = true → after.visitor.isSome = true) :
    before.Awaits after where
  pendingLogin _ awaited := nomatch none.symm.trans awaited
  visitor := visitor

/-- Connecting another address drops the pending log-in. -/
theorem connect_pendingLogin (state : State) (address : String) :
    (state.connect address).connection.pendingLogin =
      if state.connection.address = some address then state.connection.pendingLogin else none := by
  unfold connect
  dsimp only
  split <;> rfl

/-- Connecting makes no log-in pending. -/
theorem awaits_connect (state : State) (address : String) :
    state.Awaits (state.connect address) := by
  have kept := state.connect_pendingLogin address
  split at kept
  case isTrue same => exact awaits_of_eq rfl same.symm kept
  case isFalse => exact awaits_of_none kept id

/-- The end of a look at the shown address leaves the pending log-in. -/
theorem awaits_finishCheck (state : State) : state.Awaits state.finishCheck := by
  unfold finishCheck
  split
  · exact awaits_of_eq rfl rfl rfl
  · exact .refl state

/-- A quiet change opens no log-in, and it keeps one at its address only. -/
theorem awaits_of_quiet (state : State) {change : Change} (quiet : change.isQuiet = true) :
    state.Awaits (state.apply change) := by
  cases change with
  | load visitor => exact ⟨fun _ awaited => ⟨awaited, rfl⟩, fun _ => rfl⟩
  | connect address => exact state.awaits_connect address
  | finishCheck => exact state.awaits_finishCheck
  | disconnect | cancelLogin => exact awaits_of_none rfl id
  | detect | check | request | failConnection | failLink | failVerification =>
      exact awaits_of_eq rfl rfl rfl
  | hydrate | link | requireLogin | startVerification | verify | logIn | logOut => cases quiet

/-- Quiet changes make no log-in pending. -/
theorem Drifts.awaits {first last : State} (drifts : first.Drifts last) : first.Awaits last := by
  induction drifts with
  | refl => exact .refl first
  | change _ change quiet ih => exact ih.trans (awaits_of_quiet _ quiet)

/-- A log-in becomes pending at the present address only. -/
theorem Effect.awaits {cue : Cue} {before after : State} (effect : Effect cue before after) :
    before.Awaits after ∨ ∃ id address owner, before.isCurrent id address = true ∧
      after = before.apply (.requireLogin address owner) := by
  cases effect with
  | quiet drifts => exact .inl drifts.awaits
  | required current => exact .inr ⟨_, _, _, current, rfl⟩
  | @linked _ _ _ _ visitor =>
      refine .inl (awaits_of_none rfl fun known => ?_)
      change (visitor.or before.visitor).isSome = true
      rw [Option.isSome_or, known, Bool.or_true]
  | proved | loggedOut => exact .inl (awaits_of_none rfl fun _ => rfl)
  | loggedIn => exact .inl ⟨fun _ awaited => ⟨awaited, rfl⟩, fun _ => rfl⟩

/-! ## The wallet of a pending log-in -/

/-- That a pending log-in is about the connected wallet of a known visitor. -/
def PendsAtWallet (state : State) : Prop :=
  ∀ pending, state.connection.pendingLogin = some pending →
    state.visitor.isSome = true ∧ state.address? = some pending.address

/-- A log-in that is still pending is still about the connected wallet. -/
theorem Awaits.pendsAtWallet {before after : State} (awaits : before.Awaits after)
    (pends : before.PendsAtWallet) : after.PendsAtWallet := by
  intro pending awaited
  obtain ⟨awaited', same⟩ := awaits.pendingLogin pending awaited
  obtain ⟨known, connected⟩ := pends pending awaited'
  exact ⟨awaits.visitor known, same.trans connected⟩

/-- A log-in becomes pending at the connected wallet. -/
theorem pendsAtWallet_requireLogin {state : State} {id address : String}
    (current : state.isCurrent id address = true) (owner : String) :
    (state.apply (.requireLogin address owner)).PendsAtWallet := by
  rintro _ ⟨⟩
  obtain ⟨loaded, connected⟩ := isCurrent_iff.1 current
  refine ⟨?_, connected⟩
  change state.visitor.isSome = true
  rw [← Option.isSome_map (f := Visitor.id), ← visitorId?, loaded]
  rfl

end State

namespace Operation

/-- A turn keeps a pending log-in at its address, or makes one pending at the present address and
nothing else. -/
theorem Turn.awaits {operation : Operation} {cue : Cue} {before : Visit}
    {piece : Errand.Paused Outcome × Visit} (turn : operation.Turn cue before piece) :
    before.state.Awaits piece.2.state ∨ ∃ id address owner,
      before.state.isCurrent id address = true ∧
      piece.2.state = before.state.apply (.requireLogin address owner) := by
  cases turn with
  | rest effect rests => exact effect.awaits
  | prompt current idle waits starts =>
      rw [starts]
      exact .inl (State.awaits_of_eq rfl rfl rfl)
  | submit waits => exact .inl (.refl before.state)
  | remove waits => exact .inl (.refl before.state)

/-- A log-out that the service accepts leaves no log-in pending, whoever the visitor is by then. -/
theorem WaitsAt.run_logOut {operation : Operation} {stage : Stage} {id : String}
    {next : Except ApiError Visitor → Errand Outcome}
    (waits : operation.WaitsAt stage (.calling (.service (.logOut id)) next)) (visitor : Visitor)
    (visit : Visit) :
    ∃ outcome after, run (next (.ok visitor)) visit = (.finished outcome, after) ∧
      after.state.connection.pendingLogin = none := by
  have runs := run_receiveLogOut_ok id visitor visit
  cases waits with
  | logOut => exact ⟨_, _, run_bind_of_finished runs _, rfl⟩
  | leave => exact ⟨_, _, run_bind_of_finished runs _, rfl⟩
  | track session => cases session

end Operation

namespace Course

variable {before after : Course} {settings : VisitSettings} {outside : Outside} {storage : Storage}
  {state : State}

/-- A move makes a log-in pending only by a decision in time. -/
theorem Moves.awaits (moves : Moves before after) :
    before.visit.state.Awaits after.visit.state ∨ ∃ id address owner,
      before.visit.state.isCurrent id address = true ∧
      after.visit.state = before.visit.state.apply (.requireLogin address owner) := by
  cases moves with
  | turn resumes turn =>
      rw [pause_visit]
      exact turn.awaits
  | aside same =>
      rw [same]
      exact .inl (.refl before.visit.state)

/-- Whatever is pending is about the connected wallet, by induction on the steps. -/
theorem Reaches.pendsAtWallet {course : Course} (opens : state.Opens)
    (reaches : Reaches (opening settings outside storage state) course) :
    course.visit.state.PendsAtWallet := by
  induction reaches with
  | refl => cases opens <;> exact fun _ awaited => nomatch awaited
  | step before next ih =>
      rcases (next.moves before.staged).awaits with awaits | ⟨id, address, owner, current, same⟩
      · exact awaits.pendsAtWallet ih
      · rw [same]
        exact State.pendsAtWallet_requireLogin current owner

/-- That a step gives up the connection, or puts another wallet in its place. -/
inductive Parts (before : Course) : Course → Prop
  | cancelled : Parts before (before.start .cancelLogin)
  | disconnected : Parts before (before.start .disconnect)
  | dropped : Parts before (before.start .dropConnection)
  | loggedOut {number : Nat} {operation : Operation} {id : String}
      {next : Except ApiError Visitor → Errand Outcome}
      (waits : ⟨number, operation, .calling (.service (.logOut id)) next⟩ ∈ before.waiting)
      (visitor : Visitor) :
      Parts before (before.answer number operation (.service (.logOut id)) next (.ok visitor))
  | moved {after : Course} (step : Step before after)
      (other : after.visit.state.address? ≠ before.visit.state.address?) : Parts before after

/-- Giving up the connection drops the pending log-in. -/
theorem Parts.pendingLogin (parts : Parts before after) (staged : before.Staged) :
    after.visit.state.connection.pendingLogin = none := by
  cases parts with
  | cancelled => rfl
  | disconnected => rfl
  | dropped => rfl
  | loggedOut waits visitor =>
      obtain ⟨stage, stands⟩ := staged _ waits
      obtain ⟨outcome, later, stops, ended⟩ := stands.run_logOut visitor before.visit
      unfold Course.answer
      rw [pause_visit]
      exact (congrArg (fun piece => piece.2.state.connection.pendingLogin) stops).trans ended
  | moved step other =>
      rcases (step.moves staged).awaits with awaits | ⟨_, _, _, _, same⟩
      · refine Option.eq_none_iff_forall_ne_some.2 fun pending awaited => ?_
        exact other (awaits.pendingLogin pending awaited).2
      · exact absurd (congrArg State.address? same) other

/-- Whenever a log-in is pending, a visitor is known and the wallet that it is about is the connected
one; so the phase asks for a log-in only while that wallet is connected. It is not pending any more
after a step that cancels it, disconnects, logs out or connects another wallet. -/
theorem pendingLogin_belongs_to_connected_wallet {first course : Course}
    (begins : first = opening settings outside storage state) (opens : state.Opens)
    (reaches : Reaches first course) :
    (∀ pending, course.visit.state.connection.pendingLogin = some pending →
      course.visit.state.visitor.isSome = true ∧
      course.visit.state.address? = some pending.address) ∧
    (∀ owner, course.visit.state.connection.phase = .loginRequired owner →
      ∃ address, course.visit.state.connection.pendingLogin = some ⟨address, owner⟩ ∧
        course.visit.state.address? = some address) ∧
    ∀ after, Parts course after → after.visit.state.connection.pendingLogin = none ∧
      ∀ owner, after.visit.state.connection.phase ≠ .loginRequired owner := by
  subst begins
  have pends := reaches.pendsAtWallet opens
  refine ⟨pends, fun owner required => ?_, fun after parts => ?_⟩
  · obtain ⟨address, awaited⟩ := (Connection.phase_eq_loginRequired_iff _ owner).1 required
    exact ⟨address, awaited, (pends _ awaited).2⟩
  · have ended := parts.pendingLogin reaches.staged
    refine ⟨ended, fun owner required => ?_⟩
    obtain ⟨address, awaited⟩ := (Connection.phase_eq_loginRequired_iff _ owner).1 required
    cases ended.symm.trans awaited

/-- The service asks for a log-in as the owner of the connected wallet, and the visitor cancels. -/
theorem login_is_pending_until_cancelled :
    ∃ course : Course,
      course.visit.state.connection.pendingLogin = some ⟨"TAddr1", "owner"⟩ ∧
      course.visit.state.address? = some "TAddr1" ∧
      (course.start .cancelLogin).visit.state.connection.pendingLogin = none := by
  let first := opening {} { providerAddress := some "TAddr1", random := Vector.replicate 16 0 }
    (.memory {} {}) (State.hydrated { id := "visitor" })
  let asked := (first.start .checkShown).start .link
  let next : Except ApiError ConnectAnswer → Errand Outcome := fun answer =>
    .link <$> receiveDecision "visitor" "TAddr1" answer
  have waits : ⟨1, .link, .calling (.service (.connectWallet "visitor" "TAddr1")) next⟩ ∈
    asked.waiting := List.mem_singleton.2 rfl
  let course := asked.answer 1 .link (.service (.connectWallet "visitor" "TAddr1")) next
    (.ok { success := false, loginRequired := true, owner := some "owner" })
  have reaches : Reaches first course :=
    .step (.step (.step .refl (.start _ _)) (.start _ _)) (.answer waits _)
  have belongs := pendingLogin_belongs_to_connected_wallet rfl (.known _) reaches
  have awaited : course.visit.state.connection.pendingLogin = some ⟨"TAddr1", "owner"⟩ := rfl
  exact ⟨course, awaited, (belongs.1 _ awaited).2, (belongs.2.2 _ .cancelled).1⟩

end Course

end VisitorLink
