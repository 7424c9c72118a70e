import VisitorLink.Proofs.Visit.Effect

/-!
# The status of the connection

The status says how far the connection to the provider is, and the address and the error say what
has come of it. Two of the statuses tell of something that is under way, and only the changes that
begin it lead to them.

Main statement: after any changes in any order, a connected visit has an address, an idle one has
none, and one that could not be connected has the reason (`status_agrees_after_any_changes`).
-/

namespace VisitorLink

/-- Whether a status tells of something that is under way. -/
def ConnectionStatus.isPending : ConnectionStatus → Bool
  | .checking | .connecting => true
  | _ => false

/-- Whether a change is the beginning of something that the status tells of. -/
def Change.isBeginning : Change → Bool
  | .check | .request => true
  | _ => false

/-- That the address and the error are there if the status tells of them. -/
structure Connection.Agrees (connection : Connection) : Prop where
  connected : connection.status = .connected → connection.address.isSome = true
  idle : connection.status = .idle → connection.address = none
  failed : connection.status = .error → connection.error.isSome = true

namespace State

variable {first : State}

/-! ## What is under way -/

/-- A finished check is not under way any more. -/
theorem status_finishCheck_of_isPending {state : State}
    (pending : state.finishCheck.connection.status.isPending = true) :
    state.finishCheck.connection.status = state.connection.status ∧
      state.connection.status ≠ .checking := by
  unfold finishCheck at pending ⊢
  split at pending
  case isTrue checking =>
    dsimp only at pending
    split at pending <;> cases pending
  case isFalse other =>
    rw [if_neg other]
    exact ⟨rfl, other⟩

/-- A change that begins nothing leaves the status alone or takes it out of what is under way. -/
theorem status_apply_of_isPending {state : State} {change : Change}
    (other : change.isBeginning = false)
    (pending : (state.apply change).connection.status.isPending = true) :
    (state.apply change).connection.status = state.connection.status := by
  cases change with
  | check | request => cases other
  | finishCheck => exact (status_finishCheck_of_isPending pending).1
  | hydrate visitor =>
      have ends : (state.hydrate visitor).connection.status =
        if visitor.primaryWallet?.isSome then .connected else .idle := rfl
      change (state.hydrate visitor).connection.status.isPending = true at pending
      rw [ends] at pending
      split at pending <;> cases pending
  | connect | failConnection | disconnect | cancelLogin => cases pending
  | _ => rfl

/-! ## The data -/

theorem agrees_hydrate (state : State) (visitor : Visitor) :
    (state.hydrate visitor).connection.Agrees := by
  unfold hydrate
  cases visitor.primaryWallet? with
  | none => exact ⟨nofun, fun _ => rfl, nofun⟩
  | some wallet => exact ⟨fun _ => rfl, nofun, nofun⟩

theorem agrees_finishCheck {state : State} (agrees : state.connection.Agrees) :
    state.finishCheck.connection.Agrees := by
  unfold finishCheck
  split
  · cases connected : state.connection.address with
    | none => exact ⟨nofun, fun _ => connected, nofun⟩
    | some address => exact ⟨fun _ => by simp [connected], nofun, nofun⟩
  · exact agrees

theorem agrees_apply {state : State} (agrees : state.connection.Agrees) (change : Change) :
    (state.apply change).connection.Agrees := by
  cases change with
  | hydrate visitor => exact state.agrees_hydrate visitor
  | finishCheck => exact agrees_finishCheck agrees
  | check | request => exact ⟨nofun, nofun, nofun⟩
  | connect address => exact ⟨fun _ => rfl, nofun, nofun⟩
  | failConnection message => exact ⟨nofun, nofun, fun _ => rfl⟩
  | disconnect | cancelLogin => exact ⟨nofun, fun _ => rfl, nofun⟩
  | _ => exact ⟨agrees.connected, agrees.idle, agrees.failed⟩

theorem Opens.agrees (opens : first.Opens) : first.connection.Agrees := by
  cases opens with
  | unknown => exact ⟨nofun, fun _ => rfl, nofun⟩
  | known visitor => exact agrees_hydrate {} visitor

/-- Nothing is under way at the opening. -/
theorem Opens.not_isPending (opens : first.Opens) :
    first.connection.status.isPending = false := by
  cases opens with
  | unknown => rfl
  | known visitor =>
      have begins : (hydrated visitor).connection.status =
        if visitor.primaryWallet?.isSome then .connected else .idle := rfl
      rw [begins]
      split <;> rfl

/-- The status of a visit that opens without or with a known visitor agrees with the address and the
error after any changes in any order. -/
theorem status_agrees_after_any_changes (opens : first.Opens) (changes : List Change) :
    (changes.foldl apply first).connection.Agrees := by
  have agrees := opens.agrees
  clear opens
  induction changes generalizing first with
  | nil => exact agrees
  | cons change changes ih => exact ih (agrees_apply agrees change)

/-- A check after a failed attempt restores the status from the address, which is still there. -/
theorem status_agrees_after_failure_and_check :
    let changes : List Change :=
      [.connect "wallet", .request, .failConnection "rejected", .check, .finishCheck]
    (changes.foldl apply {}).connection.status = .connected ∧
      (changes.foldl apply {}).connection.address.isSome = true := by
  have connected : (List.foldl apply {}
    [.connect "wallet", .request, .failConnection "rejected", .check,
      .finishCheck]).connection.status = .connected := by decide
  exact ⟨connected, (status_agrees_after_any_changes .unknown _).connected connected⟩

end State

end VisitorLink
