import VisitorLink.Visit.Linking

/-!
# What an operation does to the state

Between two waits an operation may change the state of the visit several times. Most changes are
quiet. The others follow on an answer of the service about the visitor's wallet or log-in.
`State.Effect` tells them apart by what set the operation going, together with the guards under
which the operation applies them.
-/

namespace VisitorLink

/-- What sets an operation going: its start or the end of a sleep, or the answer to its call. -/
inductive Cue
  | go
  | answer (call : Call) (answer : call.Answer)

/-- Whether a change neither puts a record in place that came with a decision, a proof, a log-in or
a log-out, nor opens a prompt or a pending log-in. -/
def Change.isQuiet : Change → Bool
  | .hydrate _ | .link _ | .requireLogin _ _ | .startVerification | .verify _ | .logIn _
  | .logOut _ => false
  | _ => true

namespace State

/-- That a state becomes another one by quiet changes. -/
inductive Drifts (first : State) : State → Prop
  | refl : Drifts first first
  | change {middle : State} (before : Drifts first middle) (change : Change)
      (quiet : change.isQuiet = true) : Drifts first (middle.apply change)

theorem Drifts.of_change (state : State) (change : Change) (quiet : change.isQuiet = true) :
    state.Drifts (state.apply change) :=
  .change .refl change quiet

theorem Drifts.of_eq {first last : State} (same : last = first) : first.Drifts last :=
  same ▸ .refl

theorem Drifts.trans {first middle last : State} (before : first.Drifts middle)
    (after : middle.Drifts last) : first.Drifts last := by
  induction after with
  | refl => exact before
  | change _ change quiet ih => exact .change ih change quiet

/-- What one quiet change preserves is preserved by any number of them. -/
theorem Drifts.preserves {Holds : State → Prop} {first last : State} (drifts : first.Drifts last)
    (kept : ∀ state change, change.isQuiet = true → Holds state → Holds (state.apply change))
    (holds : Holds first) : Holds last := by
  induction drifts with
  | refl => exact holds
  | change _ change quiet ih => exact kept _ change quiet ih

/-- What a piece of an operation does to the state of the visit, if it opens no prompt. -/
inductive Effect : Cue → State → State → Prop
  | quiet {cue : Cue} {before after : State} (drifts : before.Drifts after) :
      Effect cue before after
  | required {before : State} {id address owner : String}
      {answer : Except ApiError ConnectAnswer} (current : before.isCurrent id address = true)
      (decided : LinkDecision.ofAnswer answer = .loginRequired owner) :
      Effect (.answer (.service (.connectWallet id address)) answer) before
        (before.apply (.requireLogin address owner))
  | linked {before : State} {id address : String} {answer : Except ApiError ConnectAnswer}
      {visitor : Option Visitor} (current : before.isCurrent id address = true)
      (decided : LinkDecision.ofAnswer answer = .linked visitor) :
      Effect (.answer (.service (.connectWallet id address)) answer) before
        (before.apply (.link visitor))
  | proved {before : State} {id : String} {request : LinkRequest} {answer : LinkAnswer}
      (current : before.isCurrent id request.address = true) :
      Effect (.answer (.service (.linkWallet id request)) (.ok answer)) before
        (before.apply (.verify answer.visitor))
  | loggedIn {before : State} {id : String} {visitor : Visitor}
      (current : before.visitorId? = some id) :
      Effect (.answer (.service (.logIn id)) (.ok visitor)) before (before.apply (.logIn visitor))
  | loggedOut {before : State} {id : String} {visitor : Visitor}
      (current : before.visitorId? = some id) :
      Effect (.answer (.service (.logOut id)) (.ok visitor)) before
        ((before.apply (.logOut visitor)).apply .disconnect)

theorem Effect.same {cue : Cue} {before after : State} (same : after = before) :
    Effect cue before after :=
  .quiet (.of_eq same)

/-! ## Opening states -/

/-- The states that a visit opens with. -/
inductive Opens : State → Prop
  | unknown : Opens {}
  | known (visitor : Visitor) : Opens (hydrated visitor)

/-- No verification is under way at the opening. -/
theorem Opens.idle {state : State} (opens : state.Opens) : state.connection.verifying = false := by
  cases opens <;> rfl

/-! ## The identity and the address -/

theorem isCurrent_iff {state : State} {id address : String} :
    state.isCurrent id address = true ↔
      state.visitorId? = some id ∧ state.address? = some address := by
  simp only [isCurrent, Bool.and_eq_true, beq_iff_eq]

/-- There is one present visitor and one present address at most. -/
theorem eq_of_isCurrent {state : State} {id id' address address' : String}
    (current : state.isCurrent id address = true) (current' : state.isCurrent id' address' = true) :
    id = id' ∧ address = address' := by
  obtain ⟨loaded, connected⟩ := isCurrent_iff.1 current
  obtain ⟨loaded', connected'⟩ := isCurrent_iff.1 current'
  exact ⟨Option.some.inj (loaded.symm.trans loaded'),
    Option.some.inj (connected.symm.trans connected')⟩

/-! ## Quiet changes -/

/-- What a finished check leaves alone. -/
theorem finishCheck_keeps (state : State) :
    state.finishCheck.visitor = state.visitor ∧
      state.finishCheck.connection.address = state.connection.address ∧
      state.finishCheck.connection.verified = state.connection.verified ∧
      state.finishCheck.connection.verifying = state.connection.verifying := by
  unfold finishCheck
  split <;> exact ⟨rfl, rfl, rfl, rfl⟩

theorem connect_verifying (state : State) (address : String) :
    (state.connect address).connection.verifying =
      (decide (state.connection.address = some address) && state.connection.verifying) := by
  unfold connect
  dsimp only
  split <;> simp only [*, decide_true, decide_false, Bool.true_and, Bool.false_and]

/-- A quiet change keeps a verification under way for the same visitor and address only. -/
theorem verifying_of_quiet {state : State} {change : Change} (quiet : change.isQuiet = true)
    (verifying : (state.apply change).connection.verifying = true) :
    state.connection.verifying = true ∧ ∀ id address, state.isCurrent id address = true →
      (state.apply change).isCurrent id address = true := by
  cases change with
  | load visitor =>
      have kept : (state.connection.verifying &&
          !state.visitor.any fun other => other.id != visitor.id) = true := verifying
      rw [Bool.and_eq_true] at kept
      refine ⟨kept.1, fun id address current => ?_⟩
      obtain ⟨loaded, connected⟩ := isCurrent_iff.1 current
      refine isCurrent_iff.2 ⟨?_, connected⟩
      cases known : state.visitor with
      | none => simp [visitorId?, known] at loaded
      | some other =>
          have same : other.id = visitor.id := by simpa [known] using kept.2
          simp only [visitorId?, known, Option.map_some] at loaded
          exact congrArg some (same ▸ Option.some.inj loaded)
  | finishCheck =>
      obtain ⟨visitor, address, _, same⟩ := state.finishCheck_keeps
      refine ⟨same ▸ verifying, fun id wallet current => ?_⟩
      obtain ⟨loaded, connected⟩ := isCurrent_iff.1 current
      exact isCurrent_iff.2 ⟨(congrArg (Option.map Visitor.id) visitor).trans loaded,
        address.trans connected⟩
  | connect address =>
      have kept := (state.connect_verifying address).symm.trans verifying
      rw [Bool.and_eq_true, decide_eq_true_eq] at kept
      refine ⟨kept.2, fun id wallet current => ?_⟩
      obtain ⟨loaded, connected⟩ := isCurrent_iff.1 current
      exact isCurrent_iff.2 ⟨loaded, kept.1.symm.trans connected⟩
  | detect | check | request | failConnection | failLink =>
      exact ⟨verifying, fun _ _ current => current⟩
  | disconnect | cancelLogin | failVerification => cases verifying
  | hydrate | link | requireLogin | startVerification | verify | logIn | logOut => cases quiet

theorem Drifts.verifying {first last : State} (drifts : first.Drifts last)
    (verifying : last.connection.verifying = true) :
    first.connection.verifying = true ∧ ∀ id address, first.isCurrent id address = true →
      last.isCurrent id address = true := by
  induction drifts with
  | refl => exact ⟨verifying, fun _ _ current => current⟩
  | change before change quiet ih =>
      obtain ⟨underWay, kept⟩ := verifying_of_quiet quiet verifying
      obtain ⟨underWay', kept'⟩ := ih underWay
      exact ⟨underWay', fun id address current => kept id address (kept' id address current)⟩

end State

end VisitorLink
