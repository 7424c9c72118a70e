import VisitorLink.Proofs.Course.Moves
import VisitorLink.Proofs.Visitor.PrimaryWallet

/-!
# Whether the connected wallet is verified

The flag of the connection caches whether the record lists the connected address as verified, or has
come as the answer to an accepted signature. It is computed anew where the record or the address
changes, except where a log-in replaces the record.

Main statement: the flag stands without cause exactly after a log-in has replaced the record by one
that neither lists the connected address as verified nor has come with a proof of it
(`falselyVerified_iff_careless_logIn`).
-/

namespace VisitorLink

open Errand

namespace Visitor

/-- That a record has an entry of a verified wallet with the given address. -/
def Lists (visitor : Visitor) (address : String) : Prop :=
  ∃ wallet ∈ visitor.wallets, wallet.address = address ∧ wallet.verified = true

theorem lists_of_hasVerified {visitor : Visitor} {address : String}
    (verified : visitor.hasVerified address = true) : visitor.Lists address := by
  obtain ⟨wallet, found, proved⟩ := (Option.any_eq_true _ _).1 verified
  refine ⟨wallet, List.mem_of_find?_eq_some found, ?_, proved⟩
  simpa using List.find?_some found

end Visitor

namespace State

variable {Delivered : Visitor → String → Prop}

/-- That the flag stands with cause: a wallet is connected, and the record lists it as verified or
was delivered with a proof of it. -/
def Backed (Delivered : Visitor → String → Prop) (state : State) : Prop :=
  state.connection.verified = true → ∃ visitor address, state.visitor = some visitor ∧
    state.address? = some address ∧ (visitor.Lists address ∨ Delivered visitor address)

theorem Backed.mono {Delivered' : Visitor → String → Prop} {state : State}
    (backed : state.Backed Delivered)
    (more : ∀ visitor address, Delivered visitor address → Delivered' visitor address) :
    state.Backed Delivered' := by
  intro verified
  obtain ⟨visitor, address, loaded, connected, cause⟩ := backed verified
  exact ⟨visitor, address, loaded, connected, cause.imp_right (more visitor address)⟩

/-- A state with the same record, address and flag. -/
theorem Backed.congr {before after : State} (backed : before.Backed Delivered)
    (visitor : after.visitor = before.visitor) (address : after.address? = before.address?)
    (verified : after.connection.verified = before.connection.verified) :
    after.Backed Delivered := by
  intro stands
  rw [visitor, address]
  exact backed (verified.symm.trans stands)

theorem Opens.backed {state : State} (opens : state.Opens) : state.Backed Delivered := by
  cases opens with
  | unknown => exact fun verified => nomatch verified
  | known visitor =>
      intro verified
      obtain ⟨wallet, primary, proved⟩ := (Option.any_eq_true _ _).1 verified
      exact ⟨visitor, wallet.address, rfl, congrArg (Option.map Wallet.address) primary,
        .inl ⟨wallet, (Visitor.primaryWallet?_eq_some_iff.1 primary).mem, rfl, proved⟩⟩

theorem backed_of_quiet {state : State} {change : Change} (quiet : change.isQuiet = true)
    (backed : state.Backed Delivered) : (state.apply change).Backed Delivered := by
  cases change with
  | load visitor =>
      intro verified
      cases connected : state.connection.address with
      | none =>
          have stands : state.connection.verified = true := by
            simpa only [apply, load, connected] using verified
          obtain ⟨_, address, _, shown, _⟩ := backed stands
          cases connected.symm.trans shown
      | some address =>
          have listed : visitor.hasVerified address = true := by
            simpa only [apply, load, connected] using verified
          exact ⟨visitor, address, rfl, connected, .inl (Visitor.lists_of_hasVerified listed)⟩
  | connect address =>
      intro verified
      have listed : (state.visitor.any fun visitor => visitor.hasVerified address) = true :=
        verified
      obtain ⟨visitor, loaded, listed⟩ := (Option.any_eq_true _ _).1 listed
      exact ⟨visitor, address, loaded, rfl, .inl (Visitor.lists_of_hasVerified listed)⟩
  | finishCheck =>
      obtain ⟨visitor, address, verified, _⟩ := state.finishCheck_keeps
      exact backed.congr visitor address verified
  | disconnect | cancelLogin => exact fun verified => nomatch verified
  | detect | check | request | failConnection | failLink | failVerification =>
      exact backed.congr rfl rfl rfl
  | hydrate | link | requireLogin | startVerification | verify | logIn | logOut => cases quiet

/-- What a piece does keeps the cause of the flag, given that proofs are delivered and that log-ins
put records in place that do not take it away. -/
theorem Effect.backed {cue : Cue} {before after : State} (effect : Effect cue before after)
    (backed : before.Backed Delivered)
    (proofs : ∀ id request answer, cue = .answer (.service (.linkWallet id request)) (.ok answer) →
      Delivered answer.visitor request.address)
    (logIns : ∀ id visitor, cue = .answer (.service (.logIn id)) (.ok visitor) →
      before.visitorId? = some id → before.connection.verified = true →
      ∃ address, before.address? = some address ∧
        (visitor.Lists address ∨ Delivered visitor address)) :
    after.Backed Delivered := by
  cases effect with
  | quiet drifts => exact drifts.preserves (fun _ _ quiet => backed_of_quiet quiet) backed
  | required => exact fun verified => nomatch verified
  | @linked _ _ _ _ visitor current decided =>
      intro verified
      have listed : (visitor.any fun visitor => before.connection.address.any fun address =>
        visitor.hasVerified address) = true := verified
      obtain ⟨visitor, rfl, shown⟩ := (Option.any_eq_true _ _).1 listed
      obtain ⟨address, connected, verified⟩ := (Option.any_eq_true _ _).1 shown
      exact ⟨visitor, address, rfl, connected, .inl (Visitor.lists_of_hasVerified verified)⟩
  | proved current =>
      exact fun _ => ⟨_, _, rfl, (isCurrent_iff.1 current).2, .inr (proofs _ _ _ rfl)⟩
  | loggedIn current =>
      intro verified
      obtain ⟨address, connected, cause⟩ := logIns _ _ rfl current verified
      exact ⟨_, address, rfl, connected, cause⟩
  | loggedOut => exact fun verified => nomatch verified

end State

theorem Operation.Turn.backed {Delivered : Visitor → String → Prop} {operation : Operation}
    {cue : Cue} {before : Visit} {piece : Errand.Paused Outcome × Visit}
    (turn : operation.Turn cue before piece) (backed : before.state.Backed Delivered)
    (proofs : ∀ id request answer, cue = .answer (.service (.linkWallet id request)) (.ok answer) →
      Delivered answer.visitor request.address)
    (logIns : ∀ id visitor, cue = .answer (.service (.logIn id)) (.ok visitor) →
      before.state.visitorId? = some id → before.state.connection.verified = true →
      ∃ address, before.state.address? = some address ∧
        (visitor.Lists address ∨ Delivered visitor address)) :
    piece.2.state.Backed Delivered := by
  cases turn with
  | rest effect rests => exact effect.backed backed proofs logIns
  | prompt current idle waits starts =>
      rw [starts]
      exact backed.congr rfl rfl rfl
  | submit waits => exact backed
  | remove waits => exact backed

/-- The answer to a log-in puts the record in place, whatever it lists. -/
theorem Operation.WaitsAt.run_logIn {operation : Operation} {stage : Stage} {id : String}
    {next : Except ApiError Visitor → Errand Outcome}
    (waits : operation.WaitsAt stage (.calling (.service (.logIn id)) next)) {visit : Visit}
    (current : visit.state.visitorId? = some id) (visitor : Visitor) :
    ∃ outcome, run (next (.ok visitor)) visit =
      (.finished outcome, visit.apply (.logIn visitor)) := by
  have runs := run_receiveLogIn_ok id visitor visit
  rw [if_pos current] at runs
  cases waits with
  | logIn => exact ⟨_, run_bind_of_finished runs _⟩
  | track session => cases session

namespace Course

/-- That an accepted signature for an address was answered with a record. -/
def Delivered (course : Course) (visitor : Visitor) (address : String) : Prop :=
  ∃ number id request answer,
    .answered number (.service (.linkWallet id request)) (.ok answer) ∈ course.history ∧
    request.address = address ∧ answer.visitor = visitor

/-- That the wallet counts as verified without cause. -/
def FalselyVerified (course : Course) : Prop :=
  ¬ course.visit.state.Backed course.Delivered

/-- That a step answers a log-in with a record that does not list the connected address as verified
and was not delivered with a proof of it, while the wallet counts as verified. -/
structure CarelessLogIn (before after : Course) : Prop where
  verified : before.visit.state.connection.verified = true
  answered : ∃ number operation id next visitor,
    ⟨number, operation, .calling (.service (.logIn id)) next⟩ ∈ before.waiting ∧
    after = before.answer number operation (.service (.logIn id)) next (.ok visitor) ∧
    before.visit.state.visitorId? = some id ∧
    ∀ address, before.visit.state.address? = some address →
      ¬ visitor.Lists address ∧ ¬ before.Delivered visitor address

variable {before after : Course}

theorem Delivered.mono (kept : before.history <+: after.history) {visitor : Visitor}
    {address : String} (delivered : before.Delivered visitor address) :
    after.Delivered visitor address := by
  obtain ⟨number, id, request, answer, mem, proof⟩ := delivered
  exact ⟨number, id, request, answer, kept.subset mem, proof⟩

/-- The flag keeps its cause in every step but a careless log-in. -/
theorem Step.backed (step : Step before after) (staged : before.Staged)
    (backed : before.visit.state.Backed before.Delivered) :
    after.visit.state.Backed after.Delivered ∨ CarelessLogIn before after := by
  have kept := step.history_prefix
  have backed' : before.visit.state.Backed after.Delivered :=
    backed.mono fun _ _ => Delivered.mono kept
  cases step with
  | start operation =>
      refine .inl ?_
      rw [Course.start, pause_visit]
      exact (operation.turn_start before.visit).backed backed' (fun _ _ _ same => nomatch same)
        fun _ _ same => nomatch same
  | @answer number operation call next waits answer =>
      obtain ⟨stage, stands⟩ := staged _ waits
      by_cases careless : CarelessLogIn before (before.answer number operation call next answer)
      case pos => exact .inr careless
      refine .inl ?_
      rw [Course.answer, pause_visit]
      refine (Operation.turn_answer stands answer before.visit).backed backed' ?_ ?_
      · intro id request answer same
        cases same
        exact ⟨number, id, request, answer, (history_prefix_pause _ _ _ _).subset
          (List.mem_append_right _ (List.mem_singleton.2 rfl)), rfl, rfl⟩
      · intro id visitor same current verified
        cases same
        by_contra none
        refine careless ⟨verified, number, operation, id, next, visitor, waits, rfl, current, ?_⟩
        exact fun address connected =>
          ⟨fun lists => none ⟨address, connected, .inl lists⟩,
            fun delivered => none ⟨address, connected, .inr (delivered.mono kept)⟩⟩
  | wake waits due =>
      obtain ⟨stage, stands⟩ := staged _ waits
      refine .inl ?_
      rw [Course.wake, pause_visit]
      exact (Operation.turn_wake stands before.visit).backed backed'
        (fun _ _ _ same => nomatch same) fun _ _ same => nomatch same
  | beat due => exact .inl backed'
  | @answerBeat beat sent =>
      have same : (before.answerBeat beat).visit.state = before.visit.state :=
        before.visit.answerHeartbeat_state _
      rw [same]
      exact .inl backed'
  | giveUpBeat => exact .inl backed'
  | changeOutside later => exact .inl backed'

/-- A careless log-in takes the cause of the flag away. -/
theorem CarelessLogIn.falselyVerified (careless : CarelessLogIn before after)
    (staged : before.Staged) : after.FalselyVerified := by
  obtain ⟨verified, number, operation, id, next, visitor, waits, rfl, current, none⟩ := careless
  obtain ⟨stage, stands⟩ := staged _ waits
  obtain ⟨outcome, stops⟩ := stands.run_logIn current visitor
  have same : before.answer number operation (.service (.logIn id)) next (.ok visitor) =
      ((before.without number).note (.answered number (.service (.logIn id)) (.ok visitor))).pause
        number operation (.finished outcome, before.visit.apply (.logIn visitor)) :=
    congrArg (Course.pause _ number operation) stops
  rw [same]
  intro backed
  obtain ⟨_, address, loaded, connected, cause⟩ := backed verified
  cases loaded
  obtain ⟨unlisted, undelivered⟩ := none address connected
  rcases cause with lists | ⟨_, _, _, _, mem, proof⟩
  · exact unlisted lists
  · rcases List.mem_append.1 mem with mem | mem
    · rcases List.mem_append.1 mem with mem | mem
      · exact undelivered ⟨_, _, _, _, mem, proof⟩
      · cases List.mem_singleton.1 mem
    · cases List.mem_singleton.1 mem

variable {settings : VisitSettings} {outside : Outside} {storage : Storage} {state : State}

/-- The connected wallet counts as verified without cause only after the answer to a log-in has
replaced the record by one that does not list the address as verified and was not delivered with a
proof of it; and after every such answer it does. -/
theorem falselyVerified_iff_careless_logIn {first : Course}
    (begins : first = opening settings outside storage state) (opens : state.Opens) :
    (∀ course, Reaches first course → course.FalselyVerified →
      ∃ before after, Reaches first before ∧ ¬ before.FalselyVerified ∧
        CarelessLogIn before after ∧ Reaches after course) ∧
    ∀ before after, Reaches first before → CarelessLogIn before after → after.FalselyVerified := by
  subst begins
  constructor
  · intro course reaches falsely
    induction reaches with
    | refl => exact absurd opens.backed falsely
    | @step middle last before next ih =>
        by_cases backed : middle.visit.state.Backed middle.Delivered
        · rcases next.backed before.staged backed with backed' | careless
          · exact absurd backed' falsely
          · exact ⟨middle, last, before, not_not.2 backed, careless, .refl⟩
        · obtain ⟨earlier, later, reaches, truthful, careless, goesOn⟩ := ih backed
          exact ⟨earlier, later, reaches, truthful, careless, .step goesOn next⟩
  · intro before after reaches careless
    exact careless.falselyVerified reaches.staged

/-- The service answers a log-in with a record without wallets. -/
theorem falselyVerified_after_bare_logIn :
    ∃ (visitor : Visitor) (course : Course),
      Reaches (opening {} { random := Vector.replicate 16 0 } (.memory {} {})
        (State.hydrated visitor)) course ∧ course.FalselyVerified := by
  let time : Timestamp :=
    ⟨⟨2025, 1, 1, by decide, by decide, by decide⟩, 0, 0, by decide, by decide⟩
  let visitor : Visitor :=
    { id := "visitor"
      wallets := [{ address := "wallet", linkedAt := time, lastUsed := time, verified := true }] }
  let first := opening {} { random := Vector.replicate 16 0 } (.memory {} {})
    (State.hydrated visitor)
  let before := first.start .logIn
  have waits : ⟨0, .logIn, .calling (.service (.logIn "visitor")) _⟩ ∈ before.waiting :=
    List.mem_singleton.2 rfl
  have unlisted (address : String) :
      ¬ Visitor.Lists { id := "visitor", isLoggedIn := true } address := by
    rintro ⟨wallet, mem, _⟩
    cases mem
  have undelivered (address : String) :
      ¬ before.Delivered { id := "visitor", isLoggedIn := true } address := by
    rintro ⟨_, _, _, _, mem, _⟩
    rcases List.mem_cons.1 mem with mem | mem
    · cases mem
    · cases List.mem_singleton.1 mem
  have careless : CarelessLogIn before (before.answer 0 .logIn (.service (.logIn "visitor")) _
      (.ok { id := "visitor", isLoggedIn := true })) :=
    ⟨rfl, 0, .logIn, "visitor", _, _, waits, rfl, rfl, fun address _ =>
      ⟨unlisted address, undelivered address⟩⟩
  have reaches : Reaches first before := .step .refl (.start _ _)
  have falsely := (falselyVerified_iff_careless_logIn rfl (.known visitor)).2 _ _ reaches careless
  exact ⟨visitor, _, .step reaches (.answer waits _), falsely⟩

end Course

end VisitorLink
