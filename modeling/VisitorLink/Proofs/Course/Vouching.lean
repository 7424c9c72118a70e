import VisitorLink.Proofs.Conduct.Wallet
import VisitorLink.Proofs.Course.Answers

/-!
# How long a verification lasts

A wallet counts as verified from the moment when a verification of it ends well. An answer that
comes afterwards is applied if it is about the present visitor and wallet; when its request was made
makes no difference. So what ends the verification is the first such answer that does not tell that
the wallet is verified, and nothing else does while the wallet is connected.

Main statement: `verified_until_undone`.
-/

namespace VisitorLink

open Errand

/-! ## What answers tell -/

/-- The record that an answer brings, if it is of a kind that is put in place. -/
def Cue.record? : Cue → Option Visitor
  | .answer (.service (.fetchVisitor _)) (.ok visitor)
  | .answer (.service (.unlinkWallet _ _ _)) (.ok visitor)
  | .answer (.service (.setPrimaryWallet _ _)) (.ok visitor)
  | .answer (.service (.logIn _)) (.ok visitor)
  | .answer (.service (.logOut _)) (.ok visitor) => some visitor
  | .answer (.service (.linkWallet _ _)) (.ok accepted) => some accepted.visitor
  | .answer (.service (.connectWallet _ _)) received =>
      match LinkDecision.ofAnswer received with
      | .linked visitor => visitor
      | _ => none
  | _ => none

/-- Whether an answer tells that a wallet is verified. -/
def Cue.vouches (cue : Cue) (address : String) : Bool :=
  cue.record?.any fun visitor => visitor.hasVerified address

/-- The decision on a link vouches for an address by the record it brings. -/
theorem Cue.vouches_connectWallet (id wallet address : String)
    (answer : Except ApiError ConnectAnswer) :
    (Cue.answer (.service (.connectWallet id wallet)) answer).vouches address =
      match LinkDecision.ofAnswer answer with
      | .linked visitor => visitor.any fun visitor => visitor.hasVerified address
      | _ => false := by
  change Option.any _ (match LinkDecision.ofAnswer answer with
    | .linked visitor => visitor
    | _ => none) = _
  split <;> rfl

/-- Whether an answer to a call settles anew whether the connected wallet counts as verified. -/
def Call.settlesVerified : Call → Bool
  | .service (.fetchVisitor _) | .service (.connectWallet _ _) | .service (.unlinkWallet _ _ _)
  | .service (.setPrimaryWallet _ _) => true
  | _ => false

namespace State

/-- That the record tells whether a wallet is verified, and that the connection tells the same if it
is the connected one. -/
structure Tells (state : State) (address : String) (verified : Bool) : Prop where
  record : state.visitor.any (fun visitor => visitor.hasVerified address) = verified
  connection : state.address? = some address → state.connection.verified = verified

variable {state : State} {address : String} {verified : Bool}

/-- A plain change leaves what the record tells. -/
theorem Tells.apply_of_plain (tells : state.Tells address verified) {change : Change}
    (plain : change.isPlain = true) : (state.apply change).Tells address verified := by
  have record : (state.apply change).visitor.any (fun visitor => visitor.hasVerified address) =
      verified := by
    rw [state.visitor_apply_of_plain plain]
    exact tells.record
  refine ⟨record, fun connected => ?_⟩
  cases change with
  | connect other =>
      cases Option.some.inj connected
      exact tells.record
  | finishCheck =>
      obtain ⟨_, kept, same, _⟩ := state.finishCheck_keeps
      exact same.trans (tells.connection (kept.symm.trans connected))
  | disconnect | cancelLogin => cases connected
  | hydrate | load | link | requireLogin | verify | logIn | logOut => cases plain
  | _ => exact tells.connection connected

/-- Roaming leaves what the record tells. -/
theorem Roams.tells {first last : State} (roams : first.Roams last)
    (tells : first.Tells address verified) : last.Tells address verified := by
  have kept (state : State) (change : Change) (plain : change.isPlain = true)
      (tells : state.Tells address verified) : (state.apply change).Tells address verified :=
    tells.apply_of_plain plain
  exact roams.preserves kept tells

/-- A record that is loaded tells of its wallets. -/
theorem tells_load (state : State) (visitor : Visitor) (address : String) :
    (state.apply (.load visitor)).Tells address (visitor.hasVerified address) := by
  refine ⟨rfl, fun connected => ?_⟩
  have connected : state.connection.address = some address := connected
  simp only [apply, load, connected]

/-- After a link, the connected wallet counts as verified if the record tells so. -/
theorem verified_link (state : State) (visitor : Option Visitor) {address : String}
    (connected : state.address? = some address) :
    (state.apply (.link visitor)).connection.verified =
      visitor.any fun visitor => visitor.hasVerified address := by
  change (visitor.any fun visitor => state.connection.address.any fun address =>
    visitor.hasVerified address) = _
  rw [show state.connection.address = some address from connected]
  rfl

end State

/-- An answer that tells that a wallet is verified keeps it so. -/
theorem Visit.Receives.tells {visit : Visit} {cue : Cue} {state : State} {storage : Storage}
    {address : String} (receives : visit.Receives cue state storage)
    (vouches : ¬ visit.Ignores cue → cue.vouches address = true)
    (tells : visit.state.Tells address true) : state.Tells address true := by
  have loads {visitor : Visitor} (listed : visitor.hasVerified address = true) :
      (visit.state.apply (.load visitor)).Tells address true :=
    listed ▸ visit.state.tells_load visitor address
  have late {id : String} (loaded : visit.state.visitorId? = some id) :
      ¬ visit.state.visitorId? ≠ some id := not_not.2 loaded
  cases receives with
  | ignored | recalled | unadopted => exact tells
  | confirmed same => exact loads (vouches fun ignores => ignores.1 same)
  | adopted other keeps => exact loads (vouches fun ignores => ignores.2 keeps)
  | unlinked loaded => exact loads (vouches (late loaded))
  | marked loaded => exact loads (vouches (late loaded))
  | loggedIn loaded => exact ⟨vouches (late loaded), tells.connection⟩
  | loggedOut loaded => exact ⟨vouches (late loaded), tells.connection⟩
  | proved current =>
      refine ⟨vouches fun ignores => ?_, fun _ => rfl⟩
      cases (ignores : visit.state.isCurrent _ _ = false).symm.trans current
  | required current decided =>
      have vouched := vouches fun ignores => by
        obtain ⟨reason, refused⟩ := ignores current
        cases decided.symm.trans refused
      rw [Cue.vouches_connectWallet, decided] at vouched
      cases vouched
  | @linked _ _ _ visitor current decided =>
      have vouched := vouches fun ignores => by
        obtain ⟨reason, refused⟩ := ignores current
        cases decided.symm.trans refused
      rw [Cue.vouches_connectWallet, decided] at vouched
      refine ⟨?_, fun connected => (State.verified_link _ visitor connected).trans vouched⟩
      cases visitor with
      | none => cases vouched
      | some visitor => exact vouched

/-! ## Verifications that end well -/

namespace Errand

/-- A verification ends well only if the visitor stays the same. -/
theorem run_applyProof_of_verified {id : String} {answer : LinkAnswer} {visit : Visit} :
    ∃ outcome after, run (applyProof id answer) visit = (.finished (.ok outcome), after) ∧
      (outcome = .verified → answer.visitor.id = id) ∧
      after.state = visit.state.apply (.verify answer.visitor) := by
  unfold applyProof
  rw [run_apply_bind, run_ite]
  split
  case isTrue same =>
    rw [Bool.and_eq_true, beq_iff_eq] at same
    exact ⟨_, _, rfl, fun _ => same.2, by simp⟩
  case isFalse swaps =>
    rw [run_visit_bind, run_ite]
    split
    · exact ⟨_, _, rfl, nofun, by simp⟩
    · exact ⟨_, _, rfl, nofun, by simp⟩

end Errand

/-- A verification that ends well was accepted in time for the visitor who signed. -/
theorem Operation.AfterVerify.of_verified {operation : Operation}
    {rest : Except LinkError VerifyOutcome → Errand Outcome} (after : operation.AfterVerify rest)
    {id address : String} {answer : LinkAnswer} {visit : Visit}
    (ends : (run (receiveProof id address (.ok answer) >>= rest) visit).1 =
      .finished (.verify (.ok .verified))) :
    visit.state.isCurrent id address = true ∧ answer.visitor.id = id ∧
      (run (receiveProof id address (.ok answer) >>= rest) visit).2.state =
        visit.state.apply (.verify answer.visitor) := by
  cases current : visit.state.isCurrent id address with
  | false =>
      rw [run_bind_of_finished (run_receiveProof_of_late current _), after.run_stale] at ends
      cases ends
  | true =>
      obtain ⟨outcome, later, stops, same, proved⟩ :=
        @run_applyProof_of_verified id answer visit
      have stops := (run_receiveProof_ok current answer).trans stops
      rw [run_bind_of_finished stops] at ends ⊢
      cases (after.tracks_result (.ok outcome)).ends ends
      exact ⟨rfl, same rfl, (after.rests (.ok .verified) later).2.trans proved⟩

/-! ## Decisions -/

/-- The decision on a link request is applied at once. -/
theorem Errand.receiveDecision_finishes (id address : String)
    (answer : Except ApiError ConnectAnswer) (visit : Visit) :
    ∃ result after, run (receiveDecision id address answer) visit = (.finished result, after) := by
  cases current : visit.state.isCurrent id address with
  | false => exact ⟨_, _, run_receiveDecision_of_late current answer⟩
  | true =>
      rw [run_receiveDecision current, run_applyDecision]
      split <;> exact ⟨_, _, rfl⟩

/-- An operation does nothing more in the step in which a decision has come. -/
theorem Operation.WaitsAt.run_decision {operation : Operation} {stage : Stage} {id address : String}
    {next : Except ApiError ConnectAnswer → Errand Outcome}
    (waits : operation.WaitsAt stage (.calling (.service (.connectWallet id address)) next))
    (answer : Except ApiError ConnectAnswer) (visit : Visit) :
    (run (next answer) visit).2 = (run (receiveDecision id address answer) visit).2 := by
  cases waits with
  | track session => cases session
  | @link _ rest after =>
      obtain ⟨result, later, stops⟩ := receiveDecision_finishes id address answer visit
      obtain ⟨outcome, ends⟩ := after.ends result
      have finishes := run_bind_of_finished stops rest
      rw [ends] at finishes
      rw [stops]
      exact congrArg Prod.snd finishes

/-- After a decision in favour of no wallet, or of a record without it, it is not verified. -/
theorem Errand.receiveDecision_unvouched {id address wallet : String}
    {answer : Except ApiError ConnectAnswer} {visit : Visit}
    (heeded : ¬ visit.Ignores (.answer (.service (.connectWallet id address)) answer))
    (unvouched :
      (Cue.answer (.service (.connectWallet id address)) answer).vouches wallet = false)
    (connected : (run (receiveDecision id address answer) visit).2.state.address? = some wallet) :
    (run (receiveDecision id address answer) visit).2.state.connection.verified = false := by
  obtain ⟨current, accepted⟩ := Classical.not_imp.1 heeded
  rw [run_receiveDecision current, run_applyDecision] at connected ⊢
  rw [Cue.vouches_connectWallet] at unvouched
  cases decided : LinkDecision.ofAnswer answer with
  | loginRequired owner =>
      dsimp only
      rw [Visit.emit_state]
      rfl
  | linked visitor =>
      simp only [decided] at connected unvouched ⊢
      exact (State.verified_link visit.state visitor connected).trans unvouched
  | refused reason => exact absurd ⟨reason, decided⟩ accepted

namespace Course

section

variable {settings : VisitSettings} {outside : Outside} {storage : Storage} {state : State}
  {first before after : Course}

/-- A step that ends a verification well puts the record of the answer in place. -/
theorem Step.verified (step : Step before after)
    (reaches : Reaches (opening settings outside storage state) before) {number : Nat} {id : String}
    {request : LinkRequest} {answer : LinkAnswer}
    (history : after.history = before.history ++
      [.answered number (.service (.linkWallet id request)) (.ok answer),
        .ended number (.verify (.ok .verified))]) :
    before.visit.state.isCurrent id request.address = true ∧ answer.visitor.id = id ∧
      after.visit.state = before.visit.state.apply (.verify answer.visitor) := by
  obtain ⟨operation, next, waits, rfl, noted⟩ := step.of_answered history
  obtain ⟨stage, stands⟩ := reaches.staged _ waits
  have mem : .ended number (.verify (.ok .verified)) ∈
      pauseNote number (run (next (.ok answer)) before.visit).1 := by
    rw [noted]
    exact List.mem_singleton.2 rfl
  have ends := (eq_of_ended_mem_pauseNote mem).2
  cases stands with
  | track session => cases session
  | submit after =>
      unfold Course.answer
      rw [pause_visit]
      exact after.of_verified ends

/-! ## Answers that undo a verification -/

/-- That an answer to a call is applied in a step and does not tell that a wallet is verified. The
call may have been made at any time. -/
def Undoes (address : String) (call : Call) (before after : Course) : Prop :=
  ∃ number operation answer, Cues before after number operation (.answer call answer) ∧
    ¬ before.visit.Ignores (.answer call answer) ∧
    Cue.vouches (.answer call answer) address = false

/-- A wallet that is verified stays so in every step that does not undo it. -/
theorem Step.tells (step : Step before after)
    (reaches : Reaches (opening settings outside storage state) before) {address : String}
    (kept : ∀ call, ¬ Undoes address call before after)
    (tells : before.visit.state.Tells address true) : after.visit.state.Tells address true := by
  obtain ⟨cue, ⟨state', storage', receives, wanders⟩, origin⟩ := step.takes reaches
  refine wanders.state.tells (receives.tells (fun heeded => ?_) tells)
  rcases origin with rfl | ⟨number, operation, cues⟩
  · exact absurd trivial heeded
  · cases cue with
    | go => exact absurd trivial heeded
    | answer call answer =>
        refine Bool.of_not_eq_false fun unvouched => kept call ?_
        exact ⟨number, operation, answer, cues, heeded, unvouched⟩

/-- What the record tells of an address, it tells until an answer undoes it. -/
theorem Runs.tells {last : Course} {address : String}
    (runs : Runs (fun before after => ∀ call, ¬ Undoes address call before after) after last)
    (reaches : Reaches (opening settings outside storage state) after)
    (tells : after.visit.state.Tells address true) : last.visit.state.Tells address true := by
  induction runs with
  | refl => exact tells
  | step before next kept ih => exact next.tells (reaches.trans before.reaches) kept ih

/-- An answer that does not tell that the connected wallet is verified undoes its verification at
once, except if it only accepts a signature or logs the visitor in or out. -/
theorem Step.undone (step : Step before after)
    (reaches : Reaches (opening settings outside storage state) before) {address : String}
    {call : Call} (settles : call.settlesVerified = true) (undoes : Undoes address call before after)
    (connected : after.visit.state.address? = some address) :
    after.visit.state.connection.verified = false := by
  obtain ⟨number, operation, answer, cues, heeded, unvouched⟩ := undoes
  obtain ⟨state', storage', receives, wanders⟩ := step.follows reaches cues
  have loads {visitor : Visitor} (loaded : state' = before.visit.state.apply (.load visitor))
      (unlisted : visitor.hasVerified address = false) :
      after.visit.state.connection.verified = false := by
    have told := before.visit.state.tells_load visitor address
    rw [unlisted, ← loaded] at told
    exact (wanders.state.tells told).connection connected
  cases receives with
  | ignored ignores => exact absurd ignores heeded
  | confirmed same => exact loads rfl unvouched
  | adopted other keeps => exact loads rfl unvouched
  | unadopted other fails => exact absurd ⟨other, fails⟩ heeded
  | unlinked loaded => exact loads rfl unvouched
  | marked loaded => exact loads rfl unvouched
  | proved | loggedIn | loggedOut => cases settles
  | required | linked =>
      obtain ⟨next, waits, same⟩ := step.of_cues reaches cues
      obtain ⟨stage, stands⟩ := reaches.staged _ waits
      rw [same, stands.run_decision] at connected ⊢
      exact receiveDecision_unvouched heeded unvouched connected

/-- A wallet is verified once a verification of it has ended well with a record that tells so. It
stays verified for as long as the visitor is the present one and the wallet is connected, until an
answer is applied that does not tell that it is verified; the request for it may have been made
before the verification or after it. Such an answer to a request for a record, to link a wallet, to
remove one or to mark one as primary undoes the verification at once. -/
theorem verified_until_undone (begins : first = opening settings outside storage state)
    (reaches : Reaches first before) (step : Step before after) {number : Nat} {id : String}
    {request : LinkRequest} {answer : LinkAnswer}
    (history : after.history = before.history ++
      [.answered number (.service (.linkWallet id request)) (.ok answer),
        .ended number (.verify (.ok .verified))])
    (lists : answer.visitor.hasVerified request.address = true) :
    after.visit.state.isCurrent id request.address = true ∧
    (∀ last, Runs (fun before after => ∀ call, ¬ Undoes request.address call before after) after
        last → last.visit.state.isCurrent id request.address = true →
      last.visit.state.connection.verified = true) ∧
    ∀ middle last call, Reaches after middle → Step middle last → call.settlesVerified = true →
      Undoes request.address call middle last →
      last.visit.state.isCurrent id request.address = true →
      last.visit.state.connection.verified = false := by
  subst begins
  obtain ⟨current, same, proved⟩ := step.verified reaches history
  have reaches' := Reaches.step reaches step
  refine ⟨?_, fun last runs present => ?_, fun middle last call goesOn next settles undoes present =>
    ?_⟩
  · rw [proved]
    exact State.isCurrent_iff.2 ⟨congrArg some same, (State.isCurrent_iff.1 current).2⟩
  · have told : after.visit.state.Tells request.address true := by
      rw [proved]
      exact ⟨lists, fun _ => rfl⟩
    exact (runs.tells reaches' told).connection (State.isCurrent_iff.1 present).2
  · exact next.undone (reaches'.trans goesOn) settles undoes (State.isCurrent_iff.1 present).2

end

namespace OlderRequest

/-- A visitor with a wallet, as the service keeps them before and after the wallet is verified. -/
def visitor (verified : Bool) : Visitor where
  id := "visitor"
  wallets := do
    let date ← (Date.ofFields? 2025 1 1).toList
    let time ← (Timestamp.ofParts? date 0 0).toList
    return { address := "wallet", linkedAt := time, lastUsed := time, verified := verified }

def begun : Course :=
  opening {} { random := Vector.replicate 16 0 } (.memory {} {}) (State.hydrated (visitor false))

def request : LinkRequest :=
  ⟨"wallet", challenge .link "wallet" 0, "signature", 0⟩

/-- The visitor marks the wallet as primary, and signs for it before the answer to that has come. -/
def signed : Course :=
  ((begun.start (.setPrimary "wallet")).start .verify).answer 1 .verify
    (.provider (.signMessage request.message))
    (fun answer => .verify <$> receiveSignature "visitor" "wallet" request.message 0 answer)
    (.ok request.signature)

/-- The service accepts the signature. -/
def verified : Course :=
  signed.answer 1 .verify (.service (.linkWallet "visitor" request))
    (fun answer => .verify <$> receiveProof "visitor" "wallet" answer)
    (.ok { visitor := visitor true })

/-- The answer about the primary wallet holds the record as it was when it was asked for. -/
def undone : Course :=
  verified.answer 0 (.setPrimary "wallet") (.service (.setPrimaryWallet "visitor" "wallet"))
    (fun answer => .account <$> receivePrimary "visitor" answer) (.ok (visitor false))

/-- The signature is reached from the opening of the visit. -/
theorem reaches_signed : Reaches begun signed :=
  .step (.step (.step .refl (.start _ _)) (.start _ _)) (.answer (.tail _ (.head _)) _)

/-- The acceptance of the signature is the next step. -/
theorem step_verified : Step signed verified :=
  .answer (.tail _ (.head _)) _

/-- The answer about the primary wallet is still to come when the wallet has signed. -/
theorem waits_signed : ⟨0, .setPrimary "wallet", .calling
    (.service (.setPrimaryWallet "visitor" "wallet"))
      fun answer => .account <$> receivePrimary "visitor" answer⟩ ∈ signed.waiting :=
  .head _

/-- It is still to come when the signature has been accepted. -/
theorem waits_verified : ⟨0, .setPrimary "wallet", .calling
    (.service (.setPrimaryWallet "visitor" "wallet"))
      fun answer => .account <$> receivePrimary "visitor" answer⟩ ∈ verified.waiting :=
  .head _

/-- The answer to a request that was made before a verification makes the wallet unverified again,
although the visitor and the wallet are the same all the time. -/
theorem verification_undone_by_older_request :
    Reaches begun signed ∧ Step signed verified ∧ Step verified undone ∧
    verified.history = signed.history ++
      [.answered 1 (.service (.linkWallet "visitor" request)) (.ok { visitor := visitor true }),
        .ended 1 (.verify (.ok .verified))] ∧
    (visitor true).hasVerified "wallet" = true ∧
    verified.visit.state.isCurrent "visitor" "wallet" = true ∧
    verified.visit.state.connection.verified = true ∧
    (∃ next, ⟨0, .setPrimary "wallet", .calling
      (.service (.setPrimaryWallet "visitor" "wallet")) next⟩ ∈ signed.waiting) ∧
    (∃ history, undone.history = verified.history ++ .answered 0
      (.service (.setPrimaryWallet "visitor" "wallet")) (.ok (visitor false)) :: history) ∧
    undone.visit.state.isCurrent "visitor" "wallet" = true ∧
    undone.visit.state.connection.verified = false :=
  ⟨reaches_signed, step_verified, .answer waits_verified _, rfl, by decide, by decide, rfl,
    ⟨_, waits_signed⟩, ⟨_, rfl⟩, by decide, rfl⟩

/-- The wallet stays verified until the older answer comes, and is not verified any more then. -/
theorem verified_until_older_answer :
    verified.visit.state.connection.verified = true ∧
      undone.visit.state.connection.verified = false := by
  have lists : (visitor true).hasVerified request.address = true := by decide
  have history : verified.history = signed.history ++
      [.answered 1 (.service (.linkWallet "visitor" request)) (.ok { visitor := visitor true }),
        .ended 1 (.verify (.ok .verified))] := rfl
  have next : Step verified undone := .answer waits_verified _
  have undoes : Undoes request.address (.service (.setPrimaryWallet "visitor" "wallet")) verified
      undone :=
    ⟨0, _, _, cues_answer waits_verified _, fun changed => changed rfl, rfl⟩
  obtain ⟨current, keeps, ends⟩ :=
    verified_until_undone rfl reaches_signed step_verified history lists
  exact ⟨keeps verified .refl current, ends verified undone _ .refl next rfl undoes (by decide)⟩

end OlderRequest

end Course

end VisitorLink
