import VisitorLink.Proofs.Course.Moves
import VisitorLink.Proofs.Service.Decisions
import VisitorLink.Proofs.Service.Refusals
import VisitorLink.Proofs.Visit.Attempts

/-!
# Replies about the connected wallet

The service is asked about a connected wallet that the record of the visitor lacks. What comes back
may be anything, with any status, and it counts if the visitor and the wallet are still the present
ones: an owner who is named, else a link, and everything else is a refusal.

Main statement: `Course.reply_decides_link`.
-/

namespace VisitorLink

open Errand

/-- How an operation ends that links a wallet with a given result. The opening of a visit tells
nothing of it. -/
inductive Operation.EndsLinking : Operation → Except LinkError LinkOutcome → Outcome → Prop
  | link (result : Except LinkError LinkOutcome) : EndsLinking .link result (.link result)
  | connectWallet (result : Except LinkError LinkOutcome) :
      EndsLinking .connectWallet result (.link result)
  | bootstrap (visitor : Visitor) (result : Except LinkError LinkOutcome) :
      EndsLinking .bootstrap result (.visitor (.ok visitor))

theorem Operation.AfterLink.endsLinking {operation : Operation}
    {rest : Except LinkError LinkOutcome → Errand Outcome} (after : operation.AfterLink rest)
    (result : Except LinkError LinkOutcome) :
    ∃ outcome, rest result = pure outcome ∧ operation.EndsLinking result outcome := by
  cases after with
  | link => exact ⟨_, rfl, .link result⟩
  | connectWallet => exact ⟨_, rfl, .connectWallet result⟩
  | bootstrap visitor => exact ⟨_, rfl, .bootstrap visitor result⟩

namespace Visit

/-- What a reply about the connected address makes of a visit, and the result that linking the
address has. -/
structure Heeds (before : Visit) (address : String) (reply : Reply)
    (result : Except LinkError LinkOutcome) (after : Visit) : Prop where
  owned : ∀ owner, reply.NamesOwner owner →
    result = .ok (.loginRequired owner) ∧ after.attempted = before.attempted ∧
      after.state.visitor = before.state.visitor ∧
      after.state.connection =
        { before.state.connection with
          pendingLogin := some ⟨address, owner⟩, verified := false, linkError := none }
  linked : ∀ visitor, reply.Links visitor →
    result = .ok .linked ∧ after.attempted = before.attempted ∧
      after.state.visitor = visitor.or before.state.visitor ∧
      after.state.connection =
        { before.state.connection with
          pendingLogin := none, verified := visitor.any (·.hasVerified address), linkError := none }
  /-- In every other case the attempt is forgotten. -/
  refused : (∀ owner, ¬reply.NamesOwner owner) → (∀ visitor, ¬reply.Links visitor) →
    ∃ reason, result = .error (.connectFailed reason) ∧
      after.attempted = before.attempted.filter (· != address) ∧
      after.state.visitor = before.state.visitor ∧
      after.state.connection = { before.state.connection with linkError := some reason }
  replaces : after.state.visitor ≠ before.state.visitor →
    ∃ visitor, reply.Links (some visitor) ∧ after.state.visitor = some visitor
  spares : after =
    { before with state := after.state, attempted := after.attempted, events := after.events }

theorem emit_spares (visit : Visit) (event : Event) :
    visit.emit event = { visit with events := (visit.emit event).events } := by
  unfold emit
  split <;> rfl

/-- The decision that a reply holds is applied to the visit. -/
theorem heeds_applyDecision {before : Visit} {address : String}
    (connected : before.state.address? = some address) (reply : Reply) :
    ∃ result after,
      run (applyDecision address (.ofAnswer reply.connectAnswer)) before =
          (.finished result, after) ∧ before.Heeds address reply result after := by
  have owned {owner : String} (named : reply.NamesOwner owner) :=
    Reply.decides_loginRequired_iff.2 named
  have linked {visitor : Option Visitor} (links : reply.Links visitor) :=
    Reply.decides_linked_iff.2 links
  rw [run_applyDecision]
  cases decided : LinkDecision.ofAnswer reply.connectAnswer with
  | loginRequired owner =>
      refine ⟨_, _, rfl, ?_⟩
      constructor
      case owned =>
        intro other named
        cases decided.symm.trans (owned named)
        refine ⟨rfl, emit_attempted _ _, ?_, ?_⟩ <;> rw [emit_state] <;> rfl
      case linked => exact fun visitor links => nomatch decided.symm.trans (linked links)
      case refused => exact fun none _ =>
        (none owner (Reply.decides_loginRequired_iff.1 decided)).elim
      case replaces => exact fun changed => absurd (by rw [emit_state]; rfl) changed
      case spares =>
        rw [emit_spares]
        rfl
  | linked visitor =>
      refine ⟨_, _, rfl, ?_⟩
      constructor
      case owned => exact fun owner named => nomatch decided.symm.trans (owned named)
      case linked =>
        intro other links
        cases decided.symm.trans (linked links)
        refine ⟨rfl, rfl, rfl, ?_⟩
        have address_eq : before.state.connection.address = some address := connected
        simp only [apply_state, State.apply, State.link, address_eq, Option.any_some]
      case refused => exact fun _ none => (none visitor (Reply.decides_linked_iff.1 decided)).elim
      case replaces =>
        intro changed
        cases visitor with
        | none => exact absurd rfl changed
        | some visitor => exact ⟨visitor, Reply.decides_linked_iff.1 decided, rfl⟩
      case spares => rfl
  | refused reason =>
      refine ⟨_, _, rfl, ?_⟩
      constructor
      case owned => exact fun owner named => nomatch decided.symm.trans (owned named)
      case linked => exact fun visitor links => nomatch decided.symm.trans (linked links)
      case refused =>
        intro _ _
        refine ⟨reason, rfl, emit_attempted _ _, ?_, ?_⟩ <;> rw [emit_state] <;> rfl
      case replaces => exact fun changed => absurd (by rw [emit_state]; rfl) changed
      case spares =>
        rw [emit_spares]
        rfl

end Visit

/-- An operation that waits for a reply about the present wallet ends with what it decides. -/
theorem Operation.WaitsAt.decides {operation : Operation} {stage : Stage} {id address : String}
    {next : Except ApiError ConnectAnswer → Errand Outcome}
    (stands : operation.WaitsAt stage (.calling (.service (.connectWallet id address)) next))
    {visit : Visit} (current : visit.state.isCurrent id address = true) (reply : Reply) :
    ∃ result outcome after, run (next reply.connectAnswer) visit = (.finished outcome, after) ∧
      operation.EndsLinking result outcome ∧ visit.Heeds address reply result after := by
  cases stands with
  | track session => cases session
  | @link _ rest follows =>
      obtain ⟨result, after, stops, heeds⟩ :=
        Visit.heeds_applyDecision (State.isCurrent_iff.1 current).2 reply
      obtain ⟨outcome, ends, tells⟩ := follows.endsLinking result
      rw [← run_receiveDecision current] at stops
      have finishes := run_bind_of_finished stops rest
      rw [ends] at finishes
      exact ⟨result, outcome, after, finishes, tells, heeds⟩

namespace Course

/-- That an operation asks the service about the connected wallet, which is all that it does at
first. -/
structure AsksAboutWallet (before : Course) (id address : String) (after : Course) : Prop where
  waits : ∃ next, ⟨before.started, .link, .calling (.service (.connectWallet id address)) next⟩ ∈
    after.waiting
  history : after.history = before.history ++
    [.started before.started .link, .asked before.started (.service (.connectWallet id address))]
  visit : after.visit =
    { before.visit with attempted := address :: before.visit.attempted }.inquire
      (.call (.service (.connectWallet id address)))

/-- The service is asked about a connected wallet that the record of the visitor lacks, unless it
has been asked already. -/
theorem asksAboutWallet_start {course : Course} {visitor : Visitor} {address : String}
    (loaded : course.visit.state.visitor = some visitor)
    (connected : course.visit.state.address? = some address)
    (unknown : visitor.wallet? address = none) (fresh : address ∉ course.visit.attempted) :
    course.AsksAboutWallet visitor.id address (course.start .link) := by
  have stops := run_link course.visit
  rw [loaded, connected] at stops
  simp only [unknown, if_neg fresh] at stops
  have starts := run_bind_of_calling stops fun result => pure (Outcome.link result)
  rw [← map_eq_bind] at starts
  unfold start Operation.errand
  rw [starts]
  exact ⟨⟨_, mem_waiting_pause_calling _ _ _ _ _ _⟩, List.append_assoc _ _ _, rfl⟩

variable {settings : VisitSettings} {outside : Outside} {storage : Storage} {state : State}

/-- A wallet that is connected, that the record of the visitor lacks and that the service has not
been asked about makes the first step of linking ask for it. Whatever the reply is, and whatever has
happened since, it decides as follows, if the visitor and the wallet are the present ones: an owner
who is named has to log in; else the wallet is linked, if the reply says so with a status of
success; else linking has failed and may be tried again. The record of the visitor is replaced by
one that comes with a link, and in no other case. -/
theorem reply_decides_link {course : Course}
    (reaches : Reaches (opening settings outside storage state) course) :
    (∀ visitor address, course.visit.state.visitor = some visitor →
      course.visit.state.address? = some address → visitor.wallet? address = none →
      address ∉ course.visit.attempted →
        course.AsksAboutWallet visitor.id address (course.start .link)) ∧
    ∀ number operation id address next,
      ⟨number, operation, .calling (.service (.connectWallet id address)) next⟩ ∈ course.waiting →
      course.visit.state.isCurrent id address = true → ∀ (reply : Reply) (after : Course),
        after = course.answer number operation (.service (.connectWallet id address)) next
          (reply.answer (.connectWallet id address)) →
        ∃ result outcome, operation.EndsLinking result outcome ∧
          after.history = course.history ++
            [.answered number (.service (.connectWallet id address))
              (reply.answer (.connectWallet id address)), .ended number outcome] ∧
          course.visit.Heeds address reply result after.visit := by
  refine ⟨fun visitor address => asksAboutWallet_start, ?_⟩
  rintro number operation id address next waits current reply _ rfl
  obtain ⟨stage, stands⟩ := reaches.staged _ waits
  obtain ⟨result, outcome, after, stops, tells, heeds⟩ := stands.decides current reply
  refine ⟨result, outcome, tells, ?_⟩
  unfold answer
  rw [show run (next (reply.answer (.connectWallet id address))) course.visit = _ from stops]
  exact ⟨List.append_assoc _ _ _, heeds⟩

namespace OwnedWallet

/-- The visitor and the wallet are known from the start. -/
def begun : Course :=
  opening {} { random := Vector.replicate 16 0 } (.memory {} {})
    { visitor := some { id := "visitor" }, connection.address := some "wallet" }

def body : String :=
  "\x7b\"success\": true, \"loginRequired\": true, \"existingUserId\": \"other\"\x7d"

/-- A reply that contradicts itself: a conflict, a success and the owner of the wallet. -/
def reply : Reply := .received 409 body

theorem namesOwner : reply.NamesOwner "other" := by
  have object : Json.read? body = some (.obj [(some "success", .bool true),
    (some "loginRequired", .bool true), (some "existingUserId", .text "other")]) := by cbv
  refine ⟨409, { success := true, loginRequired := true, owner := some "other" },
    ⟨body, rfl, ?_⟩, rfl, rfl⟩
  rw [Reply.read?, object]
  rfl

end OwnedWallet

open OwnedWallet in
/-- An owner who is named has to log in, even if the reply also says that the wallet is linked. -/
theorem owner_counts_beside_success :
    ∃ next after, AsksAboutWallet begun "visitor" "wallet" (begun.start .link) ∧
      ⟨0, .link, .calling (.service (.connectWallet "visitor" "wallet")) next⟩ ∈
        (begun.start .link).waiting ∧
      after = (begun.start .link).answer 0 .link (.service (.connectWallet "visitor" "wallet")) next
        (reply.answer (.connectWallet "visitor" "wallet")) ∧
      .ended 0 (.link (.ok (.loginRequired "other"))) ∈ after.history ∧
      after.visit.state.visitor = begun.visit.state.visitor ∧
      after.visit.state.connection.pendingLogin = some ⟨"wallet", "other"⟩ := by
  have opened : Reaches begun begun := .refl
  have reaches : Reaches begun (begun.start .link) := .step opened (.start _ _)
  have asks := (reply_decides_link opened).1 { id := "visitor" } "wallet" rfl rfl rfl nofun
  obtain ⟨next, waits⟩ := asks.waits
  obtain ⟨result, outcome, ends, history, heeds⟩ :=
    (reply_decides_link reaches).2 0 .link "visitor" "wallet" next waits (by decide) reply _ rfl
  obtain ⟨rfl, _, visitor, connection⟩ := heeds.owned "other" namesOwner
  cases ends
  refine ⟨next, _, asks, waits, rfl, ?_, visitor, congrArg Connection.pendingLogin connection⟩
  rw [history]
  exact List.mem_append_right _ (.tail _ (.head _))

end Course

end VisitorLink
