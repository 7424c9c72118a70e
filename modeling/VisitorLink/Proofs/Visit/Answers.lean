import VisitorLink.Proofs.Visit.Aside
import VisitorLink.Proofs.Visit.Attempts

/-!
# What a visit takes from answers

Between two waits an operation applies one answer at most, right after it has come, and what it does
from there on leaves the record and the remembered id alone. `Visit.Receives` says what applying an
answer does to the state and to the slots, and `Visit.Ignores` which answers are not applied.
-/

namespace VisitorLink

open Errand

/-! ## Plain changes -/

/-- Whether a change neither puts a record in place nor makes a log-in pending. -/
def Change.isPlain : Change → Bool
  | .hydrate _ | .load _ | .link _ | .requireLogin _ _ | .verify _ | .logIn _ | .logOut _ => false
  | _ => true

namespace State

/-- That a state becomes another one by plain changes. -/
def Roams : State → State → Prop :=
  Relation.ReflTransGen fun before after =>
    ∃ change, Change.isPlain change = true ∧ after = before.apply change

/-- A plain change is one way to roam. -/
theorem Roams.of_change (state : State) {change : Change} (plain : change.isPlain = true) :
    state.Roams (state.apply change) :=
  .single ⟨change, plain, rfl⟩

/-- What one plain change preserves is preserved by any number of them. -/
theorem Roams.preserves {Holds : State → Prop} {first last : State} (roams : first.Roams last)
    (kept : ∀ state change, change.isPlain = true → Holds state → Holds (state.apply change))
    (holds : Holds first) : Holds last := by
  induction roams with
  | refl => exact holds
  | tail before step ih =>
      obtain ⟨change, plain, rfl⟩ := step
      exact kept _ change plain ih

/-- A plain change leaves the record. -/
theorem visitor_apply_of_plain (state : State) {change : Change} (plain : change.isPlain = true) :
    (state.apply change).visitor = state.visitor := by
  cases change with
  | finishCheck => exact state.finishCheck_keeps.1
  | hydrate | load | link | requireLogin | verify | logIn | logOut => cases plain
  | _ => rfl

/-- Roaming leaves the record. -/
theorem Roams.visitor {first last : State} (roams : first.Roams last) :
    last.visitor = first.visitor :=
  roams.preserves (fun state _ plain same => (state.visitor_apply_of_plain plain).trans same) rfl

end State

namespace Visit

/-- The id that a visit would remember if none was remembered before. -/
def freshId (visit : Visit) : String :=
  (Uuid.ofRandom visit.outside.random).hyphenated

/-- That a visit goes on without taking anything from an answer. -/
structure Wanders (before after : Visit) : Prop where
  state : before.state.Roams after.state
  storage : before.storage.LosesReferrer after.storage
  settings : after.settings = before.settings

/-- A visit that differs from another one by plain changes of the state at most. -/
theorem wanders_of_roams {before after : Visit} (roams : before.state.Roams after.state)
    (storage : after.storage = before.storage) (settings : after.settings = before.settings) :
    before.Wanders after where
  state := roams
  storage := storage ▸ .refl
  settings := settings

theorem Wanders.refl (visit : Visit) : visit.Wanders visit :=
  wanders_of_roams .refl rfl rfl

/-- Wandering can be chained. -/
theorem Wanders.trans {first middle last : Visit} (before : first.Wanders middle)
    (after : middle.Wanders last) : first.Wanders last where
  state := before.state.trans after.state
  storage := before.storage.trans after.storage
  settings := after.settings.trans before.settings

/-- What stays apart from the visitor wanders. -/
theorem Apart.wanders {before after : Visit} (apart : before.Apart after) :
    before.Wanders after where
  state := apart.state ▸ .refl
  storage := apart.storage
  settings := apart.settings

/-- Telling an event is wandering. -/
theorem wanders_emit (visit : Visit) (event : Event) : visit.Wanders (visit.emit event) := by
  unfold emit
  split
  · exact wanders_of_roams .refl rfl rfl
  · exact .refl visit

/-- A plain change is wandering. -/
theorem wanders_apply (visit : Visit) {change : Change} (plain : change.isPlain = true) :
    visit.Wanders (visit.apply change) :=
  wanders_of_roams (.of_change visit.state plain) rfl rfl

/-- Asking the outside is wandering. -/
theorem wanders_inquire (visit : Visit) (inquiry : Inquiry) :
    visit.Wanders (visit.inquire inquiry) :=
  wanders_of_roams .refl rfl rfl

/-! ## Answers -/

/-- Whether nothing of an answer goes into the state: because it is none about the visitor, or it
comes too late, or it is a refusal, or the slots do not take the id of the record. -/
def Ignores (visit : Visit) : Cue → Prop
  | .answer (.service (.fetchVisitor id)) (.ok visitor) =>
      visitor.id ≠ id ∧ ((RememberedId.persist visitor.id).on visit.storage).1 ≠ .ok ()
  | .answer (.service (.connectWallet id address)) answer =>
      visit.state.isCurrent id address = true → ∃ reason, LinkDecision.ofAnswer answer =
        .refused reason
  | .answer (.service (.linkWallet id request)) (.ok _) =>
      visit.state.isCurrent id request.address = false
  | .answer (.service (.unlinkWallet id _ _)) (.ok _)
  | .answer (.service (.setPrimaryWallet id _)) (.ok _)
  | .answer (.service (.logIn id)) (.ok _)
  | .answer (.service (.logOut id)) (.ok _) => visit.state.visitorId? ≠ some id
  | _ => True

/-- What becomes of the state and of the slots when an operation goes on. -/
inductive Receives (visit : Visit) : Cue → State → Storage → Prop
  | ignored {cue : Cue} (ignores : visit.Ignores cue) :
      Receives visit cue visit.state visit.storage
  | recalled : Receives visit .go visit.state
      ((RememberedId.loadOrCreate visit.freshId).on visit.storage).2
  | confirmed {id : String} {visitor : Visitor} (same : visitor.id = id) :
      Receives visit (.answer (.service (.fetchVisitor id)) (.ok visitor))
        (visit.state.apply (.load visitor)) visit.storage
  | adopted {id : String} {visitor : Visitor} (other : visitor.id ≠ id)
      (keeps : ((RememberedId.persist visitor.id).on visit.storage).1 = .ok ()) :
      Receives visit (.answer (.service (.fetchVisitor id)) (.ok visitor))
        (visit.state.apply (.load visitor))
        ((RememberedId.persist visitor.id).on visit.storage).2
  | unadopted {id : String} {visitor : Visitor} (other : visitor.id ≠ id)
      (fails : ((RememberedId.persist visitor.id).on visit.storage).1 ≠ .ok ()) :
      Receives visit (.answer (.service (.fetchVisitor id)) (.ok visitor)) visit.state
        ((RememberedId.persist visitor.id).on visit.storage).2
  | required {id address owner : String} {answer : Except ApiError ConnectAnswer}
      (current : visit.state.isCurrent id address = true)
      (decided : LinkDecision.ofAnswer answer = .loginRequired owner) :
      Receives visit (.answer (.service (.connectWallet id address)) answer)
        (visit.state.apply (.requireLogin address owner)) visit.storage
  | linked {id address : String} {answer : Except ApiError ConnectAnswer}
      {visitor : Option Visitor} (current : visit.state.isCurrent id address = true)
      (decided : LinkDecision.ofAnswer answer = .linked visitor) :
      Receives visit (.answer (.service (.connectWallet id address)) answer)
        (visit.state.apply (.link visitor)) visit.storage
  | proved {id : String} {request : LinkRequest} {answer : LinkAnswer}
      (current : visit.state.isCurrent id request.address = true) :
      Receives visit (.answer (.service (.linkWallet id request)) (.ok answer))
        (visit.state.apply (.verify answer.visitor))
        (if answer.swaps id && visit.settings.remembersSwap then
          ((RememberedId.persist answer.visitor.id).on visit.storage).2
        else visit.storage)
  | unlinked {id address : String} {request : UnlinkRequest} {visitor : Visitor}
      (loaded : visit.state.visitorId? = some id) :
      Receives visit (.answer (.service (.unlinkWallet id address request)) (.ok visitor))
        (visit.state.apply (.load visitor)) visit.storage
  | marked {id address : String} {visitor : Visitor} (loaded : visit.state.visitorId? = some id) :
      Receives visit (.answer (.service (.setPrimaryWallet id address)) (.ok visitor))
        (visit.state.apply (.load visitor)) visit.storage
  | loggedIn {id : String} {visitor : Visitor} (loaded : visit.state.visitorId? = some id) :
      Receives visit (.answer (.service (.logIn id)) (.ok visitor))
        (visit.state.apply (.logIn visitor)) visit.storage
  | loggedOut {id : String} {visitor : Visitor} (loaded : visit.state.visitorId? = some id) :
      Receives visit (.answer (.service (.logOut id)) (.ok visitor))
        (visit.state.apply (.logOut visitor)) visit.storage

/-- That a visit came from another one after a cue, by what it takes from the answer and then
without taking anything else. -/
def Follows (first : Visit) (cue : Cue) (last : Visit) : Prop :=
  ∃ state storage, first.Receives cue state storage ∧
    Wanders { first with state := state, storage := storage } last

variable {first middle last : Visit} {cue : Cue}

/-- What an answer brings is followed wherever the visit wanders then. -/
theorem Receives.follows {state : State} {storage : Storage}
    (receives : first.Receives cue state storage)
    (wanders : Wanders { first with state := state, storage := storage } last) :
    first.Follows cue last :=
  ⟨state, storage, receives, wanders⟩

/-- What follows a cue may wander on. -/
theorem Follows.wanders (follows : first.Follows cue middle) (wanders : middle.Wanders last) :
    first.Follows cue last := by
  obtain ⟨state, storage, receives, before⟩ := follows
  exact ⟨state, storage, receives, before.trans wanders⟩

/-- A visit that ignores a cue follows it as it is. -/
theorem Ignores.follows {visit : Visit} (ignores : visit.Ignores cue) : visit.Follows cue visit :=
  (Receives.ignored ignores).follows (.refl visit)

/-- Without an answer, a visit follows as it is. -/
theorem follows_go (visit : Visit) : visit.Follows .go visit :=
  Ignores.follows trivial

end Visit

end VisitorLink
