import VisitorLink.Proofs.Visit.Answers
import VisitorLink.Proofs.Visitor.Remembered

/-!
# The id in the slots and the id of the visitor

Applying an answer keeps the id of the visitor in both slots, provided that the slots do not fail
and that the answer does not confirm an id that has left the slots since it was asked about.

Main statements: `Visit.Receives.stored`, and that what is found in the slots changes only when the
visit goes on as another visitor (`Visit.Receives.displaces`).
-/

namespace VisitorLink

namespace Storage.LosesReferrer

variable {before after : Storage}

/-- Losing the first referrer makes no difference to the remembered id. -/
theorem keeps (loses : before.LosesReferrer after) (faultless : before.Faultless) :
    after.Faultless ∧ ∀ id, after.Remembers id ↔ before.Remembers id := by
  induction loses with
  | refl => exact ⟨faultless, fun id => .rfl⟩
  | @tail middle after loses removes ih =>
      obtain ⟨entries, holds⟩ := ih.1.holds
      obtain ⟨after', removed, holds'⟩ := holds.removeText .cookies referrerKey
      rw [removed] at removes
      subst removes
      refine ⟨holds'.faultless, fun id => Iff.trans ?_ (ih.2 id)⟩
      rw [holds'.remembers_iff, holds.remembers_iff]
      refine forall_congr' fun slot => ?_
      rw [Function.update_apply]
      split
      case isTrue here =>
        subst here
        rw [Entries.get?_erase, if_neg (by decide : RememberedId.key ≠ referrerKey)]
      case isFalse => exact .rfl

end Storage.LosesReferrer

/-! ## Answers of the service -/

/-- Whether the ids in an answer are what they should be: valid ones, where the record may be that
of any visitor, and the one asked about, where it may not. -/
def Cue.Faithful : Cue → Prop
  | .answer (.service (.fetchVisitor _)) (.ok visitor) => VisitorId.Valid visitor.id
  | .answer (.service (.linkWallet _ _)) (.ok accepted) => VisitorId.Valid accepted.visitor.id
  | .answer (.service (.connectWallet id _)) (.ok decision) =>
      ∀ visitor, decision.visitor = some visitor → visitor.id = id
  | .answer (.service (.unlinkWallet id _ _)) (.ok visitor)
  | .answer (.service (.setPrimaryWallet id _)) (.ok visitor)
  | .answer (.service (.logIn id)) (.ok visitor)
  | .answer (.service (.logOut id)) (.ok visitor) => visitor.id = id
  | _ => True

theorem LinkDecision.eq_visitor_of_linked {received : Except ApiError ConnectAnswer}
    {visitor : Option Visitor} (decided : ofAnswer received = .linked visitor) :
    ∃ answer, received = .ok answer ∧ answer.visitor = visitor := by
  cases received with
  | error error => cases decided
  | ok answer =>
      change (if answer.loginRequired then _ else if answer.success then _ else _) = _ at decided
      split at decided
      · split at decided <;> cases decided
      · split at decided
        · exact ⟨answer, rfl, LinkDecision.linked.inj decided⟩
        · cases decided

/-- Whether an answer holds the record of the id that was asked about. -/
def Cue.Confirms (id : String) : Cue → Prop
  | .answer (.service (.fetchVisitor asked)) (.ok visitor) => asked = id ∧ visitor.id = id
  | _ => False

theorem Cue.Confirms.eq_answer {id : String} {cue : Cue} (confirms : cue.Confirms id) :
    ∃ visitor, visitor.id = id ∧
      cue = .answer (.service (.fetchVisitor id)) (.ok visitor) := by
  unfold Confirms at confirms
  split at confirms
  case h_1 asked visitor =>
    obtain ⟨rfl, same⟩ := confirms
    exact ⟨visitor, same, rfl⟩
  case h_2 => exact confirms.elim

/-! ## Visits -/

/-- That both slots hold the id of the visitor, if it is known who that is. -/
def State.Stored (state : State) (storage : Storage) : Prop :=
  ∀ id, state.visitorId? = some id → VisitorId.Valid id ∧ storage.Remembers id

namespace Visit

variable {visit before after : Visit} {cue : Cue} {state : State} {storage : Storage}

theorem Wanders.visitorId? (wanders : before.Wanders after) :
    after.state.visitorId? = before.state.visitorId? :=
  congrArg (·.map Visitor.id) wanders.state.visitor

theorem valid_freshId (visit : Visit) : VisitorId.Valid visit.freshId :=
  VisitorId.valid_hyphenated_ofRandom visit.outside.random

theorem Receives.faultless (receives : visit.Receives cue state storage)
    (faultless : visit.storage.Faultless) : storage.Faultless := by
  have persists (id : String) : ((RememberedId.persist id).on visit.storage).2.Faultless := by
    obtain ⟨after, persists, faultless', _⟩ := faultless.persist_on id
    rwa [persists]
  cases receives with
  | recalled =>
      obtain ⟨id, after, recalls, _, faultless', _⟩ := faultless.loadOrCreate_on visit.valid_freshId
      rwa [recalls]
  | adopted | unadopted => exact persists _
  | proved =>
      split
      · exact persists _
      · exact faultless
  | _ => exact faultless

/-- Applying an answer keeps the id of the visitor in both slots, unless the answer confirms an id
that is not there. -/
theorem Receives.stored (receives : visit.Receives cue state storage)
    (faultless : visit.storage.Faultless) (remembersSwap : visit.settings.remembersSwap = true)
    (faithful : cue.Faithful) (present : ∀ id, cue.Confirms id → visit.storage.Remembers id)
    (stored : visit.state.Stored visit.storage) : state.Stored storage := by
  -- A record of the visitor that the request was made for changes nothing.
  have sameId {asked : String} {visitor : Visitor} (loaded : visit.state.visitorId? = some asked)
      (same : visitor.id = asked) {state : State} (taken : state.visitor = some visitor) :
      state.Stored visit.storage := by
    intro id known
    refine stored id (loaded.trans ?_)
    rw [← known, ← same]
    exact (congrArg (·.map Visitor.id) taken).symm
  have persists {visitor : Visitor} (valid : VisitorId.Valid visitor.id) {state : State}
      (taken : state.visitor = some visitor) :
      state.Stored ((RememberedId.persist visitor.id).on visit.storage).2 := by
    obtain ⟨after, persists, _, remembers⟩ := faultless.persist_on visitor.id
    intro id known
    rw [← Option.some.inj ((congrArg (·.map Visitor.id) taken).symm.trans known), persists]
    exact ⟨valid, remembers⟩
  cases receives with
  | ignored | required => exact stored
  | recalled =>
      intro id known
      obtain ⟨valid, remembers⟩ := stored id known
      rw [remembers.loadOrCreate_on valid]
      exact ⟨valid, remembers⟩
  | @confirmed asked visitor same =>
      intro id known
      cases Option.some.inj known
      exact ⟨faithful, present _ ⟨same.symm, rfl⟩⟩
  | adopted other keeps => exact persists faithful rfl
  | unadopted other fails => exact absurd (faultless.persists _) fails
  | @linked asked address received visitor current decided =>
      obtain ⟨answer, rfl, rfl⟩ := LinkDecision.eq_visitor_of_linked decided
      cases told : answer.visitor with
      | none => exact stored
      | some visitor => exact sameId (State.isCurrent_iff.1 current).1 (faithful visitor told) rfl
  | @proved asked request answer current =>
      split
      case isTrue => exact persists faithful rfl
      case isFalse stays =>
        have same : answer.visitor.id = asked := by
          have kept := answer.not_swaps_eq asked
          rw [remembersSwap, Bool.and_true] at stays
          rw [Bool.eq_false_iff.2 stays, Bool.not_false, Bool.and_eq_true, beq_iff_eq] at kept
          exact kept.2
        exact sameId (State.isCurrent_iff.1 current).1 same rfl
  | unlinked loaded => exact sameId loaded faithful rfl
  | marked loaded => exact sameId loaded faithful rfl
  | loggedIn loaded => exact sameId loaded faithful rfl
  | loggedOut loaded => exact sameId loaded faithful rfl

/-- The id that both slots hold is displaced only by that of the visitor as whom the visit goes
on. -/
theorem Receives.displaces (receives : visit.Receives cue state storage)
    (faultless : visit.storage.Faultless) {id : String} (valid : VisitorId.Valid id)
    (held : visit.storage.Remembers id) :
    storage.Remembers id ∨
      ∃ other, other ≠ id ∧ state.visitorId? = some other ∧ storage.Remembers other := by
  have persists {visitor : Visitor} (same : state.visitorId? = some visitor.id) :
      ((RememberedId.persist visitor.id).on visit.storage).2.Remembers id ∨
        ∃ other, other ≠ id ∧ state.visitorId? = some other ∧
          ((RememberedId.persist visitor.id).on visit.storage).2.Remembers other := by
    obtain ⟨after, persists, _, remembers⟩ := faultless.persist_on visitor.id
    rw [persists]
    rcases Decidable.em (visitor.id = id) with rfl | different
    · exact .inl remembers
    · exact .inr ⟨visitor.id, different, same, remembers⟩
  cases receives with
  | recalled =>
      rw [held.loadOrCreate_on valid]
      exact .inl held
  | adopted => exact persists rfl
  | unadopted other fails => exact absurd (faultless.persists _) fails
  | proved =>
      split
      · exact persists rfl
      · exact .inl held
  | _ => exact .inl held

end Visit

end VisitorLink
