import VisitorLink.Proofs.Errand.Laws
import VisitorLink.Proofs.Visit.Linking
import VisitorLink.Visit.Operation

/-!
# The addresses that were tried

A visit takes note of an address when it asks the service to link it, and does not ask again until
the address is forgotten. `Visit.Forgets` lists what makes a visit forget an address. The law
`Operation.Attempts` says of a piece that it does nothing else to the addresses tried.
-/

namespace VisitorLink

/-! ## Accepted signatures -/

/-- Whether the visit goes on as another visitor after a signature that was given as the visitor
with the given id. -/
def LinkAnswer.swaps (answer : LinkAnswer) (id : String) : Bool :=
  answer.swapped || answer.visitor.id != id

/-- An answer swaps the visitor unless it says that it does not and brings the same id. -/
theorem LinkAnswer.not_swaps_eq (answer : LinkAnswer) (id : String) :
    (!answer.swapped && answer.visitor.id == id) = !answer.swaps id := by
  simp [swaps, bne]

@[simp] theorem Visit.emit_attempted (visit : Visit) (event : Event) :
    (visit.emit event).attempted = visit.attempted := by
  unfold emit
  split <;> rfl

@[simp] theorem Visit.apply_attempted (visit : Visit) (change : Change) :
    (visit.apply change).attempted = visit.attempted := rfl

namespace Errand

/-- That a piece stops at the call that asks the service to link an address. -/
def AsksToLink {α : Type} (address : String) : Paused α → Prop
  | .calling (.service (.connectWallet _ other)) _ => other = address
  | _ => False

end Errand

/-! ## Forgetting -/

/-- What makes a visit forget that the service was asked to link an address: giving up the
connection, a log-out, going on as another visitor, the removal of the wallet with this address, and
the refusal to link it. The last three count only if they do not come too late. -/
inductive Visit.Forgets (visit : Visit) (address : String) : Operation → Cue → Prop
  | disconnect : Forgets visit address .disconnect .go
  | cancelLogin : Forgets visit address .cancelLogin .go
  | logOut {operation : Operation} {id : String} {visitor : Visitor} :
      Forgets visit address operation (.answer (.service (.logOut id)) (.ok visitor))
  | swap {operation : Operation} {id : String} {request : LinkRequest} {answer : LinkAnswer}
      (current : visit.state.isCurrent id request.address = true) (swaps : answer.swaps id = true) :
      Forgets visit address operation (.answer (.service (.linkWallet id request)) (.ok answer))
  | unlink {operation : Operation} {id : String} {request : UnlinkRequest} {visitor : Visitor}
      (current : visit.state.visitorId? = some id) :
      Forgets visit address operation
        (.answer (.service (.unlinkWallet id address request)) (.ok visitor))
  | refuse {operation : Operation} {id reason : String} {answer : Except ApiError ConnectAnswer}
      (current : visit.state.isCurrent id address = true)
      (refused : LinkDecision.ofAnswer answer = .refused reason) :
      Forgets visit address operation (.answer (.service (.connectWallet id address)) answer)

namespace Visit

variable {visit : Visit} {operation : Operation} {id address other : String}

/-- A decision forgets its own address, if it is a refusal in time. -/
theorem forgets_refuse_iff (answer : Except ApiError ConnectAnswer) :
    visit.Forgets other operation (.answer (.service (.connectWallet id address)) answer) ↔
      other = address ∧ visit.state.isCurrent id address = true ∧
        ∃ reason, LinkDecision.ofAnswer answer = .refused reason := by
  constructor
  · rintro ⟨⟩
    exact ⟨rfl, ‹_›, _, ‹_›⟩
  · rintro ⟨rfl, current, reason, refused⟩
    exact .refuse current refused

/-- An accepted signature forgets every address, if it swaps the visitor in time. -/
theorem forgets_swap_iff {request : LinkRequest} (answer : Except ApiError LinkAnswer) :
    visit.Forgets other operation (.answer (.service (.linkWallet id request)) answer) ↔
      visit.state.isCurrent id request.address = true ∧
        ∃ accepted, answer = .ok accepted ∧ accepted.swaps id = true := by
  constructor
  · rintro ⟨⟩
    exact ⟨‹_›, _, rfl, ‹_›⟩
  · rintro ⟨current, accepted, rfl, swaps⟩
    exact .swap current swaps

/-- A removal forgets its own address, if its visitor is still loaded. -/
theorem forgets_unlink_iff {request : UnlinkRequest} (answer : Except ApiError Visitor) :
    visit.Forgets other operation
        (.answer (.service (.unlinkWallet id address request)) answer) ↔
      other = address ∧ visit.state.visitorId? = some id ∧ ∃ visitor, answer = .ok visitor := by
  constructor
  · rintro ⟨⟩
    exact ⟨rfl, ‹_›, _, rfl⟩
  · rintro ⟨rfl, current, visitor, rfl⟩
    exact .unlink current

end Visit

/-- That a wallet is connected that the visitor's record does not have. -/
structure State.Lacks (state : State) (id address : String) : Prop where
  current : state.isCurrent id address = true
  missing : ∀ visitor, state.visitor = some visitor → visitor.wallet? address = none

/-- A link request for a wallet that the record lacks ends as repeated if the address was tried. -/
theorem Errand.run_link_attempted_iff {visit : Visit} {id address : String}
    (lacks : visit.state.Lacks id address) :
    run link visit = (.finished (.ok .attempted), visit) ↔ address ∈ visit.attempted := by
  obtain ⟨loaded, connected⟩ := State.isCurrent_iff.1 lacks.current
  obtain ⟨visitor, known, _⟩ := Option.map_eq_some_iff.1 loaded
  rw [run_link, known, connected]
  dsimp only
  rw [lacks.missing visitor known]
  dsimp only
  split
  case isTrue tried => exact ⟨fun _ => tried, fun _ => rfl⟩
  case isFalse untried => exact ⟨nofun, fun tried => absurd tried untried⟩

namespace Operation

open Errand

/-- What a piece of an operation does to the addresses tried. -/
structure Attempts (operation : Operation) (cue : Cue) (before : Visit)
    (piece : Errand.Paused Outcome × Visit) : Prop where
  mem_iff (address : String) : address ∈ piece.2.attempted ↔
    (address ∈ before.attempted ∧ ¬ before.Forgets address operation cue) ∨
      AsksToLink address piece.1
  fresh (address : String) : AsksToLink address piece.1 → address ∉ before.attempted
  /-- The piece ends because the service has been asked already. -/
  repeats : piece.1 = .finished (.link (.ok .attempted)) →
    ∃ id address, piece.2.state.Lacks id address ∧ address ∈ before.attempted

variable {operation : Operation} {cue : Cue} {before : Visit}
  {piece : Errand.Paused Outcome × Visit}

/-- A piece that neither asks the service to link an address nor ends because of an earlier call. -/
theorem Attempts.of_mem_iff
    (mem : ∀ address, address ∈ piece.2.attempted ↔
      address ∈ before.attempted ∧ ¬ before.Forgets address operation cue)
    (silent : ∀ address, ¬ AsksToLink address piece.1)
    (fresh : piece.1 ≠ .finished (.link (.ok .attempted))) :
    operation.Attempts cue before piece where
  mem_iff address := by simp only [mem, silent, or_false]
  fresh address asks := absurd asks (silent address)
  repeats ends := absurd ends fresh

/-- A request to link adds its address to those tried. -/
theorem Attempts.asks {id address : String}
    {next : Except ApiError ConnectAnswer → Errand Outcome} {after : Visit}
    (remembers : ∀ address, ¬ before.Forgets address operation cue)
    (untried : address ∉ before.attempted) (noted : after.attempted = address :: before.attempted) :
    operation.Attempts cue before
      (.calling (.service (.connectWallet id address)) next, after) where
  mem_iff other := by
    simp only [noted, List.mem_cons, remembers, not_false_eq_true, and_true, AsksToLink]
    rw [or_comm, eq_comm]
  fresh other := by
    rintro rfl
    exact untried
  repeats ends := nomatch ends

theorem Attempts.repeated {id address : String} {after : Visit}
    (remembers : ∀ address, ¬ before.Forgets address operation cue)
    (kept : after.attempted = before.attempted) (lacks : after.state.Lacks id address)
    (tried : address ∈ before.attempted) :
    operation.Attempts cue before (.finished (.link (.ok .attempted)), after) where
  mem_iff other := by
    simp only [kept, remembers, not_false_eq_true, and_true, AsksToLink, or_false]
  fresh other asks := asks.elim
  repeats _ := ⟨id, address, lacks, tried⟩

end Operation

end VisitorLink
