import VisitorLink.Proofs.Errand.Pieces
import VisitorLink.Proofs.Visit.Effect

/-!
# Laws that errands observe

A law says what a piece of an errand may do, by what has set it going: how it moves the visit, what
it asks for and what it ends with. An errand observes a law if each of its pieces does, whatever the
answers are and whatever happens to the visit during the waits.

Main statement: a piece of an errand that observes a law falls under it, and what is left of the
errand observes it as well (`ObservesFrom.run`).
-/

namespace VisitorLink.Errand

variable {α β : Type}

/-- What a piece may do that a cue has set going with a visit. -/
abbrev Law (α : Type) : Type := Cue → Visit → Paused α × Visit → Prop

/-- That an errand observes a law in the midst of a piece, which a cue has set going with the visit
`first`, and in all pieces that follow. -/
def ObservesFrom (law : Law α) : Cue → Visit → Errand α → Visit → Prop
  | cue, first, .done result, visit => law cue first (.finished result, visit)
  | cue, first, .look next, visit => ObservesFrom law cue first (next visit) visit
  | cue, first, .set state next, _ => ObservesFrom law cue first next state
  | cue, first, .call asked next, visit =>
      law cue first (.calling asked next, visit) ∧
        ∀ answer later, ObservesFrom law (.answer asked answer) later (next answer) later
  | cue, first, .sleep wakeUp next, visit =>
      law cue first (.sleeping wakeUp next, visit) ∧ ObservesFrom law cue first next visit ∧
        ∀ later, ObservesFrom law .go later next later

/-- That what is left of an errand observes a law. -/
def Upholds (law : Law α) : Paused α → Prop
  | .finished _ => True
  | .calling call next => ∀ answer later, ObservesFrom law (.answer call answer) later (next answer)
      later
  | .sleeping _ next => ∀ later, ObservesFrom law .go later next later

variable {law : Law α} {law' : Law β} {cue : Cue} {first visit : Visit}

/-- An errand that observes a law does so in its first piece and in what is left of it. -/
theorem ObservesFrom.run {errand : Errand α} (observes : ObservesFrom law cue first errand visit) :
    law cue first (errand.run visit) ∧ Upholds law (errand.run visit).1 := by
  induction errand generalizing visit with
  | done result => exact ⟨observes, trivial⟩
  | look next ih => exact ih visit observes
  | set changed next ih => exact ih observes
  | call asked next ih => exact observes
  | sleep wakeUp next ih =>
      by_cases due : wakeUp ≤ visit.clock
      · rw [run_sleep_of_due due]
        exact ih observes.2.1
      · rw [run_sleep_of_not_due due]
        exact ⟨observes.1, observes.2.2⟩

/-! ## From what all pieces keep -/

section Keeps

variable (Moves : Visit → Visit → Prop) (Asks : Call → Prop) (Ends : α → Prop)

/-- That a piece stops at an allowed call, with an allowed result, or at a time with the rest of the
errand as allowed. -/
def StopsAt : Paused α → Prop
  | .finished result => Ends result
  | .calling call _ => Asks call
  | .sleeping _ next => Keeps Moves Asks Ends next

/-- That a cue may set a piece going after an earlier one has stopped at an allowed call or at a
time. -/
def CueFollows : Cue → Prop
  | .go => True
  | .answer call _ => Asks call

variable {Moves Asks Ends}

/-- An errand observes a law if what its pieces keep is lawful, both in the rest of the present
piece and in any later one. -/
theorem ObservesFrom.of_keepsFrom {errand : Errand α} {middle : Visit}
    (keeps : KeepsFrom Moves Asks Ends middle errand visit)
    (now : ∀ piece, Moves middle piece.2 → StopsAt Moves Asks Ends piece.1 → law cue first piece)
    (later : ∀ cue before piece, CueFollows Asks cue → Moves before piece.2 →
      StopsAt Moves Asks Ends piece.1 → law cue before piece) :
    ObservesFrom law cue first errand visit := by
  induction errand generalizing cue first middle visit with
  | done result => exact now _ keeps.1 keeps.2
  | look next ih => exact ih visit keeps now
  | set changed next ih => exact ih keeps now
  | call asked next ih =>
      exact ⟨now _ keeps.1 keeps.2.1, fun answer after =>
        ih answer (keeps.2.2 answer after) (later _ _ · keeps.2.1)⟩
  | sleep wakeUp next ih =>
      exact ⟨now _ keeps.1 keeps.2.2, ih keeps.2.1 now, fun after =>
        ih (keeps.2.2 after) (later _ _ · trivial)⟩

end Keeps

/-! ## Steps -/

theorem observesFrom_pure_bind (result : α) (rest : α → Errand β) :
    ObservesFrom law' cue first (pure result >>= rest) visit ↔
      ObservesFrom law' cue first (rest result) visit := Iff.rfl

/-- To read the visit is to go on with it. -/
theorem observesFrom_visit_bind (rest : Visit → Errand β) :
    ObservesFrom law' cue first (Errand.visit >>= rest) visit ↔
      ObservesFrom law' cue first (rest visit) visit := Iff.rfl

/-- To change the visit is to go on with the changed one. -/
theorem observesFrom_modify_bind (change : Visit → Visit) (rest : Unit → Errand β) :
    ObservesFrom law' cue first (modify change >>= rest) visit ↔
      ObservesFrom law' cue first (rest ()) (change visit) := Iff.rfl

/-- To change the tracker is to go on with the changed one. -/
theorem observesFrom_track_bind (change : Tracker → Tracker) (rest : Unit → Errand β) :
    ObservesFrom law' cue first (track change >>= rest) visit ↔
      ObservesFrom law' cue first (rest ()) { visit with tracker := change visit.tracker } :=
  Iff.rfl

/-- To apply a change is to go on with the changed state. -/
theorem observesFrom_apply_bind (change : Change) (rest : Unit → Errand β) :
    ObservesFrom law' cue first (apply change >>= rest) visit ↔
      ObservesFrom law' cue first (rest ()) (visit.apply change) := Iff.rfl

/-- To tell an event is to go on when it is told. -/
theorem observesFrom_emit_bind (event : Event) (rest : Unit → Errand β) :
    ObservesFrom law' cue first (emit event >>= rest) visit ↔
      ObservesFrom law' cue first (rest ()) (visit.emit event) := Iff.rfl

/-- To notify is to go on when the notice is told. -/
theorem observesFrom_notify_bind (level : NoticeLevel) (message : String)
    (rest : Unit → Errand β) :
    ObservesFrom law' cue first (notify level message >>= rest) visit ↔
      ObservesFrom law' cue first (rest ()) (visit.emit (.notice level message)) := Iff.rfl

/-- An operation on the slots goes on with its result and the slots it has left. -/
theorem observesFrom_slots_bind (operation : StorageM α) (rest : Except StorageError α → Errand β) :
    ObservesFrom law' cue first (slots operation >>= rest) visit ↔
      ObservesFrom law' cue first (rest (operation.on visit.storage).1)
        { visit with storage := (operation.on visit.storage).2 } := Iff.rfl

/-- To look for the provider is to go on with what the outside has. -/
theorem observesFrom_lookForProvider_bind (rest : Bool → Errand β) :
    ObservesFrom law' cue first (lookForProvider >>= rest) visit ↔
      ObservesFrom law' cue first (rest visit.outside.providerPresent) (visit.inquire .detect) :=
  Iff.rfl

/-- To look at the shown address is to go on with it, if there is a provider. -/
theorem observesFrom_shownIf_bind (present : Bool) (rest : Option String → Errand β) :
    ObservesFrom law' cue first (shownIf present >>= rest) visit ↔
      ObservesFrom law' cue first (rest (if present then visit.shownAddress? else none)) visit :=
  Iff.rfl

/-- To check whether an answer is in time is to go on with the check. -/
theorem observesFrom_isCurrent_bind (id address : String) (rest : Bool → Errand β) :
    ObservesFrom law' cue first (isCurrent id address >>= rest) visit ↔
      ObservesFrom law' cue first (rest (visit.state.isCurrent id address)) visit := Iff.rfl

/-- To check whether a visitor is loaded is to go on with the check. -/
theorem observesFrom_isVisitor_bind (id : String) (rest : Bool → Errand β) :
    ObservesFrom law' cue first (isVisitor id >>= rest) visit ↔
      ObservesFrom law' cue first (rest (visit.state.visitorId? == some id)) visit := Iff.rfl

/-- To sleep is to pause, and to go on in the same piece or when woken. -/
theorem observesFrom_sleep_bind (wakeUp : Nat) (rest : Unit → Errand β) :
    ObservesFrom law' cue first ((.sleep wakeUp (.done ()) : Errand Unit) >>= rest) visit ↔
      law' cue first (.sleeping wakeUp (rest ()), visit) ∧
        ObservesFrom law' cue first (rest ()) visit ∧
        ∀ later, ObservesFrom law' .go later (rest ()) later := Iff.rfl

/-- To ask the service is to pause, and to go on with any answer in any visit. -/
theorem observesFrom_askService_bind (asked : ServiceCall) (rest : asked.Answer → Errand β) :
    ObservesFrom law' cue first (askService asked >>= rest) visit ↔
      law' cue first (.calling (.service asked) rest, visit.inquire (.call (.service asked))) ∧
        ∀ (answer : asked.Answer) later,
          ObservesFrom law' (.answer (.service asked) answer) later (rest answer) later := Iff.rfl

end VisitorLink.Errand
