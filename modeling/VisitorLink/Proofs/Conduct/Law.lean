import VisitorLink.Proofs.Visit.Failures
import VisitorLink.Proofs.Visit.Steadiness
import VisitorLink.Proofs.Visit.Turns

/-!
# The law of conduct

All operations keep to one law: what their pieces do to the addresses tried is in order
(`Operation.Attempts`), a verification stays under way (`State.Steady`) unless the piece answers it,
and a failure spares the visit (`Operation.Failure`). Most pieces are calm: they have nothing to do
with any of this.
-/

namespace VisitorLink

open Errand

/-- Whether an operation has ended because the service was asked to link the address before. -/
def Outcome.isRepeated : Outcome → Bool
  | .link (.ok .attempted) => true
  | _ => false

namespace Operation

/-- Whether an operation that verifies a wallet is set going by an answer about it. -/
def isProof : Operation → Cue → Bool
  | .verify, cue | .verifyAndFollow _, cue => cue.isProof
  | _, _ => false

/-- That what is left of an operation does not end as a failure. -/
abbrev NeverFails (errand : Errand Outcome) : Prop :=
  Keeps (fun _ _ => True) (fun _ => True) (fun outcome => outcome.isFailure = false) errand

/-- What holds of every piece of an operation. -/
structure Conduct (operation : Operation) (cue : Cue) (before : Visit)
    (piece : Errand.Paused Outcome × Visit) : Prop where
  attempts : operation.Attempts cue before piece
  steady : operation.isProof cue = false → before.state.Steady piece.2.state
  failure : ∀ outcome, piece.1 = .finished outcome → outcome.isFailure = true →
    operation.Failure cue before piece.2
  woken : ∀ wakeUp next, piece.1 = .sleeping wakeUp next → NeverFails next

/-! ## Calm pieces -/

/-- Whether a piece ends well, other than because the service has been asked already, or with a call
other than one to link an address. -/
def isCalm : Errand.Paused Outcome → Bool
  | .finished outcome => !outcome.isFailure && !outcome.isRepeated
  | .calling (.service (.connectWallet _ _)) _ | .sleeping _ _ => false
  | .calling _ _ => true

/-- What ends calmly does not ask to link an address. -/
theorem not_asksToLink_of_isCalm {paused : Errand.Paused Outcome} (calm : isCalm paused = true)
    (address : String) : ¬ AsksToLink address paused := by
  cases paused with
  | calling call next =>
      cases call with
      | service call =>
          cases call with
          | connectWallet => cases calm
          | _ => exact id
      | provider call => exact id
  | _ => exact id

/-- What ends calmly has not failed. -/
theorem not_isFailure_of_isCalm {outcome : Outcome} (calm : isCalm (.finished outcome) = true) :
    outcome.isFailure = false := by
  cases failing : outcome.isFailure with
  | false => rfl
  | true =>
      rw [isCalm, failing] at calm
      cases calm

variable {operation : Operation} {cue : Cue} {first visit : Visit}

/-- That a piece has come to a visit with the addresses tried in order, whatever it forgot. -/
structure Settles (operation : Operation) (cue : Cue) (first visit : Visit) : Prop where
  mem_iff (address : String) : address ∈ visit.attempted ↔
    address ∈ first.attempted ∧ ¬ first.Forgets address operation cue
  steady : operation.isProof cue = false → first.state.Steady visit.state

/-- A piece that has settled and ends calmly observes the law. -/
theorem Settles.calm (settles : operation.Settles cue first visit)
    {paused : Errand.Paused Outcome} (calm : isCalm paused = true) :
    operation.Conduct cue first (paused, visit) where
  attempts := by
    refine .of_mem_iff settles.mem_iff (not_asksToLink_of_isCalm calm) ?_
    rintro rfl
    cases calm
  steady := settles.steady
  failure outcome ends failing := by
    cases ends
    cases failing.symm.trans (not_isFailure_of_isCalm calm)
  woken := by
    rintro wakeUp next rfl
    cases calm

/-- A piece that has settled may sleep if what is left does not fail. -/
theorem Settles.sleeps (settles : operation.Settles cue first visit) {next : Errand Outcome}
    (neverFails : NeverFails next) (wakeUp : Nat) :
    operation.Conduct cue first (.sleeping wakeUp next, visit) where
  attempts := .of_mem_iff settles.mem_iff (fun _ => id) nofun
  steady := settles.steady
  failure _ ends := nomatch ends
  woken := by
    rintro _ _ ⟨⟩
    exact neverFails

/-- A piece that has settled may fail in one of the ways that the law names. -/
theorem Settles.fails (settles : operation.Settles cue first visit) {outcome : Outcome}
    (failing : outcome.isFailure = true) (failure : operation.Failure cue first visit) :
    operation.Conduct cue first (.finished outcome, visit) where
  attempts := by
    refine .of_mem_iff settles.mem_iff (fun _ => id) ?_
    rintro ⟨⟩
    cases failing
  steady := settles.steady
  failure _ _ _ := failure
  woken := nofun

/-- That a piece has come to a visit without touching the addresses tried. -/
structure Midway (operation : Operation) (cue : Cue) (first visit : Visit) : Prop where
  remembers : ∀ address, ¬ first.Forgets address operation cue
  attempted : visit.attempted = first.attempted
  steady : operation.isProof cue = false → first.state.Steady visit.state

/-- A piece on its way has settled, having forgotten nothing. -/
theorem Midway.settles (midway : operation.Midway cue first visit) :
    operation.Settles cue first visit where
  mem_iff address := by
    simp only [midway.attempted, midway.remembers, not_false_eq_true, and_true]
  steady := midway.steady

/-- A piece is on its way when it starts, unless its cue has it forget an address. -/
theorem Midway.start (remembers : ∀ address, ¬ visit.Forgets address operation cue) :
    operation.Midway cue visit visit where
  remembers := remembers
  attempted := rfl
  steady _ := (State.Stays.refl visit.state).steady

/-- A piece stays on its way while visitor and address stay. -/
theorem Midway.stays (midway : operation.Midway cue first visit) (later : Visit)
    (attempted : later.attempted = visit.attempted) (stays : visit.state.Stays later.state) :
    operation.Midway cue first later where
  remembers := midway.remembers
  attempted := attempted.trans midway.attempted
  steady proof := (midway.steady proof).stays stays

/-- Asking the outside leaves a piece on its way. -/
theorem Midway.inquires (midway : operation.Midway cue first visit) (inquiry : Inquiry) :
    operation.Midway cue first (visit.inquire inquiry) :=
  midway.stays _ rfl (.refl visit.state)

/-- Connecting the address that is connected leaves a piece on its way. -/
theorem Midway.connect (midway : operation.Midway cue first visit)
    (same : visit.state.address? = first.state.address?) (address : String) :
    operation.Midway cue first (visit.apply (.connect address)) where
  remembers := midway.remembers
  attempted := midway.attempted
  steady proof := (midway.steady proof).connect same address

/-! ## Tracking -/

/-- An answer about the session has no address forgotten. -/
theorem not_forgets_of_session {call : Call} {answer : call.Answer} {address : String}
    (session : call.isSession = true) :
    ¬ visit.Forgets address operation (.answer call answer) := by
  rintro ⟨⟩ <;> cases session

/-- What only tracks pages from somewhere in a piece on. -/
theorem Settles.tracks (settles : operation.Settles cue first visit)
    (goesOn : ∀ visit address, ¬ Visit.Forgets visit address operation .go)
    {Ends : Outcome → Prop} {errand : Errand Outcome} (tracks : Tracks Ends errand)
    (calm : ∀ outcome, Ends outcome → isCalm (.finished outcome) = true) :
    ObservesFrom operation.Conduct cue first errand visit := by
  have pauses {operation : Operation} {cue : Cue} {first : Visit}
      {piece : Errand.Paused Outcome × Visit} (settles : operation.Settles cue first piece.2)
      (stops : StopsAt Visit.Apart (fun call => call.isSession = true) Ends piece.1) :
      operation.Conduct cue first piece := by
    obtain ⟨paused, visit⟩ := piece
    cases paused with
    | finished outcome => exact settles.calm (calm outcome stops)
    | calling call next =>
        cases call with
        | service call => cases call <;> first | exact settles.calm rfl | cases stops
        | provider call => cases stops
    | sleeping wakeUp next =>
        refine settles.sleeps (stops.mono (fun _ _ _ => trivial) (fun _ _ => trivial) ?_) wakeUp
        exact fun outcome ends => not_isFailure_of_isCalm (calm outcome ends)
  have stays {before after : Visit} (apart : before.Apart after) :
      before.state.Stays after.state := by
    rw [apart.state]
    exact .refl before.state
  refine .of_keepsFrom (tracks visit) (fun piece apart stops => ?_)
    fun cue before piece follows apart stops => ?_
  · have settled : operation.Settles cue first piece.2 := by
      refine ⟨fun address => ?_, fun proof => (settles.steady proof).stays (stays apart)⟩
      rw [apart.attempted]
      exact settles.mem_iff address
    exact pauses settled stops
  · have remembers (address : String) : ¬ before.Forgets address operation cue := by
      cases cue with
      | go => exact goesOn before address
      | answer call answer => exact not_forgets_of_session follows
    have midway := (Midway.start remembers).stays piece.2 apart.attempted (stays apart)
    exact pauses midway.settles stops

end Operation

end VisitorLink
