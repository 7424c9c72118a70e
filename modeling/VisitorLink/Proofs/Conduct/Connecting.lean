import VisitorLink.Proofs.Conduct.Wallet
import VisitorLink.Proofs.Visit.Journal

/-!
# Conduct about the making of a connection

Connecting to the provider waits for nothing but its answer to a request for accounts. The piece
that makes the request begins the making of a connection, and the piece that the answer sets going
ends it, whatever the answer is. All other pieces leave it alone, and the status with it where that
tells of something under way.

Main statements: every piece of every operation is of one of these kinds (`observes_dialling`), and
an operation that connects is refused or let in depending on whether a connection is being made
(`run_of_busy`, `isLetIn_of_free`).
-/

namespace VisitorLink

open Errand

/-- Whether the answer to a request for accounts sets an operation going. -/
def Cue.isDial : Cue → Bool
  | .go => false
  | .answer call _ => call.isDial

/-- Whether the answer to a request for accounts is waited for. -/
def Errand.isDialling {α : Type} : Paused α → Bool
  | .calling call _ => call.isDial
  | _ => false

/-! ## What leaves the making of a connection alone -/

/-- That the making of a connection was left alone, and that the status tells of nothing under way
that it did not tell of before. -/
structure Visit.Undialled (before after : Visit) : Prop where
  connecting : after.connecting = before.connecting
  pending : after.state.connection.status.isPending = true →
    after.state.connection.status = before.state.connection.status

namespace Visit.Undialled

/-- A visit with the same connecting and the same state was left undialled. -/
theorem of_eq {before after : Visit} (connecting : after.connecting = before.connecting)
    (state : after.state = before.state) : before.Undialled after where
  connecting := connecting
  pending _ := congrArg (·.connection.status) state

/-- Leaving the making of a connection alone can be chained. -/
theorem trans {first middle last : Visit} (before : first.Undialled middle)
    (after : middle.Undialled last) : first.Undialled last where
  connecting := after.connecting.trans before.connecting
  pending pending := by
    have same := after.pending pending
    exact same.trans (before.pending (same ▸ pending))

/-- What tracks pages leaves the making of a connection alone. -/
theorem of_apart {before after : Visit} (apart : before.Apart after) : before.Undialled after :=
  .of_eq apart.connecting apart.state

/-- Of the changes to the state only those that begin something are told apart. -/
theorem frame : Visit.Frame Visit.Undialled where
  refl visit := .of_eq rfl rfl
  trans _ _ _ before after := before.trans after
  apply visit change usual :=
    ⟨rfl, State.status_apply_of_isPending (Change.not_isBeginning usual)⟩
  emit visit event := by
    refine .of_eq ?_ (visit.emit_state event)
    unfold Visit.emit
    split <;> rfl
  attempt visit addresses := .of_eq rfl rfl
  store visit storage _ := .of_eq rfl rfl
  detect visit := .of_eq rfl rfl
  ask visit call ordinary := .of_eq rfl rfl
  check visit change ends := by
    cases change with
    | connect address => exact ⟨rfl, nofun⟩
    | finishCheck =>
        exact ⟨rfl, fun pending => absurd rfl (State.status_finishCheck_of_isPending pending).2⟩
    | _ => cases ends

end Visit.Undialled

/-- That all pieces of an errand leave the making of a connection alone. -/
abbrev Errand.LeavesDial {α : Type} (errand : Errand α) : Prop :=
  Keeps Visit.Undialled (fun call => call.isDial = false) (fun _ => True) errand

/-- All operations but those that connect to the provider leave the making of a connection alone. -/
theorem Operation.leavesDial_errand {operation : Operation} (other : operation.connects = false) :
    LeavesDial operation.errand :=
  Visit.Undialled.frame.keeps_errand (fun _ _ => .of_apart) other

namespace Operation

/-! ## The law -/

/-- That an operation has not stopped to wait for accounts. Connecting waits for nothing else. -/
def StopsElsewhere (operation : Operation) (paused : Errand.Paused Outcome) : Prop :=
  isDialling paused = false ∧ (operation = .connect → ∃ outcome, paused = .finished outcome)

/-- What a piece of an operation does about the making of a connection. -/
inductive Dialling (operation : Operation) : Law Outcome
  | apart {cue : Cue} {before : Visit} {piece : Errand.Paused Outcome × Visit}
      (other : cue.isDial = false) (undialled : before.Undialled piece.2)
      (elsewhere : operation.StopsElsewhere piece.1) : Dialling operation cue before piece
  | opens {before : Visit} {piece : Errand.Paused Outcome × Visit}
      (idle : before.connecting = false) (connecting : piece.2.connecting = true)
      (status : piece.2.state.connection.status = .connecting)
      (dials : isDialling piece.1 = true) : Dialling operation .go before piece
  | closes {cue : Cue} {before : Visit} {piece : Errand.Paused Outcome × Visit}
      (dialled : cue.isDial = true) (idle : piece.2.connecting = false)
      (status : piece.2.state.connection.status.isPending = false)
      (elsewhere : operation.StopsElsewhere piece.1) : Dialling operation cue before piece

variable {operation : Operation} {cue : Cue} {first visit : Visit}

/-- What leaves the making of a connection alone from somewhere in a piece on. -/
theorem observes_of_leavesDial (other : operation ≠ .connect) {errand : Errand Outcome}
    (leaves : LeavesDial errand)
    (now : ∀ piece, visit.Undialled piece.2 → operation.StopsElsewhere piece.1 →
      operation.Dialling cue first piece) :
    ObservesFrom operation.Dialling cue first errand visit := by
  have stops {paused : Errand.Paused Outcome}
      (pauses : StopsAt Visit.Undialled (fun call => call.isDial = false) (fun _ => True) paused) :
      operation.StopsElsewhere paused := by
    refine ⟨?_, fun same => absurd same other⟩
    cases paused with
    | calling call next => exact pauses
    | _ => rfl
  refine .of_keepsFrom (leaves visit) (fun piece undialled pauses => ?_)
    fun cue before piece follows undialled pauses => ?_
  · exact now piece undialled (stops pauses)
  · refine .apart ?_ undialled (stops pauses)
    cases cue with
    | go => rfl
    | answer call answer => exact follows

section Connecting

variable {rest : Except ConnectionError String → Errand Outcome}

/-- What follows on connecting leaves the making of a connection alone. -/
theorem AfterConnect.observes_dialling (after : operation.AfterConnect rest)
    (result : Except ConnectionError String)
    (now : ∀ piece, visit.Undialled piece.2 → operation.StopsElsewhere piece.1 →
      operation.Dialling cue first piece) :
    ObservesFrom operation.Dialling cue first (rest result) visit := by
  cases after with
  | connect => exact now _ (.of_eq rfl rfl) ⟨rfl, fun _ => ⟨_, rfl⟩⟩
  | connectWallet =>
      have within := Visit.Undialled.frame.within_map
        (Visit.Undialled.frame.within_linkConnected result) Outcome.link
      refine observes_of_leavesDial ?_ within.offDial now
      exact nofun

/-- When the making of a connection has ended, the status tells of nothing that is under way. -/
theorem AfterConnect.dialling_finishConnecting (after : operation.AfterConnect rest)
    (outcome : Except ConnectionError String)
    (ended : ∀ piece : Errand.Paused Outcome × Visit, piece.2.connecting = false →
      piece.2.state.connection.status.isPending = false → operation.StopsElsewhere piece.1 →
      operation.Dialling cue first piece) :
    ObservesFrom operation.Dialling cue first (finishConnecting outcome >>= rest) visit := by
  have settled {middle : Visit} (idle : middle.connecting = false)
      (status : middle.state.connection.status.isPending = false) (result) :
      ObservesFrom operation.Dialling cue first (rest result) middle := by
    refine after.observes_dialling result fun piece undialled elsewhere => ?_
    refine ended piece (undialled.connecting.trans idle) ?_ elsewhere
    cases pending : piece.2.state.connection.status.isPending with
    | false => rfl
    | true => exact (undialled.pending pending ▸ pending).symm.trans status
  cases outcome with
  | ok address => exact settled rfl rfl _
  | error error =>
      refine settled rfl ?_ _
      dsimp only
      rw [Visit.emit_state]
      rfl

/-- The answer to a request for accounts closes what was opened. -/
theorem AfterConnect.dialling_receiveAccounts (after : operation.AfterConnect rest)
    (answer : AccountsAnswer) (visit : Visit) :
    ObservesFrom operation.Dialling (.answer (.provider .requestAccounts) answer) visit
      (receiveAccounts answer >>= fun outcome => finishConnecting outcome >>= rest) visit := by
  have finish (outcome : Except ConnectionError String) :
      ObservesFrom operation.Dialling (.answer (.provider .requestAccounts) answer) visit
        (finishConnecting outcome >>= rest) visit :=
    after.dialling_finishConnecting outcome fun _ => .closes rfl
  unfold receiveAccounts
  split
  · exact finish _
  · rw [bind_assoc, observesFrom_visit_bind]
    split <;> exact finish _

/-- Connecting opens at its start or is refused, and closes at the answer. -/
theorem AfterConnect.dialling_connect (after : operation.AfterConnect rest) (visit : Visit) :
    ObservesFrom operation.Dialling .go visit (Errand.connect >>= rest) visit := by
  unfold Errand.connect
  rw [bind_assoc, observesFrom_visit_bind]
  split
  case isTrue busy => exact after.observes_dialling _ fun _ => .apart rfl
  case isFalse free =>
    have idle : visit.connecting = false := eq_false_of_ne_true free
    -- A connection that needs no request for accounts is made within the piece.
    have finish (outcome : Except ConnectionError String) (middle : Visit) :
        ObservesFrom operation.Dialling .go visit (finishConnecting outcome >>= rest) middle := by
      refine after.dialling_finishConnecting outcome fun piece ended status elsewhere => ?_
      refine .apart rfl ⟨ended.trans idle.symm, fun pending => ?_⟩ elsewhere
      cases status.symm.trans pending
    rw [bind_assoc, observesFrom_modify_bind]
    unfold requestAddress
    rw [bind_assoc, bind_assoc, observesFrom_lookForProvider_bind]
    split
    · exact finish (.error .providerNotDetected) _
    · rw [bind_assoc, observesFrom_visit_bind]
      split
      case h_1 address shown => exact finish (.ok address) _
      case h_2 shown =>
        exact ⟨.opens idle rfl rfl rfl, fun answer later =>
          after.dialling_receiveAccounts answer later⟩

end Connecting

/-- Every piece of every operation does about connecting what its law allows. -/
theorem observes_dialling (operation : Operation) (visit : Visit) :
    ObservesFrom operation.Dialling .go visit operation.errand visit := by
  cases connects : operation.connects with
  | false =>
      refine observes_of_leavesDial ?_ (leavesDial_errand connects) fun _ => .apart rfl
      rintro rfl
      cases connects
  | true =>
      cases operation with
      | connect => exact AfterConnect.connect.dialling_connect visit
      | connectWallet =>
          rw [errand_connectWallet]
          exact AfterConnect.connectWallet.dialling_connect visit
      | _ => cases connects

end Operation

/-! ## Being refused and being let in -/

/-- A connection that is let in asks for accounts, or it is made or found impossible at once. -/
theorem Errand.connect_of_free {visit : Visit} (free : visit.connecting = false) :
    (visit.inquire .detect).journal <+: (connect.run visit).2.journal ∧
      ∀ error, (connect.run visit).1 = .finished (.error error) → error = .providerNotDetected := by
  rw [run_connect, if_neg (by simp [free])]
  split
  · split
    · exact ⟨List.prefix_refl _, nofun⟩
    · exact ⟨List.prefix_append _ _, nofun⟩
  · rw [run_finishConnecting]
    refine ⟨?_, fun error ends => by cases ends; rfl⟩
    dsimp only
    rw [Visit.emit_journal]
    exact List.prefix_refl _

/-- The first step of linking fails by an answer of the service only. -/
theorem Errand.link_succeeds_at_once {visit : Visit} {result : Except LinkError LinkOutcome}
    (ends : (link.run visit).1 = .finished result) : ∃ outcome, result = .ok outcome := by
  rw [run_link] at ends
  split at ends
  · split at ends
    · exact ⟨_, (Procedure.Paused.finished.inj ends).symm⟩
    · split at ends
      · exact ⟨_, (Procedure.Paused.finished.inj ends).symm⟩
      · cases ends
  · exact ⟨_, (Procedure.Paused.finished.inj ends).symm⟩

namespace Operation

/-- How an operation that connects ends if it is refused. -/
def refusal? : Operation → Option Outcome
  | .connect => some (.address (.error .inProgress))
  | .connectWallet => some (.link (.error (.connectFailed ConnectionError.inProgress.message)))
  | _ => none

/-- That an operation is let in to connect: it looks for the provider, and it does not end as one
that is refused. -/
structure IsLetIn (operation : Operation) (visit : Visit) : Prop where
  looks : (visit.inquire .detect).journal <+: (operation.errand.run visit).2.journal
  accepted : ∀ outcome, (operation.errand.run visit).1 = .finished outcome →
    operation.refusal? ≠ some outcome

variable {operation : Operation} {refusal : Outcome} {visit : Visit}

/-- An operation that connects is refused at once while a connection is being made. -/
theorem run_of_busy (connects : operation.refusal? = some refusal)
    (busy : visit.connecting = true) :
    operation.errand.run visit = (.finished refusal, visit) := by
  have refuses : Errand.connect.run visit = (.finished (.error .inProgress), visit) := by
    rw [run_connect, if_pos busy]
  cases operation with
  | connect =>
      cases connects
      exact run_bind_of_finished refuses _
  | connectWallet =>
      cases connects
      rw [errand_connectWallet, run_bind_of_finished refuses]
      rfl
  | _ => cases connects

/-- An operation that can be refused a connection is connecting and what comes after it. -/
theorem exists_afterConnect (connects : operation.refusal? = some refusal) :
    ∃ rest, operation.AfterConnect rest ∧ operation.errand = Errand.connect >>= rest := by
  cases operation with
  | connect => exact ⟨_, .connect, rfl⟩
  | connectWallet => exact ⟨_, .connectWallet, errand_connectWallet⟩
  | _ => cases connects

/-- What follows on a connection that was let in does not end as one that is refused. -/
theorem AfterConnect.accepted {rest : Except ConnectionError String → Errand Outcome}
    (after : operation.AfterConnect rest) {result : Except ConnectionError String}
    (absent : ∀ error, result = .error error → error = .providerNotDetected)
    {outcome : Outcome} (ends : ((rest result).run visit).1 = .finished outcome) :
    operation.refusal? ≠ some outcome := by
  intro refused
  cases after with
  | connect =>
      cases ends
      cases refused
      cases absent _ rfl
  | connectWallet =>
      cases result with
      | error error =>
          cases absent error rfl
          cases ends
          simp only [refusal?, Option.some.injEq, Outcome.link.injEq, Except.error.injEq,
            LinkError.connectFailed.injEq] at refused
          exact absurd refused (by decide)
      | ok address =>
          change (Errand.run (Errand.link >>= (pure <| Outcome.link ·)) visit).1 = _ at ends
          rw [run_bind] at ends
          rcases stops : Errand.link.run visit with ⟨paused, later⟩
          rw [stops] at ends
          cases paused with
          | finished result =>
              obtain ⟨outcome, rfl⟩ := link_succeeds_at_once (congrArg Prod.fst stops)
              cases ends
              cases refused
          | _ => cases ends

/-- What comes after connecting only adds to the journal. -/
theorem AfterConnect.journal_prefix {rest : Except ConnectionError String → Errand Outcome}
    (after : operation.AfterConnect rest) (result : Except ConnectionError String) (visit : Visit) :
    visit.journal <+: ((rest result).run visit).2.journal := by
  have untracks : Untracks (rest result) := by
    cases after with
    | connect => exact untracks_pure _
    | connectWallet =>
        exact (Visit.Untracked.frame.within_map
          (Visit.Untracked.frame.within_linkConnected result) Outcome.link).untracks
  exact (untracks.moves visit).inquires.journal_prefix

/-- An operation that connects is let in while no connection is being made. -/
theorem isLetIn_of_free (connects : operation.refusal? = some refusal)
    (free : visit.connecting = false) : operation.IsLetIn visit := by
  obtain ⟨rest, after, errand⟩ := exists_afterConnect connects
  obtain ⟨looks, absent⟩ := connect_of_free free
  rcases stops : Errand.connect.run visit with ⟨paused, middle⟩
  rw [stops] at looks absent
  have runs := Errand.run_bind Errand.connect rest visit
  rw [stops, ← errand] at runs
  constructor
  case looks =>
    rw [runs]
    cases paused with
    | finished result => exact looks.trans (after.journal_prefix result middle)
    | _ => exact looks
  case accepted =>
    intro outcome ends
    rw [runs] at ends
    cases paused with
    | finished result =>
        refine after.accepted (fun error same => absent error ?_) ends
        exact congrArg _ same
    | _ => cases ends

end Operation

end VisitorLink
