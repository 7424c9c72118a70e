import VisitorLink.Procedure
import VisitorLink.Visit.Basic

/-!
# Errands

What is done in the course of a visit: procedures on the visit that call the wallet provider and the
service. Every call is noted in the journal when it is made.

Main statement: running one errand after another is running the first one and going on from there
(`run_bind`).
-/

namespace VisitorLink

/-- Something to do in the course of a visit. -/
abbrev Errand : Type → Type := Procedure Visit Call Call.Answer

namespace Errand

variable {α β : Type}

/-- An errand that has ended, or that waits. -/
abbrev Paused : Type → Type := Procedure.Paused Visit Call Call.Answer

/-- Follows an errand up to its end or its next wait. -/
def run (errand : Errand α) (visit : Visit) : Paused α × Visit :=
  Procedure.run Visit.clock errand visit

theorem run_bind (errand : Errand α) (rest : α → Errand β) (visit : Visit) :
    run (errand >>= rest) visit =
      Procedure.Paused.bind (run errand visit) (fun result visit => run (rest result) visit) rest :=
  Procedure.run_bind Visit.clock errand rest visit

/-! ## Steps that do not wait -/

/-- The visit as it is. -/
def visit : Errand Visit :=
  .look .done

/-- Changes the visit. -/
def modify (change : Visit → Visit) : Errand Unit :=
  Procedure.modify change

/-- Changes the state of the visit. -/
def apply (change : Change) : Errand Unit :=
  modify fun visit => visit.apply change

/-- Tells an event. -/
def emit (event : Event) : Errand Unit :=
  modify fun visit => visit.emit event

/-- Tells a notice. -/
def notify (level : NoticeLevel) (message : String) : Errand Unit :=
  emit (.notice level message)

/-- Changes the tracker. -/
def track (change : Tracker → Tracker) : Errand Unit :=
  modify fun visit => { visit with tracker := change visit.tracker }

/-- Looks for the provider. -/
def lookForProvider : Errand Bool :=
  Procedure.act fun visit => (visit.outside.providerPresent, visit.inquire .detect)

/-- Operates on the slots. -/
def slots (operation : StorageM α) : Errand (Except StorageError α) :=
  Procedure.act fun visit =>
    let after := operation.on visit.storage
    (after.1, { visit with storage := after.2 })

/-! ## Calls -/

/-- Makes a call and waits for the answer. -/
def ask (asked : Call) : Errand asked.Answer :=
  .look fun visit => .set (visit.inquire (.call asked)) (.call asked .done)

/-- Calls the provider and waits for the answer. -/
def askProvider (asked : ProviderCall) : Errand asked.Answer :=
  ask (.provider asked)

/-- Calls the service and waits for the answer. -/
def askService (asked : ServiceCall) : Errand asked.Answer :=
  ask (.service asked)

end Errand

end VisitorLink
