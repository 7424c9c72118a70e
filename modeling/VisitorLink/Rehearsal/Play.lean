import VisitorLink.Rehearsal.Scene

/-!
# Playing a script

Each step is played to its end, then the others have their turns, and then the record of the step is
made. What was asked and told since the last record belongs to the next one, whoever makes it. The
steps that belong to an answer are played in the same way by whoever waits for the answer.
-/

namespace VisitorLink.Rehearsal

namespace Stage

/-- The stage for the next operation, with random bytes of its own. -/
def forOperation (stage : Stage) : Stage :=
  { stage with
    visit.outside.random := stage.random stage.operations
    operations := stage.operations + 1 }

/-- Operates on the slots. -/
def operateSlots {α : Type} (operation : StorageM α) (stage : Stage) :
    Except StorageError α × Stage :=
  let (answer, storage) := operation.on stage.visit.storage
  (answer, { stage with visit.storage := storage })

/-- Makes operations on a slot in memory fail. -/
def failSlot (slot : Slot) (get set remove : Bool) (stage : Stage) : Stage :=
  match stage.visit.storage.kept slot with
  | .inMemory held =>
      let changed := { held with getFails := get, setFails := set, removeFails := remove }
      { stage with visit.storage := stage.visit.storage.keep changed slot }
  | .inFile => stage

/-- Adds answers to those that calls of a kind are going to get. -/
def queue (name : CallName) (replies : List Reply) (stage : Stage) : Stage :=
  { stage with
    queued := fun other =>
      if other = name then stage.queued name ++ replies else stage.queued other }

/-- Sets the answer that calls of a kind get when no other is left. -/
def answerAlways (name : CallName) (reply : Reply) (stage : Stage) : Stage :=
  { stage with always := fun other => if other = name then some reply else stage.always other }

/-- Makes the record of a step and starts a new log. -/
def record (result : Result) (stage : Stage) : Record × Stage :=
  let stage := stage.collect
  let visit := stage.visit
  ({ result := result
     log := stage.log.reverse
     events := visit.events
     state := visit.state
     cookies := (visit.storage.entries? .cookies).getD .empty
     localArea := (visit.storage.entries? .localArea).getD .empty
     isActive := visit.tracker.isActive
     isBeating := visit.tracker.isBeating },
    { stage with log := [], visit.events := [] })

/-- Notes the records of the steps that were played while a call was waiting. -/
def noteDuring (name : CallName) (records : List Record) (stage : Stage) : Stage :=
  let stage := stage.collect
  { stage with log := .during name stage.clock records :: stage.log }

end Stage

namespace Scene

/-! ## Steps -/

/-- Operates on the slots, with a text as the result. -/
def operateText (operation : StorageM (Option String)) : Scene Result :=
  Result.text <$> act (Stage.operateSlots operation)

/-- Operates on the slots, with nothing as the result. -/
def operateUnit (operation : StorageM Unit) : Scene Result :=
  operateText (do operation; return none)

/-- Changes the stage, with nothing as the result. -/
def arrange (change : Stage → Stage) : Scene Result :=
  act fun stage => (.nothing, change stage)

/-- Polls to the end, and tells how long that took. -/
def poll (answerer : Answerer) (attempts interval : Nat) : Scene Result := do
  let start := (← stage).clock
  let outcome ← follow answerer (Errand.poll attempts (Stage.wait interval))
  return .polled outcome ((← stage).clock - start)

/-- Ends the session twice at the same time. -/
def endTwice (answerer : Answerer) : Scene Result := do
  let (first, second) ←
    both (follow answerer Errand.endTracking) (follow answerer Errand.endTracking)
  return .endings first second

/-- Tells how the poll in the background stands, and forgets it once it has ended. -/
def tellPolling : Scene Result :=
  act fun stage =>
    match stage.polling with
    | .never => (.notPolling, stage)
    | .pending _ => (.stillPolling, stage)
    | .finished outcome => (.outcome (.poll outcome), { stage with polling := .never })

/-- Sleeps for so many milliseconds. -/
def advance (milliseconds : Nat) : Scene Result := do
  sleepUntil ((← stage).clock + Stage.wait milliseconds)
  return .nothing

/-- Plays a step. -/
def play (answerer : Answerer) : Step → Scene Result
  | .operate operation => do
      modify Stage.forOperation
      return .outcome (← follow answerer operation.errand)
  | .poll attempts interval => do
      let settings := (← stage).visit.settings
      poll answerer (attempts.getD settings.detectAttempts)
        (interval.getD settings.detectInterval)
  | .startPolling => arrange Stage.startPolling
  | .pollingResult => tellPolling
  | .endTwice => endTwice answerer
  | .change change =>
      act fun stage =>
        (.changed (stage.visit.state.changes change),
          { stage with visit := stage.visit.apply change })
  | .loadId => operateText RememberedId.load
  | .loadOrCreateId => do
      modify Stage.forOperation
      let fresh := (Uuid.ofRandom (← stage).visit.outside.random).hyphenated
      operateText (some <$> RememberedId.loadOrCreate fresh)
  | .persistId id => operateUnit (RememberedId.persist id)
  | .clearId => operateUnit RememberedId.clear
  | .setText slot key (some text) => operateUnit (StorageM.set slot key text)
  | .setText slot key none => operateUnit (StorageM.remove slot key)
  | .getCookie key => operateText (StorageM.get .cookies key)
  | .fail slot get set remove => arrange (Stage.failSlot slot get set remove)
  | .provider change => arrange fun stage => stage.changeProvider change
  | .answer name replies => arrange (Stage.queue name replies)
  | .answerAlways name reply => arrange (Stage.answerAlways name reply)
  | .advance milliseconds => advance milliseconds
  | .stopListening =>
      arrange fun stage => { stage with visit.listening := false, visit.events := [] }

/-- Plays steps one after another. -/
def playAll (answerer : Answerer) : List Step → Scene (List Record)
  | [] => return []
  | step :: steps => do
      let result ← play answerer step
      pause
      let record ← act (Stage.record result)
      return record :: (← playAll answerer steps)

/-! ## Answers -/

/-- Answers calls as it is written down. Before the answer, the steps that belong to it are played.
Answers may be nested in each other's steps at most `limit` deep. -/
def answerer : (limit : Nat) → Answerer
  | 0, call => act fun stage => stage.answer .standard call
  | limit + 1, call => do
      let name := CallName.of call
      let reply ← act fun stage => stage.takeReply name
      if !reply.during.isEmpty then
        let records ← playAll (answerer limit) reply.during
        modify (Stage.noteDuring name records)
      act fun stage => stage.answer reply.content call

/-! ## The three parts -/

/-- Plays a script. The first record is that of the start. -/
def script (answerer : Answerer) (steps : List Step) : Scene Unit := do
  let first ← act (Stage.record .start)
  let records ← playAll answerer steps
  modify fun stage => { stage with told := some (first :: records) }

/-- Polls in the background. Without an interval there is no timer, and nothing is looked for. -/
def pollInBackground (answerer : Answerer) (number : Nat) : Scene Unit := do
  let settings := (← stage).visit.settings
  if settings.detectInterval = 0 then modify fun stage => stage.endPolling number .never
  else
    let outcome ←
      follow answerer (Errand.poll settings.detectAttempts (Stage.wait settings.detectInterval))
    modify fun stage => stage.endPolling number (.finished outcome)

/-- Waits for the heartbeat to be due, sends it and waits for the answer. A heartbeat that cannot be
timed is given up. Only the wait from one heartbeat to the next may end early. -/
def beat (answerer : Answerer) (number : Nat) : Scene Unit := do
  modify fun stage => { stage with visit := stage.visit.giveUpHeartbeat }
  match (← stage).visit.tracker.heartbeat with
  | none => return
  | some heartbeat =>
      sleepUntil heartbeat.due
      let heartbeat := { heartbeat with period := Stage.wait heartbeat.period }
      modify fun stage => { stage with visit := stage.visit.sendHeartbeat heartbeat }
      let _ ← answerer (.service (.heartbeat heartbeat.visitor))
      modify fun stage => { stage with visit := stage.visit.answerHeartbeat number }

/-- Keeps the heartbeat of a number going, for at most `limit` heartbeats. As soon as one is
answered, the wait for the next one begins. -/
def keepBeating (answerer : Answerer) (number : Nat) : (limit : Nat) → Scene Unit
  | 0 => return
  | limit + 1 => do
      beat answerer number
      if (← stage).heartbeat? = some number then keepBeating answerer number limit

end Scene

end VisitorLink.Rehearsal
