import VisitorLink.Rehearsal.Play

/-!
# The cast of a rehearsal

Who is on the stage: the player of the script, one for every poll in the background, and one for the
heartbeat. They have turns one after another. Whoever need not sleep any longer goes before those
that have only paused, and the clock moves, to the moment at which the next one wakes up, only when
all of them sleep.

The player of a heartbeat leaves when the heartbeat is stopped, wherever the scene stands; the rest
of the scene is not played, and a connection that was being made in it is given up.
-/

namespace VisitorLink.Rehearsal

/-- What a player is there for. -/
inductive Role
  | script
  | poll (number : Nat)
  | heartbeat (number : Nat)
deriving DecidableEq, Repr

/-- Somebody who waits for a turn. -/
structure Player where
  role : Role
  /-- The time until which the player sleeps. One who has only paused does not sleep. -/
  wakeUp : Option Nat
  scene : Scene Unit
  /-- Whether the player is making the connection to the provider. -/
  connecting : Bool := false

namespace Player

/-- Whether a player's part goes on. -/
def stays (stage : Stage) (player : Player) : Bool :=
  match player.role with
  | .heartbeat number => stage.heartbeat? == some number
  | _ => true

/-- The place of a player among those that can go on at a time: the player of the script before
others that have slept, and these before those that have only paused. -/
def rank (time : Nat) (player : Player) : Option Nat :=
  match player.wakeUp with
  | none => some 2
  | some wakeUp =>
      if time < wakeUp then none else if player.role = .script then some 0 else some 1

end Player

/-- The players that wait, in the order in which they began to, and the stage. -/
structure Cast where
  stage : Stage
  players : List Player

namespace Cast

/-- The cast without those whose part is over. -/
def dismiss (cast : Cast) : Cast :=
  let (staying, leaving) := cast.players.partition (Player.stays cast.stage)
  let connecting := cast.stage.visit.connecting && !leaving.any Player.connecting
  { stage := { cast.stage with visit.connecting := connecting }, players := staying }

/-- The roles in the background that are not taken. -/
def openRoles (cast : Cast) : List Role :=
  let roles := (cast.stage.heartbeat?.map Role.heartbeat).toList ++
    (cast.stage.poll?.map Role.poll).toList
  roles.filter fun role => cast.players.all fun player => player.role != role

/-- The scene of a role in the background, which ends after at most `limit` heartbeats. -/
def sceneOf (answerer : Scene.Answerer) (limit : Nat) : Role → Scene Unit
  | .script => return
  | .poll number => Scene.pollInBackground answerer number
  | .heartbeat number => Scene.keepBeating answerer number limit

/-- The cast with players for the roles that are not taken. -/
def hire (answerer : Scene.Answerer) (limit : Nat) (cast : Cast) : Cast :=
  { cast with
    players := cast.players ++ cast.openRoles.map fun role =>
      { role := role, wakeUp := some cast.stage.clock, scene := sceneOf answerer limit role } }

/-- The player whose turn it is, and the others. -/
def next? (cast : Cast) : Option (Player × List Player) := do
  let ranks := cast.players.map (Player.rank cast.stage.clock)
  let first ← (ranks.filterMap id).min?
  let index := ranks.idxOf (some first)
  return (← cast.players[index]?, cast.players.eraseIdx index)

/-- The cast after a turn of a player, with the others waiting. -/
def turn (player : Player) (others : List Player) (stage : Stage) : Cast :=
  let (paused, changed) := player.scene.run stage
  let after := changed.collect
  let connecting := after.visit.connecting && (player.connecting || !stage.visit.connecting)
  let waits (wakeUp : Option Nat) (scene : Scene Unit) : Cast :=
    let player :=
      { player with wakeUp := wakeUp, scene := scene, connecting := connecting }
    { stage := after, players := others ++ [player] }
  match paused with
  | .finished _ => { stage := after, players := others }
  | .calling _ next => waits none (next ())
  | .sleeping wakeUp next => waits (some wakeUp) next

/-- The time at which the next player wakes up. -/
def nextWakeUp? (cast : Cast) : Option Nat :=
  (cast.players.filterMap Player.wakeUp).min?

/-- Goes on until the script has been played to its end. At most `limit` turns are given. -/
def perform (answerer : Scene.Answerer) : (limit : Nat) → Cast → Stage
  | 0, cast => cast.stage
  | limit + 1, cast =>
      if cast.stage.told.isSome then cast.stage
      else
        let cast := cast.dismiss.hire answerer limit
        match cast.next? with
        | some (player, others) => perform answerer limit (turn player others cast.stage)
        | none =>
            match cast.nextWakeUp? with
            | some wakeUp =>
                perform answerer limit { cast with stage := cast.stage.setClock wakeUp }
            | none => cast.stage

end Cast

/-- Plays a script on a stage. -/
def play (limit : Nat) (stage : Stage) (steps : List Step) : List Record :=
  let answerer := Scene.answerer limit
  let start : Cast :=
    { stage := stage
      players := [{ role := .script, wakeUp := none, scene := Scene.script answerer steps }] }
  (start.perform answerer limit).told.getD []

end VisitorLink.Rehearsal
