import VisitorLink.Rehearsal.Stage
import VisitorLink.Visit.Interpreter

/-!
# Scenes

What one of several players does on the stage: procedures on the stage whose only call is a pause,
in which the others have their turns. Time passes while a player sleeps. Two scenes of one player
are played side by side, each going on whenever the player has a turn and the scene need not wait
any longer.
-/

namespace VisitorLink.Rehearsal

/-- What a player does on the stage. -/
abbrev Scene : Type → Type := Procedure Stage Unit fun _ => Unit

namespace Scene

variable {α β γ : Type}

/-- A scene that has ended, or that waits. -/
abbrev Paused : Type → Type := Procedure.Paused Stage Unit fun _ => Unit

/-- Plays a scene up to its end or its next wait. -/
def run (scene : Scene α) (stage : Stage) : Paused α × Stage :=
  Procedure.run Stage.clock scene stage

/-- The stage as it is. -/
def stage : Scene Stage :=
  .look .done

/-- Changes the stage. -/
def modify (change : Stage → Stage) : Scene Unit :=
  Procedure.modify change

/-- Acts on the stage. -/
def act (change : Stage → α × Stage) : Scene α :=
  Procedure.act change

/-- Lets the others have their turns. -/
def pause : Scene Unit :=
  .call () .done

/-- Sleeps until the clock shows the given time. -/
def sleepUntil (wakeUp : Nat) : Scene Unit :=
  .sleep wakeUp (.done ())

/-! ## Errands on the stage -/

/-- Something that answers calls. -/
abbrev Answerer := (call : Call) → Scene call.Answer

/-- Carries out errands on the stage. -/
def interpreter (answerer : Answerer) : Interpreter Scene where
  visit := Stage.visit <$> stage
  setVisit := fun visit => modify fun stage => { stage with visit := visit }
  answer := answerer
  sleep := sleepUntil

/-- Carries out an errand on the stage. -/
def follow (answerer : Answerer) (errand : Errand α) : Scene α :=
  (interpreter answerer).carryOut errand

/-! ## Scenes side by side -/

/-- Plays the second scene up to its next wait, while the first one pauses. Then `rest` says what
becomes of it. -/
def whilePaused (rest : Scene β → Scene γ) : Scene β → Scene γ
  | .done result => .call () fun _ => rest (.done result)
  | .look next => .look fun stage => whilePaused rest (next stage)
  | .set stage next => .set stage (whilePaused rest next)
  | .call _ next => .call () fun _ => rest (next ())
  | .sleep wakeUp next =>
      .look fun stage =>
        if wakeUp ≤ stage.clock then whilePaused rest next
        else .call () fun _ => rest (.sleep wakeUp next)

/-- Plays the second scene while the first one sleeps until the given time. Then `rest` says what
becomes of it. -/
def whileAsleep (firstWakeUp : Nat) (rest : Scene β → Scene γ) : Scene β → Scene γ
  | .done result => .sleep firstWakeUp (rest (.done result))
  | .look next => .look fun stage => whileAsleep firstWakeUp rest (next stage)
  | .set stage next => .set stage (whileAsleep firstWakeUp rest next)
  | .call _ next => .call () fun _ => whileAsleep firstWakeUp rest (next ())
  | .sleep wakeUp next =>
      .sleep (min firstWakeUp wakeUp) <| .look fun stage =>
        if firstWakeUp ≤ stage.clock then rest (.sleep wakeUp next)
        else whileAsleep firstWakeUp rest next

/-- Plays two scenes side by side. Whenever both can go on, the first one does so before the
second. -/
def both : Scene α → Scene β → Scene (α × β)
  | .done result, second => (fun other => (result, other)) <$> second
  | .look next, second => .look fun stage => both (next stage) second
  | .set stage next, second => .set stage (both next second)
  | .call _ next, second => whilePaused (both (next ())) second
  | .sleep wakeUp next, second =>
      .look fun stage =>
        if wakeUp ≤ stage.clock then both next second
        else whileAsleep wakeUp (both next) second

end Scene

end VisitorLink.Rehearsal
