import VisitorLink.Visit.Errand

/-!
# Interpreters

How an errand is carried out to its end, by whatever there is to answer its calls. While it waits
for an answer or for a time, an interpreter may do other things to the visit.
-/

namespace VisitorLink

/-- Where the visit is kept, who answers calls and how time passes. -/
structure Interpreter (m : Type → Type) where
  visit : m Visit
  setVisit : Visit → m Unit
  answer : (call : Call) → m call.Answer
  /-- Lets time pass until the clock shows the given time. -/
  sleep : Nat → m Unit

namespace Interpreter

variable {m : Type → Type} [Monad m] {α : Type}

/-- Carries out an errand to its end. -/
def carryOut (interpreter : Interpreter m) : Errand α → m α
  | .done result => pure result
  | .look next => do
      let visit ← interpreter.visit
      carryOut interpreter (next visit)
  | .set visit next => do
      interpreter.setVisit visit
      carryOut interpreter next
  | .call call next => do
      let answer ← interpreter.answer call
      carryOut interpreter (next answer)
  | .sleep wakeUp next => do
      interpreter.sleep wakeUp
      carryOut interpreter next

end Interpreter

end VisitorLink
