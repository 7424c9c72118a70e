/-!
# Procedures

What is done step by step to a state that others change as well, as a tree: a procedure looks at the
state, changes it, waits for the answer to a call or for a moment on the clock, and ends with a
result. `Procedure.run` follows a procedure to the point where it has to wait. Nothing else happens
to the state on the way there, and anything may happen while the procedure waits.

Main statement: running one procedure after another is running the first one and going on from there
(`run_bind`).
-/

namespace VisitorLink

/-- Something to do to a state, where a call of type `κ` is waited for until its answer is there. -/
inductive Procedure (σ κ : Type) (Answer : κ → Type) (α : Type) where
  | done (result : α)
  | look (next : σ → Procedure σ κ Answer α)
  | set (state : σ) (next : Procedure σ κ Answer α)
  | call (asked : κ) (next : Answer asked → Procedure σ κ Answer α)
  /-- Waits until the clock shows the given time. -/
  | sleep (wakeUp : Nat) (next : Procedure σ κ Answer α)

namespace Procedure

variable {σ κ : Type} {Answer : κ → Type} {α β γ : Type}

/-- One procedure after another. -/
def bind : Procedure σ κ Answer α → (α → Procedure σ κ Answer β) → Procedure σ κ Answer β
  | .done result, rest => rest result
  | .look next, rest => .look fun state => (next state).bind rest
  | .set state next, rest => .set state (next.bind rest)
  | .call asked next, rest => .call asked fun answer => (next answer).bind rest
  | .sleep wakeUp next, rest => .sleep wakeUp (next.bind rest)

instance : Monad (Procedure σ κ Answer) where
  pure := .done
  bind := bind

theorem bind_done (procedure : Procedure σ κ Answer α) : procedure.bind .done = procedure := by
  induction procedure with
  | done => rfl
  | look next ih => exact congrArg Procedure.look (funext ih)
  | set state next ih => exact congrArg (Procedure.set state) ih
  | call asked next ih => exact congrArg (Procedure.call asked) (funext ih)
  | sleep wakeUp next ih => exact congrArg (Procedure.sleep wakeUp) ih

theorem bind_assoc (procedure : Procedure σ κ Answer α) (rest : α → Procedure σ κ Answer β)
    (last : β → Procedure σ κ Answer γ) :
    (procedure.bind rest).bind last = procedure.bind fun result => (rest result).bind last := by
  induction procedure with
  | done => rfl
  | look next ih => exact congrArg Procedure.look (funext ih)
  | set state next ih => exact congrArg (Procedure.set state) ih
  | call asked next ih => exact congrArg (Procedure.call asked) (funext ih)
  | sleep wakeUp next ih => exact congrArg (Procedure.sleep wakeUp) ih

instance : LawfulMonad (Procedure σ κ Answer) :=
  LawfulMonad.mk' (Procedure σ κ Answer) bind_done (fun _ _ => rfl) bind_assoc

/-! ## Steps that do not wait -/

/-- Acts on the state. -/
def act (change : σ → α × σ) : Procedure σ κ Answer α :=
  .look fun state =>
    let after := change state
    .set after.2 (.done after.1)

/-- Changes the state. -/
def modify (change : σ → σ) : Procedure σ κ Answer Unit :=
  act fun state => ((), change state)

/-! ## Running up to the next wait -/

/-- A procedure that has ended, or that waits. -/
inductive Paused (σ κ : Type) (Answer : κ → Type) (α : Type) where
  | finished (result : α)
  | calling (asked : κ) (next : Answer asked → Procedure σ κ Answer α)
  | sleeping (wakeUp : Nat) (next : Procedure σ κ Answer α)

/-- What follows once a procedure has ended, which may still wait. -/
def Paused.bind : Paused σ κ Answer α × σ → (α → σ → Paused σ κ Answer β × σ) →
    (α → Procedure σ κ Answer β) → Paused σ κ Answer β × σ
  | (.finished result, state), run, _ => run result state
  | (.calling asked next, state), _, rest =>
      (.calling asked fun answer => (next answer).bind rest, state)
  | (.sleeping wakeUp next, state), _, rest => (.sleeping wakeUp (next.bind rest), state)

/-- Follows a procedure up to its end or its next wait. A moment that the clock of the state has
already reached is not waited for. -/
def run (clock : σ → Nat) : Procedure σ κ Answer α → σ → Paused σ κ Answer α × σ
  | .done result, state => (.finished result, state)
  | .look next, state => (next state).run clock state
  | .set state next, _ => next.run clock state
  | .call asked next, state => (.calling asked next, state)
  | .sleep wakeUp next, state =>
      if wakeUp ≤ clock state then next.run clock state else (.sleeping wakeUp next, state)

theorem run_bind (clock : σ → Nat) (procedure : Procedure σ κ Answer α)
    (rest : α → Procedure σ κ Answer β) (state : σ) :
    (procedure.bind rest).run clock state =
      Paused.bind (procedure.run clock state)
        (fun result state => (rest result).run clock state) rest := by
  induction procedure generalizing state with
  | done => rfl
  | look next ih => exact ih state state
  | set changed next ih => exact ih changed
  | call => rfl
  | sleep wakeUp next ih =>
      simp only [Procedure.bind, run]
      split
      · exact ih state
      · rfl

end Procedure

end VisitorLink
