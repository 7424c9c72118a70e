import VisitorLink.Proofs.Visit.Frames

/-!
# Connected addresses

An address becomes the connected one by a change of one kind only, and every errand that makes this
change has read the address off the provider just before, which shows well-formed addresses only.

Main statement: every piece of every operation leaves the connected address as it is, takes it away
or puts a well-formed one in its place (`Operation.admits_errand`).
-/

namespace VisitorLink

open Errand

namespace State

/-- That the connected address is well formed unless it was connected before. -/
def Admits (before after : State) : Prop :=
  ∀ address, after.address? = some address →
    before.address? = some address ∨ Address.WellFormed address

theorem admits_of_eq {before after : State} (same : after.address? = before.address?) :
    before.Admits after :=
  fun _ connected => .inl (same ▸ connected)

theorem admits_of_none {before after : State} (none : after.address? = none) :
    before.Admits after :=
  fun _ connected => nomatch none.symm.trans connected

theorem Admits.trans {first middle last : State} (before : first.Admits middle)
    (after : middle.Admits last) : first.Admits last := by
  intro address connected
  rcases after address connected with connected | wellFormed
  · exact before address connected
  · exact .inr wellFormed

theorem admits_connect (state : State) {address : String}
    (wellFormed : Address.WellFormed address) : state.Admits (state.connect address) := by
  rintro _ ⟨⟩
  exact .inr wellFormed

theorem finishCheck_address? (state : State) : state.finishCheck.address? = state.address? := by
  unfold finishCheck
  split <;> rfl

theorem admits_of_isUsual (state : State) {change : Change} (usual : change.isUsual = true) :
    state.Admits (state.apply change) := by
  cases change with
  | connect address => exact state.admits_connect (of_decide_eq_true usual)
  | finishCheck => exact admits_of_eq state.finishCheck_address?
  | disconnect | cancelLogin => exact admits_of_none rfl
  | hydrate | check | request | failConnection => cases usual
  | _ => exact admits_of_eq rfl

end State

/-! ## Pieces -/

/-- Addresses are admitted in all the steps that errands are made of. -/
theorem Visit.admits_frame :
    ConnectingFrame fun before after => before.state.Admits after.state where
  refl _ := State.admits_of_eq rfl
  trans _ _ _ before after := before.trans after
  apply visit _ usual := visit.state.admits_of_isUsual usual
  emit visit event := State.admits_of_eq (congrArg State.address? (visit.emit_state event))
  attempt _ _ := State.admits_of_eq rfl
  store _ _ _ := State.admits_of_eq rfl
  detect _ := State.admits_of_eq rfl
  ask _ _ _ := State.admits_of_eq rfl
  check visit change ends := by
    have looks : visit.state.Admits (visit.state.apply .check) := State.admits_of_eq rfl
    refine looks.trans (State.admits_of_isUsual _ ?_)
    cases change <;> first | exact ends | cases ends
  connecting _ _ := State.admits_of_eq rfl
  request _ := State.admits_of_eq rfl
  fail _ _ := State.admits_of_eq rfl
  dial _ := State.admits_of_eq rfl

theorem Operation.admits_errand (operation : Operation) :
    Keeps (fun before after => before.state.Admits after.state) (fun _ => True) (fun _ => True)
      operation.errand := by
  cases connects : operation.connects with
  | false =>
      have apart (before after : Visit) (apart : before.Apart after) :
          before.state.Admits after.state :=
        State.admits_of_eq (congrArg State.address? apart.state)
      exact (Visit.admits_frame.toFrame.keeps_errand apart connects).mono (fun _ _ moves => moves)
        (fun _ _ => trivial) fun _ ends => ends
  | true =>
      exact (Visit.admits_frame.keeps_errand connects).mono (fun _ _ moves => moves)
        (fun _ _ => trivial) fun _ ends => ends

end VisitorLink
