import VisitorLink.Proofs.Visit.Effect

/-!
# A verification that stays under way

The flag for a verification under way is reset by whatever changes the visitor or the connected
address. `State.Steady` is the converse: it is not reset while both stay. Everything but the answers
to the verification itself is steady.
-/

namespace VisitorLink

/-- Whether an operation is set going by the answer to a challenge or to a signature. -/
def Cue.isProof : Cue → Bool
  | .answer (.provider (.signMessage _)) _ | .answer (.service (.linkWallet _ _)) _ => true
  | _ => false

namespace State

/-- That a verification under way stays under way if the visitor and the address are the same in the
end. -/
def Steady (first last : State) : Prop :=
  ∀ id address, first.isCurrent id address = true → last.isCurrent id address = true →
    first.connection.verifying = true → last.connection.verifying = true

/-- That the visitor, the address and the verification under way stay the same. -/
structure Stays (first last : State) : Prop where
  visitor : last.visitor = first.visitor
  address : last.address? = first.address?
  verifying : last.connection.verifying = first.connection.verifying

variable {first middle last : State}

theorem Stays.refl (state : State) : state.Stays state where
  visitor := rfl
  address := rfl
  verifying := rfl

theorem Stays.isCurrent (stays : middle.Stays last) (id address : String) :
    last.isCurrent id address = middle.isCurrent id address := by
  simp only [State.isCurrent, visitorId?, stays.visitor, stays.address]

theorem stays_finishCheck (state : State) : state.Stays state.finishCheck where
  visitor := state.finishCheck_keeps.1
  address := state.finishCheck_keeps.2.1
  verifying := state.finishCheck_keeps.2.2.2

theorem Steady.stays (steady : first.Steady middle) (stays : middle.Stays last) :
    first.Steady last := by
  intro id address before after underWay
  rw [stays.isCurrent] at after
  rw [stays.verifying]
  exact steady id address before after underWay

theorem Stays.steady (stays : first.Stays last) : first.Steady last :=
  Steady.stays (fun _ _ _ _ underWay => underWay) stays

/-- Without a connected wallet at first or in the end, nothing has to stay. -/
theorem steady_of_unconnected (gone : first.address? = none ∨ last.address? = none) :
    first.Steady last := by
  intro id address before after _
  rcases gone with gone | gone
  · cases gone.symm.trans (isCurrent_iff.1 before).2
  · cases gone.symm.trans (isCurrent_iff.1 after).2

/-- The record of the same visitor does not reset the flag. -/
theorem steady_load (state : State) (visitor : Visitor) : state.Steady (state.load visitor) := by
  intro id address before after underWay
  have known := (isCurrent_iff.1 before).1
  have loaded : visitor.id = id := Option.some.inj (isCurrent_iff.1 after).1
  have same : (state.visitor.any fun other => other.id != visitor.id) = false := by
    unfold visitorId? at known
    cases present : state.visitor with
    | none => rfl
    | some other =>
        rw [present] at known
        simpa [loaded] using Option.some.inj known
  have kept : (state.load visitor).connection.verifying =
    (state.connection.verifying && !state.visitor.any fun other => other.id != visitor.id) := rfl
  rw [kept, same, underWay]
  rfl

/-- Connecting the address at which the stretch began does not reset the flag. -/
theorem Steady.connect (steady : first.Steady middle) (same : middle.address? = first.address?)
    (address : String) : first.Steady (middle.connect address) := by
  intro id wallet before after underWay
  have reached : address = wallet := Option.some.inj (isCurrent_iff.1 after).2
  have connected := same.trans (isCurrent_iff.1 before).2
  have loaded : middle.visitorId? = some id := (isCurrent_iff.1 after).1
  have kept := steady id wallet before (isCurrent_iff.2 ⟨loaded, connected⟩) underWay
  unfold address? at connected
  rw [connect_verifying, connected, reached, kept]
  simp

theorem steady_of_verifying (kept : last.connection.verifying = first.connection.verifying) :
    first.Steady last :=
  fun _ _ _ _ underWay => kept.trans underWay

end State

end VisitorLink
