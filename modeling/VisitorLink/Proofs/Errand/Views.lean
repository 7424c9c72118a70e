import VisitorLink.Proofs.Errand.Pieces

/-!
# Errands that see a part of the visit

A view shows a part of a visit. An errand sees nothing but this part if it does the same on any two
visits of which the view shows the same: its first piece stops in the same way, with the same rest,
and leaves visits of which the view shows the same again; and so it is with each piece that
follows.

Main statement: one errand after another sees nothing but the part that both see
(`SeesOnly.bind`).
-/

namespace VisitorLink.Errand

variable {α β σ : Type}

/-- That an errand depends on nothing but what a view shows, and changes what the view shows in no
other way either. -/
inductive SeesOnly (view : Visit → σ) : Errand α → Prop
  | intro {errand : Errand α}
      (same : ∀ visit visit', view visit = view visit' →
        (run errand visit).1 = (run errand visit').1 ∧
          view (run errand visit).2 = view (run errand visit').2)
      (answered : ∀ visit call next, (run errand visit).1 = .calling call next →
        ∀ answer, SeesOnly view (next answer))
      (woken : ∀ visit wakeUp next, (run errand visit).1 = .sleeping wakeUp next →
        SeesOnly view next) : SeesOnly view errand

variable {view : Visit → σ} {errand : Errand α} {visit visit' : Visit}

theorem SeesOnly.same (sees : SeesOnly view errand) (alike : view visit = view visit') :
    (run errand visit).1 = (run errand visit').1 ∧
      view (run errand visit).2 = view (run errand visit').2 := by
  cases sees with
  | intro same answered woken => exact same visit visit' alike

/-- What `SeesOnly` says of what is left of an errand. -/
def StillSees (view : Visit → σ) : Paused α → Prop
  | .finished _ => True
  | .calling _ next => ∀ answer, SeesOnly view (next answer)
  | .sleeping _ next => SeesOnly view next

theorem SeesOnly.stillSees (sees : SeesOnly view errand) (visit : Visit) :
    StillSees view (run errand visit).1 := by
  cases sees with
  | intro same answered woken =>
      cases stops : (run errand visit).1 with
      | finished result => trivial
      | calling call next => exact answered visit call next stops
      | sleeping wakeUp next => exact woken visit wakeUp next stops

theorem SeesOnly.of_stillSees
    (same : ∀ visit visit', view visit = view visit' →
      (run errand visit).1 = (run errand visit').1 ∧
        view (run errand visit).2 = view (run errand visit').2)
    (still : ∀ visit, StillSees view (run errand visit).1) : SeesOnly view errand := by
  refine .intro same (fun visit call next calls => ?_) fun visit wakeUp next sleeps => ?_
  · have still := still visit
    rwa [calls] at still
  · have still := still visit
    rwa [sleeps] at still

/-- One errand after another. -/
theorem SeesOnly.bind (sees : SeesOnly view errand) {rest : α → Errand β}
    (after : ∀ result, SeesOnly view (rest result)) : SeesOnly view (errand >>= rest) := by
  induction sees with
  | @intro errand same answered woken ihAnswered ihWoken =>
      refine .of_stillSees (fun visit visit' alike => ?_) fun visit => ?_
      · obtain ⟨stops, left⟩ := same visit visit' alike
        rw [run_bind, run_bind]
        generalize run errand visit = piece at stops left
        generalize run errand visit' = piece' at stops left
        obtain ⟨paused, middle⟩ := piece
        obtain ⟨_, middle'⟩ := piece'
        cases stops
        cases paused with
        | finished result => exact (after result).same left
        | _ => exact ⟨rfl, left⟩
      · rw [run_bind]
        cases stops : run errand visit with
        | mk paused middle =>
            have first := congrArg Prod.fst stops
            cases paused with
            | finished result => exact (after result).stillSees middle
            | calling call next => exact ihAnswered visit call next first
            | sleeping wakeUp next => exact ihWoken visit wakeUp next first

/-! ## Steps -/

/-- What ends at once, with a result that the view shows, and changes what it shows likewise. -/
theorem seesOnly_of_finishes (result : Visit → α) (after : Visit → Visit)
    (finishes : ∀ visit, run errand visit = (.finished (result visit), after visit))
    (same : ∀ visit visit', view visit = view visit' →
      result visit = result visit' ∧ view (after visit) = view (after visit')) :
    SeesOnly view errand := by
  refine .of_stillSees (fun visit visit' alike => ?_) fun visit => ?_
  · rw [finishes, finishes]
    obtain ⟨ends, left⟩ := same visit visit' alike
    exact ⟨congrArg Procedure.Paused.finished ends, left⟩
  · rw [finishes]
    trivial

theorem seesOnly_pure (result : α) : SeesOnly view (pure result) :=
  seesOnly_of_finishes (fun _ => result) id (fun _ => rfl) fun _ _ alike => ⟨rfl, alike⟩

theorem SeesOnly.map (sees : SeesOnly view errand) (rename : α → β) :
    SeesOnly view (rename <$> errand) :=
  sees.bind fun result => seesOnly_pure (rename result)

theorem seesOnly_modify {change : Visit → Visit}
    (same : ∀ visit visit', view visit = view visit' →
      view (change visit) = view (change visit')) : SeesOnly view (modify change) :=
  seesOnly_of_finishes (fun _ => ()) change (fun _ => rfl) fun visit visit' alike =>
    ⟨rfl, same visit visit' alike⟩

/-- A call of which the view shows the same. -/
theorem seesOnly_ask {call : Call}
    (same : ∀ visit visit', view visit = view visit' →
      view (visit.inquire (.call call)) = view (visit'.inquire (.call call))) :
    SeesOnly view (ask call) := by
  refine .of_stillSees (fun visit visit' alike => ⟨rfl, same visit visit' alike⟩) fun visit => ?_
  intro answer
  exact seesOnly_pure answer

/-- A look at what the view shows. -/
theorem seesOnly_visit_bind {rest : Visit → Errand β}
    (same : ∀ visit visit', view visit = view visit' → rest visit = rest visit')
    (after : ∀ seen, SeesOnly view (rest seen)) : SeesOnly view (Errand.visit >>= rest) := by
  refine .of_stillSees (fun visit visit' alike => ?_) fun visit => ?_
  · rw [run_visit_bind, run_visit_bind, same visit visit' alike]
    exact (after visit').same alike
  · rw [run_visit_bind]
    exact (after visit).stillSees visit

end VisitorLink.Errand
