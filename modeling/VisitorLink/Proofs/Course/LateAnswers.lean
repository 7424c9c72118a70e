import VisitorLink.Proofs.Course.Threads

/-!
# Late answers

An operation that links or verifies a wallet waits for answers while anything else may happen. Its
last answer counts only if the visitor and the connected address are still those that it took up.

Main statement: a last answer that comes too late ends the operation as stale and leaves the whole
visit alone, and one that is in time never lets it end as stale (`last_answer_counts_for_its_pair`).
-/

namespace VisitorLink

namespace Course

variable {settings : VisitSettings} {outside : Outside} {storage : Storage} {state : State}

/-- An answer to an operation that pursues a visitor and an address. A signature is passed on. Any
other answer is the last one: if the visitor or the address is not the present one, the operation
ends as stale and nothing else happens to the visit; if both are, it never ends as stale. -/
theorem last_answer_counts_for_its_pair {begun course : Course} {number : Nat} {id address : String}
    {operation : Operation} {call : Call} {next : call.Answer → Errand Outcome}
    (reaches : Reaches (opening settings outside storage state) begun)
    (takes : begun.TakesUp number id address) (goesOn : Reaches begun course)
    (waits : ⟨number, operation, .calling call next⟩ ∈ course.waiting)
    (wallet : call.isAboutWallet = true) (answer : call.Answer) {after : Course}
    (answered : after = course.answer number operation call next answer) :
    if (Cue.answer call answer).isSignature then
      ∃ request next', request.address = address ∧
        ⟨number, operation, .calling (.service (.linkWallet id request)) next'⟩ ∈ after.waiting
    else if course.visit.state.isCurrent id address then
      ∀ later outcome, Reaches after later → .ended number outcome ∈ later.history →
        outcome.isStale = false
    else
      after.visit = course.visit ∧ ∃ outcome, operation.EndsLate outcome ∧
        after.history =
          course.history ++ [.answered number call answer, .ended number outcome] := by
  subst answered
  have thread := (takes.thread reaches).reaches (Operation.pursues_persists id address) goesOn
  have pursues := thread.waits waits
  obtain ⟨stage, stands, about⟩ := pursues.stands
  have resumes : Resumes course number operation (.answer call answer) _ := .answer waits answer
  have first := reaches.trans goesOn
  split
  case isTrue signed =>
    obtain ⟨message, signature, same⟩ := Cue.eq_of_isSignature signed
    cases same
    obtain ⟨request, next', about, _, _, _, stops⟩ := stands.signed about signature course.visit
    refine ⟨request, next', about, ?_⟩
    unfold Course.answer
    rw [stops]
    exact mem_waiting_pause_calling _ _ _ _ _ _
  case isFalse unsigned =>
    rw [Bool.not_eq_true] at unsigned
    split
    case isTrue current =>
      intro later outcome goesOn ended
      have inTime := stands.inTime about unsigned current
      have fresh : (course.answer number operation call next answer).Thread number
          Operation.InTime :=
        (resumes.thread first.numbered first.settled).pause fun _ => inTime
      obtain ⟨_, ends⟩ := (fresh.reaches Operation.inTime_persists goesOn).ended ended
      cases ends with
      | finished fresh => exact fresh
      | aside waits => cases waits
    case isFalse late =>
      rw [Bool.not_eq_true] at late
      obtain ⟨outcome, stops, ends⟩ := stands.late about wallet unsigned late
      unfold Course.answer
      rw [stops]
      exact ⟨rfl, outcome, ends, List.append_assoc _ _ _⟩

/-- A verification is cancelled while the prompt is open, and the prompt is refused afterwards. -/
theorem refusal_after_cancelling_is_stale :
    ∃ (course : Course) (message : String) (next : Except String String → Errand Outcome),
      ⟨0, .verify, .calling (.provider (.signMessage message)) next⟩ ∈ course.waiting ∧
      course.visit.state.isCurrent "visitor" "wallet" = false ∧
      (course.answer 0 .verify (.provider (.signMessage message)) next (.error "no")).visit =
        course.visit := by
  let first := opening {} { random := Vector.replicate 16 0 } (.memory {} {})
    { visitor := some { id := "visitor" }, connection.address := some "wallet" }
  have asks : ((Operation.errand .verify).run first.visit).1 =
    .calling (.provider (.signMessage _)) _ := rfl
  have current : first.visit.state.isCurrent "visitor" "wallet" = true := by decide
  have takes := takesUp_start (.inr (.inl rfl)) asks rfl current
  have waits : ⟨0, .verify, .calling (.provider (.signMessage _)) _⟩ ∈
    ((first.start .verify).start .cancelLogin).waiting := List.mem_singleton.2 rfl
  have counts := last_answer_counts_for_its_pair (.step .refl (.start _ _)) takes
    (.step .refl (.start _ .cancelLogin)) waits rfl (.error "no") rfl
  exact ⟨_, _, _, waits, rfl, counts.1⟩

end Course

end VisitorLink
