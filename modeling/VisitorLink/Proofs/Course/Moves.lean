import Mathlib.Data.List.Nodup
import VisitorLink.Proofs.Visit.Turns
import VisitorLink.Visit.Interleaving

/-!
# Moves

A step of a course is a turn of one operation, or it leaves the state and the operations that wait
alone. `Course.Moves` puts the steps in this form, for courses in which every operation that waits
stands at a stage.

Main statements: the courses of a visit are `Staged` (`Reaches.staged`), their steps are moves
(`Step.moves`), and an operation that waits has not ended (`Reaches.settled`).
-/

namespace VisitorLink

/-- Whether something that happened is neither the end of an operation nor a call of one. -/
def Happening.isAside : Happening → Bool
  | .asked _ _ | .ended _ _ => false
  | _ => true

/-- The answer to a heartbeat leaves the state. -/
theorem Visit.answerHeartbeat_state (visit : Visit) (number : Nat) :
    (visit.answerHeartbeat number).state = visit.state := by
  unfold answerHeartbeat
  split <;> rfl

/-- An operation that waits after its turn stands at a stage. -/
theorem Operation.Turn.stands {operation : Operation} {cue : Cue} {before : Visit}
    {piece : Errand.Paused Outcome × Visit} (turn : operation.Turn cue before piece) :
    (∃ outcome, piece.1 = .finished outcome) ∨ ∃ stage, operation.WaitsAt stage piece.1 := by
  cases turn with
  | rest effect rests =>
      generalize piece.1 = paused at rests
      cases rests with
      | finished outcome => exact .inl ⟨outcome, rfl⟩
      | waits waits opens => exact .inr ⟨_, waits⟩
  | prompt current idle waits starts => exact .inr ⟨_, waits⟩
  | submit waits => exact .inr ⟨_, waits⟩
  | remove waits => exact .inr ⟨_, waits⟩

namespace Course

/-! ## Pausing -/

@[simp] theorem pause_visit (course : Course) (number : Nat) (operation : Operation)
    (piece : Errand.Paused Outcome × Visit) :
    (course.pause number operation piece).visit = piece.2 := by
  rcases piece with ⟨_ | _ | _, visit⟩ <;> rfl

@[simp] theorem pause_started (course : Course) (number : Nat) (operation : Operation)
    (piece : Errand.Paused Outcome × Visit) :
    (course.pause number operation piece).started = course.started := by
  rcases piece with ⟨_ | _ | _, visit⟩ <;> rfl

/-- An answer runs what was waiting for it, up to where that stops. -/
theorem answer_visit (course : Course) (number : Nat) (operation : Operation) (call : Call)
    (next : call.Answer → Errand Outcome) (answer : call.Answer) :
    (course.answer number operation call next answer).visit =
      ((next answer).run course.visit).2 :=
  pause_visit _ _ _ _

/-- Pausing leaves at most the paused operation waiting in addition, if it has not ended. -/
theorem mem_waiting_pause {course : Course} {number : Nat} {operation : Operation}
    {piece : Errand.Paused Outcome × Visit} {waiting : Waiting}
    (mem : waiting ∈ (course.pause number operation piece).waiting) :
    waiting ∈ course.waiting ∨
      waiting = ⟨number, operation, piece.1⟩ ∧ ∀ outcome, piece.1 ≠ .finished outcome := by
  rcases piece with ⟨_ | _ | _, visit⟩
  · exact .inl mem
  all_goals
    rcases List.mem_append.1 mem with mem | mem
    · exact .inl mem
    · exact .inr ⟨List.mem_singleton.1 mem, fun _ => nofun⟩

/-- What waited before an operation paused waits on. -/
theorem mem_waiting_pause_of_mem {course : Course} {waiting : Waiting}
    (mem : waiting ∈ course.waiting) (number : Nat) (operation : Operation)
    (piece : Errand.Paused Outcome × Visit) :
    waiting ∈ (course.pause number operation piece).waiting := by
  rcases piece with ⟨_ | _ | _, visit⟩
  · exact mem
  all_goals exact List.mem_append_left _ mem

/-- An operation that makes a call waits for its answer. -/
theorem mem_waiting_pause_calling (course : Course) (number : Nat) (operation : Operation)
    (call : Call) (next : call.Answer → Errand Outcome) (visit : Visit) :
    ⟨number, operation, .calling call next⟩ ∈
      (course.pause number operation (.calling call next, visit)).waiting :=
  List.mem_append_right _ (List.mem_singleton.2 rfl)

/-- An operation that has not ended waits. -/
theorem mem_waiting_pause_self (course : Course) (number : Nat) (operation : Operation)
    {piece : Errand.Paused Outcome × Visit} (waits : ∀ outcome, piece.1 ≠ .finished outcome) :
    ⟨number, operation, piece.1⟩ ∈ (course.pause number operation piece).waiting := by
  rcases piece with ⟨_ | _ | _, visit⟩
  · exact absurd rfl (waits _)
  all_goals exact List.mem_append_right _ (List.mem_singleton.2 rfl)

/-- What a pause adds to the history. -/
def pauseNote (number : Nat) : Errand.Paused Outcome → List Happening
  | .finished outcome => [.ended number outcome]
  | .calling call _ => [.asked number call]
  | .sleeping _ _ => []

/-- A pause is noted in the history. -/
theorem pause_history (course : Course) (number : Nat) (operation : Operation)
    (piece : Errand.Paused Outcome × Visit) :
    (course.pause number operation piece).history = course.history ++ pauseNote number piece.1 := by
  rcases piece with ⟨_ | _ | _, visit⟩
  · rfl
  · rfl
  · exact (List.append_nil _).symm

/-- That an operation has made a call in the last step of a course. -/
def Sends (course : Course) (number : Nat) (call : Call) : Prop :=
  course.history.getLast? = some (.asked number call)

/-- An operation that pauses at a call has made it. -/
theorem sends_pause (course : Course) (number : Nat) (operation : Operation) (call : Call)
    (next : call.Answer → Errand Outcome) (visit : Visit) :
    (course.pause number operation (.calling call next, visit)).Sends number call :=
  List.getLast?_concat

/-- There is one call in a step at most. -/
theorem Sends.unique {course : Course} {number other : Nat} {call called : Call}
    (sends : course.Sends number call) (sends' : course.Sends other called) :
    number = other ∧ call = called := by
  cases Option.some.inj (sends.symm.trans sends')
  exact ⟨rfl, rfl⟩

/-- After something that is no call, no operation has just made one. -/
theorem not_sends_of_aside {course : Course} {history : List Happening} {happening : Happening}
    (aside : happening.isAside = true) (last : course.history = history ++ [happening])
    (number : Nat) (call : Call) : ¬ course.Sends number call := by
  intro sends
  rw [Sends, last, List.getLast?_concat] at sends
  cases sends
  cases aside

/-- What happens aside tells of no end and of no call. -/
theorem mem_history_iff_of_aside {course after : Course} {happening told : Happening}
    (aside : happening.isAside = true) (history : after.history = course.history ++ [happening])
    (tells : told.isAside = false) : told ∈ after.history ↔ told ∈ course.history := by
  rw [history, List.mem_append, List.mem_singleton]
  refine ⟨?_, .inl⟩
  rintro (mem | rfl)
  · exact mem
  · cases aside.symm.trans tells

/-- A pause ends no other operation. -/
theorem eq_of_ended_mem_pauseNote {number other : Nat} {outcome : Outcome}
    {paused : Errand.Paused Outcome} (mem : .ended other outcome ∈ pauseNote number paused) :
    other = number ∧ paused = .finished outcome := by
  cases paused with
  | finished result =>
      cases List.mem_singleton.1 mem
      exact ⟨rfl, rfl⟩
  | calling call next => cases List.mem_singleton.1 mem
  | sleeping wakeUp next => cases mem

/-- A pause notes no call of another operation. -/
theorem eq_of_asked_mem_pauseNote {number other : Nat} {call : Call}
    {paused : Errand.Paused Outcome} (mem : .asked other call ∈ pauseNote number paused) :
    other = number ∧ ∃ next, paused = .calling call next := by
  cases paused with
  | finished result => cases List.mem_singleton.1 mem
  | calling called next =>
      cases List.mem_singleton.1 mem
      exact ⟨rfl, next, rfl⟩
  | sleeping wakeUp next => cases mem

/-- An operation that waits is told by its number. -/
theorem Numbered.eq {course : Course} (numbered : course.Numbered) {waiting other : Waiting}
    (mem : waiting ∈ course.waiting) (mem' : other ∈ course.waiting)
    (same : waiting.number = other.number) : waiting = other :=
  List.inj_on_of_nodup_map numbered.nodup mem mem' same

/-! ## Resuming -/

/-- How an operation comes to have a turn: the course with its cue noted, in which it does not wait
any more. -/
inductive Resumes (before : Course) : Nat → Operation → Cue → Course → Prop
  | start (operation : Operation) :
      Resumes before before.started operation .go
        ({ before with started := before.started + 1 }.note (.started before.started operation))
  | answer {number : Nat} {operation : Operation} {call : Call}
      {next : call.Answer → Errand Outcome}
      (waits : ⟨number, operation, .calling call next⟩ ∈ before.waiting) (answer : call.Answer) :
      Resumes before number operation (.answer call answer)
        ((before.without number).note (.answered number call answer))
  | wake {number wakeUp : Nat} {operation : Operation} {next : Errand Outcome}
      (waits : ⟨number, operation, .sleeping wakeUp next⟩ ∈ before.waiting) :
      Resumes before number operation .go ((before.without number).note (.woken number))

variable {before resumed after : Course} {number : Nat} {operation : Operation} {cue : Cue}

/-- Having a turn makes no operation wait. -/
theorem Resumes.mem_waiting (resumes : Resumes before number operation cue resumed)
    {waiting : Waiting} (mem : waiting ∈ resumed.waiting) : waiting ∈ before.waiting := by
  cases resumes with
  | start operation => exact mem
  | answer waits answer => exact (List.mem_filter.1 mem).1
  | wake waits => exact (List.mem_filter.1 mem).1

/-- Only the operation that has the turn stops waiting. -/
theorem Resumes.mem_waiting_of_ne (resumes : Resumes before number operation cue resumed)
    {waiting : Waiting} (mem : waiting ∈ before.waiting) (other : waiting.number ≠ number) :
    waiting ∈ resumed.waiting := by
  cases resumes with
  | start operation => exact mem
  | answer waits answer => exact List.mem_filter.2 ⟨mem, by simpa using other⟩
  | wake waits => exact List.mem_filter.2 ⟨mem, by simpa using other⟩

/-- Having a turn is noted first. -/
theorem Resumes.history_eq (resumes : Resumes before number operation cue resumed) :
    ∃ happening, happening.isAside = true ∧ resumed.history = before.history ++ [happening] := by
  cases resumes with
  | start operation => exact ⟨_, rfl, rfl⟩
  | answer waits answer => exact ⟨_, rfl, rfl⟩
  | wake waits => exact ⟨_, rfl, rfl⟩

/-- That note is neither an end nor a call. -/
theorem Resumes.mem_history_iff {told : Happening}
    (resumes : Resumes before number operation cue resumed) (tells : told.isAside = false) :
    told ∈ resumed.history ↔ told ∈ before.history := by
  obtain ⟨happening, aside, history⟩ := resumes.history_eq
  exact mem_history_iff_of_aside aside history tells

/-- A turn tells of no end and of no call but by the note of its piece. -/
theorem Resumes.mem_pause_history_iff {told : Happening} {piece : Errand.Paused Outcome × Visit}
    (resumes : Resumes before number operation cue resumed) (tells : told.isAside = false) :
    told ∈ (resumed.pause number operation piece).history ↔
      told ∈ before.history ∨ told ∈ pauseNote number piece.1 := by
  rw [pause_history, List.mem_append, resumes.mem_history_iff tells]

/-- What is called in a turn is what the piece waits for. -/
theorem Resumes.of_sends {other : Nat} {piece : Errand.Paused Outcome × Visit} {call : Call}
    (resumes : Resumes before number operation cue resumed)
    (sends : (resumed.pause number operation piece).Sends other call) :
    other = number ∧ ∃ next, piece.1 = .calling call next := by
  obtain ⟨happening, aside, history⟩ := resumes.history_eq
  rcases piece with ⟨paused, visit⟩
  cases paused with
  | finished outcome =>
      rw [Sends, pause_history, pauseNote, List.getLast?_concat] at sends
      cases sends
  | calling called next =>
      obtain ⟨rfl, rfl⟩ := (sends_pause _ _ _ _ _ _).unique sends
      exact ⟨rfl, next, rfl⟩
  | sleeping wakeUp next => exact absurd sends (not_sends_of_aside aside history other call)

/-- The operation that has the turn does not wait meanwhile. -/
theorem Resumes.fresh (resumes : Resumes before number operation cue resumed)
    (numbered : before.Numbered) : number ∉ resumed.numbers := by
  cases resumes with
  | start operation => exact fun mem => Nat.lt_irrefl _ (numbered.lt_started _ mem)
  | answer waits answer => exact not_mem_numbers_without before number
  | wake waits => exact not_mem_numbers_without before number

/-- Having a turn takes back no start. -/
theorem Resumes.started_le (resumes : Resumes before number operation cue resumed) :
    before.started ≤ resumed.started := by
  cases resumes with
  | start operation => exact Nat.le_succ _
  | answer waits answer => exact Nat.le_refl _
  | wake waits => exact Nat.le_refl _

/-- The operation that has a turn has been started. -/
theorem Resumes.lt_started (resumes : Resumes before number operation cue resumed)
    (numbered : before.Numbered) : number < resumed.started := by
  cases resumes with
  | start operation => exact Nat.lt_succ_self _
  | answer waits answer => exact numbered.lt_started _ (List.mem_map_of_mem waits)
  | wake waits => exact numbered.lt_started _ (List.mem_map_of_mem waits)

/-- An operation that has a turn is started with it, or it waited. -/
theorem Resumes.origin (resumes : Resumes before number operation cue resumed) :
    number = before.started ∨ number ∈ before.numbers := by
  cases resumes with
  | start operation => exact .inl rfl
  | answer waits answer => exact .inr (List.mem_map_of_mem waits)
  | wake waits => exact .inr (List.mem_map_of_mem waits)

/-! ## Moves -/

/-- That every operation that waits stands at a stage. -/
def Staged (course : Course) : Prop :=
  ∀ waiting ∈ course.waiting, ∃ stage, waiting.operation.WaitsAt stage waiting.paused

/-- What a step does to a course. -/
inductive Moves (before : Course) : Course → Prop
  | turn {number : Nat} {operation : Operation} {cue : Cue} {resumed : Course}
      {piece : Errand.Paused Outcome × Visit}
      (resumes : Resumes before number operation cue resumed)
      (turn : operation.Turn cue before.visit piece) :
      Moves before (resumed.pause number operation piece)
  | aside {after : Course} {happening : Happening} (state : after.visit.state = before.visit.state)
      (waiting : after.waiting = before.waiting) (started : after.started = before.started)
      (aside : happening.isAside = true) (history : after.history = before.history ++ [happening]) :
      Moves before after

/-- Every step of a staged course is a turn of an operation, or nothing but the outside. -/
theorem Step.moves (step : Step before after) (staged : before.Staged) : Moves before after := by
  cases step with
  | start operation => exact .turn (.start operation) (operation.turn_start before.visit)
  | answer waits answer =>
      obtain ⟨stage, stands⟩ := staged _ waits
      exact .turn (.answer waits answer) (Operation.turn_answer stands answer before.visit)
  | wake waits due =>
      obtain ⟨stage, stands⟩ := staged _ waits
      exact .turn (.wake waits) (Operation.turn_wake stands before.visit)
  | beat due => exact .aside rfl rfl rfl rfl rfl
  | answerBeat sent => exact .aside (before.visit.answerHeartbeat_state _) rfl rfl rfl rfl
  | giveUpBeat => exact .aside rfl rfl rfl rfl rfl
  | changeOutside later => exact .aside rfl rfl rfl rfl rfl

/-- A move keeps the course staged. -/
theorem Staged.moves (staged : before.Staged) (moves : Moves before after) : after.Staged := by
  intro waiting mem
  cases moves with
  | turn resumes turn =>
      rcases mem_waiting_pause mem with mem | ⟨rfl, waits⟩
      · exact staged waiting (resumes.mem_waiting mem)
      · rcases turn.stands with ⟨outcome, ends⟩ | stands
        · exact absurd ends (waits outcome)
        · exact stands
  | aside state same started aside history =>
      rw [same] at mem
      exact staged waiting mem

/-! ## Courses of a visit -/

variable {settings : VisitSettings} {outside : Outside} {storage : Storage} {state : State}

/-- Every course that is reached is staged, by induction on its steps. -/
theorem Reaches.staged {course : Course}
    (reaches : Reaches (opening settings outside storage state) course) : course.Staged := by
  induction reaches with
  | refl => exact fun waiting mem => absurd mem List.not_mem_nil
  | step before next ih => exact ih.moves (next.moves ih)

/-- That the operations that have ended do not wait. -/
def Settled (course : Course) : Prop :=
  ∀ number outcome, .ended number outcome ∈ course.history →
    number < course.started ∧ number ∉ course.numbers

/-- A move keeps the operations that have ended from waiting. -/
theorem Settled.moves (settled : before.Settled) (numbered : before.Numbered)
    (moves : Moves before after) : after.Settled := by
  intro number outcome mem
  cases moves with
  | turn resumes turn =>
      rw [resumes.mem_pause_history_iff rfl] at mem
      rw [pause_started]
      rcases mem with mem | mem
      · obtain ⟨lt, gone⟩ := settled number outcome mem
        refine ⟨Nat.lt_of_lt_of_le lt resumes.started_le, fun waits => ?_⟩
        obtain ⟨waiting, stays, rfl⟩ := List.mem_map.1 waits
        rcases mem_waiting_pause stays with stays | ⟨rfl, _⟩
        · exact gone (List.mem_map_of_mem (resumes.mem_waiting stays))
        · rcases resumes.origin with started | waited
          · exact Nat.lt_irrefl _ (started ▸ lt)
          · exact gone waited
      · obtain ⟨rfl, ends⟩ := eq_of_ended_mem_pauseNote mem
        refine ⟨resumes.lt_started numbered, fun waits => ?_⟩
        obtain ⟨waiting, stays, same⟩ := List.mem_map.1 waits
        rcases mem_waiting_pause stays with stays | ⟨_, goesOn⟩
        · exact resumes.fresh numbered (same ▸ List.mem_map_of_mem stays)
        · exact goesOn outcome ends
  | aside state same started aside history =>
      rw [numbers, same, started]
      exact settled number outcome ((mem_history_iff_of_aside aside history rfl).1 mem)

/-- An operation that waits has not ended. -/
theorem Reaches.settled {course : Course}
    (reaches : Reaches (opening settings outside storage state) course) : course.Settled := by
  induction reaches with
  | refl => exact fun _ _ mem => absurd mem List.not_mem_nil
  | step before next ih => exact ih.moves before.numbered (next.moves before.staged)

end Course

end VisitorLink
