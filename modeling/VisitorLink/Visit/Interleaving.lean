import VisitorLink.Visit.Operation

/-!
# Interleavings

While one operation of a client waits, others may be started, and answers may arrive in any order.
A `Course` is a visit together with the operations that wait and with all that happened so far.
What an operation does between two waits happens at once, so a course goes on by whole pieces of
operations: `Course.Step` says by which ones, and `Course.Reaches` by any number of them.

Main statements: no operation waits twice at the same time (`Reaches.nodup_numbers`), and what
happened stays in the history in its order (`Reaches.history_prefix`).
-/

namespace VisitorLink

/-- An operation that waits, with the number that tells it apart from the other operations of the
course. -/
structure Waiting where
  number : Nat
  operation : Operation
  paused : Errand.Paused Outcome

/-- Something that happens in the course of a visit. -/
inductive Happening
  | started (number : Nat) (operation : Operation)
  | asked (number : Nat) (call : Call)
  | answered (number : Nat) (call : Call) (answer : call.Answer)
  | woken (number : Nat)
  | ended (number : Nat) (outcome : Outcome)
  /-- The heartbeat of a session was sent in the background. -/
  | beat (visitor : String)
  | beatAnswered
  /-- A heartbeat that cannot be timed was given up. -/
  | beatGivenUp
  /-- The outside is no longer what it was. -/
  | outsideChanged

/-- A visit, the operations that wait, and what happened so far. -/
structure Course where
  visit : Visit
  waiting : List Waiting := []
  /-- The heartbeats that were sent in the background and not answered yet, by the number of
  heartbeats started before. -/
  beats : List Nat := []
  /-- The number of operations started so far. -/
  started : Nat := 0
  /-- What happened, oldest first. -/
  history : List Happening := []

namespace Course

/-- The course after something happened. -/
def note (course : Course) (happening : Happening) : Course :=
  { course with history := course.history ++ [happening] }

/-- The course without the operation of a number. -/
def without (course : Course) (number : Nat) : Course :=
  { course with waiting := course.waiting.filter fun other => other.number != number }

/-- The course with one more operation that waits. -/
def wait (course : Course) (waiting : Waiting) : Course :=
  { course with waiting := course.waiting ++ [waiting] }

/-- The course after a piece of an operation, which ends it or leaves it waiting. -/
def pause (course : Course) (number : Nat) (operation : Operation) :
    Errand.Paused Outcome × Visit → Course
  | (.finished outcome, visit) => { course with visit := visit }.note (.ended number outcome)
  | (.calling call next, visit) =>
      ({ course with visit := visit }.wait ⟨number, operation, .calling call next⟩).note
        (.asked number call)
  | (.sleeping wakeUp next, visit) =>
      { course with visit := visit }.wait ⟨number, operation, .sleeping wakeUp next⟩

/-- The course after an operation was started. -/
def start (course : Course) (operation : Operation) : Course :=
  ({ course with started := course.started + 1 }.note (.started course.started operation)).pause
    course.started operation (operation.errand.run course.visit)

/-- The course after the call of an operation was answered. -/
def answer (course : Course) (number : Nat) (operation : Operation) (call : Call)
    (next : call.Answer → Errand Outcome) (answer : call.Answer) : Course :=
  ((course.without number).note (.answered number call answer)).pause number operation
    ((next answer).run course.visit)

/-- The course after an operation has waited long enough. -/
def wake (course : Course) (number : Nat) (operation : Operation) (next : Errand Outcome) :
    Course :=
  ((course.without number).note (.woken number)).pause number operation (next.run course.visit)

/-- The course after a heartbeat was sent in the background. -/
def beat (course : Course) (heartbeat : Heartbeat) : Course :=
  { course with
    visit := course.visit.sendHeartbeat heartbeat
    beats := course.visit.tracker.heartbeats :: course.beats }.note (.beat heartbeat.visitor)

/-- The course after a heartbeat that was sent in the background was answered. -/
def answerBeat (course : Course) (number : Nat) : Course :=
  { course with
    visit := course.visit.answerHeartbeat number
    beats := course.beats.erase number }.note .beatAnswered

/-- The course after the heartbeat was given up, if it cannot be timed. -/
def giveUpBeat (course : Course) : Course :=
  { course with visit := course.visit.giveUpHeartbeat }.note .beatGivenUp

/-- The course with the outside changed. -/
def changeOutside (course : Course) (outside : Outside) : Course :=
  { course with visit.outside := outside }.note .outsideChanged

/-- What can happen next. The clock moves by changes of the outside, and only forwards. -/
inductive Step : Course → Course → Prop
  | start (course : Course) (operation : Operation) : Step course (course.start operation)
  | answer {course : Course} {number : Nat} {operation : Operation} {call : Call}
      {next : call.Answer → Errand Outcome}
      (waits : ⟨number, operation, .calling call next⟩ ∈ course.waiting)
      (answer : call.Answer) : Step course (course.answer number operation call next answer)
  | wake {course : Course} {number wakeUp : Nat} {operation : Operation} {next : Errand Outcome}
      (waits : ⟨number, operation, .sleeping wakeUp next⟩ ∈ course.waiting)
      (due : wakeUp ≤ course.visit.outside.clock) : Step course (course.wake number operation next)
  | beat {course : Course} {heartbeat : Heartbeat}
      (due : course.visit.dueHeartbeat? = some heartbeat) : Step course (course.beat heartbeat)
  | answerBeat {course : Course} {number : Nat} (sent : number ∈ course.beats) :
      Step course (course.answerBeat number)
  | giveUpBeat (course : Course) : Step course course.giveUpBeat
  | changeOutside {course : Course} {outside : Outside}
      (later : course.visit.outside.clock ≤ outside.clock) :
      Step course (course.changeOutside outside)

/-- That a course can become another one. -/
inductive Reaches (first : Course) : Course → Prop
  | refl : Reaches first first
  | step {middle last : Course} (before : Reaches first middle) (next : Step middle last) :
      Reaches first last

/-- The course of a visit at its opening, when nothing has happened yet. -/
def opening (settings : VisitSettings) (outside : Outside) (storage : Storage)
    (state : State := {}) : Course :=
  { visit := { settings := settings, outside := outside, storage := storage, state := state } }

/-! ## The history -/

/-- A pause adds to the history at most. -/
theorem history_prefix_pause (course : Course) (number : Nat) (operation : Operation)
    (piece : Errand.Paused Outcome × Visit) :
    course.history <+: (course.pause number operation piece).history := by
  rcases piece with ⟨paused, visit⟩
  cases paused with
  | finished outcome => exact List.prefix_append _ _
  | calling call next => exact List.prefix_append _ _
  | sleeping wakeUp next => exact List.prefix_refl _

/-- A note adds to the history. -/
theorem history_prefix_note (course : Course) (happening : Happening) :
    course.history <+: (course.note happening).history :=
  List.prefix_append _ _

/-- Every step adds to the history at most. -/
theorem Step.history_prefix {before after : Course} (step : Step before after) :
    before.history <+: after.history := by
  cases step with
  | start operation =>
      refine List.IsPrefix.trans ?_ (history_prefix_pause _ _ _ _)
      exact history_prefix_note _ _
  | answer waits answer =>
      refine List.IsPrefix.trans ?_ (history_prefix_pause _ _ _ _)
      exact history_prefix_note _ _
  | wake waits due =>
      refine List.IsPrefix.trans ?_ (history_prefix_pause _ _ _ _)
      exact history_prefix_note _ _
  | beat due => exact history_prefix_note _ _
  | answerBeat sent => exact history_prefix_note _ _
  | giveUpBeat => exact history_prefix_note _ _
  | changeOutside later => exact history_prefix_note _ _

/-- What happened stays in the history, in its order. -/
theorem Reaches.history_prefix {first last : Course} (reaches : Reaches first last) :
    first.history <+: last.history := by
  induction reaches with
  | refl => exact List.prefix_refl _
  | step before next ih => exact ih.trans next.history_prefix

theorem Reaches.trans {first middle last : Course} (before : Reaches first middle)
    (after : Reaches middle last) : Reaches first last := by
  induction after with
  | refl => exact before
  | step _ next ih => exact .step ih next

/-! ## Numbers -/

/-- The numbers of the operations that wait. -/
def numbers (course : Course) : List Nat :=
  course.waiting.map Waiting.number

/-- That the operations that wait are told apart by numbers that were given out. -/
structure Numbered (course : Course) : Prop where
  nodup : course.numbers.Nodup
  lt_started : ∀ number ∈ course.numbers, number < course.started

/-- The operations left are told apart when one goes. -/
theorem Numbered.without {course : Course} (numbered : course.Numbered) (number : Nat) :
    (course.without number).Numbered where
  nodup := numbered.nodup.sublist (List.filter_sublist.map _)
  lt_started other mem := numbered.lt_started other ((List.filter_sublist.map _).subset mem)

theorem not_mem_numbers_without (course : Course) (number : Nat) :
    number ∉ (course.without number).numbers := by
  simp [numbers, Course.without]

/-- An operation with a fresh number that was given out may wait as well. -/
theorem Numbered.wait {course : Course} (numbered : course.Numbered) (waiting : Waiting)
    (lt : waiting.number < course.started) (fresh : waiting.number ∉ course.numbers) :
    (course.wait waiting).Numbered where
  nodup := by
    simp only [numbers, Course.wait, List.map_append, List.map_cons, List.map_nil]
    exact List.nodup_append.2 ⟨numbered.nodup, by simp, by
      rintro other mem _ (_ | ⟨_, ⟨⟩⟩) rfl
      exact fresh mem⟩
  lt_started other mem := by
    simp only [numbers, Course.wait, List.map_append, List.map_cons, List.map_nil,
      List.mem_append, List.mem_singleton] at mem
    rcases mem with mem | rfl
    · exact numbered.lt_started other mem
    · exact lt

/-- A pause leaves the operations told apart. -/
theorem Numbered.pause {course : Course} (numbered : course.Numbered) {number : Nat}
    (lt : number < course.started) (fresh : number ∉ course.numbers) (operation : Operation)
    (piece : Errand.Paused Outcome × Visit) : (course.pause number operation piece).Numbered := by
  rcases piece with ⟨paused, visit⟩
  have moved : ({ course with visit := visit } : Course).Numbered := ⟨numbered.1, numbered.2⟩
  cases paused with
  | finished outcome => exact ⟨moved.1, moved.2⟩
  | calling call next =>
      have waits := moved.wait ⟨number, operation, .calling call next⟩ lt fresh
      exact ⟨waits.1, waits.2⟩
  | sleeping wakeUp next => exact moved.wait _ lt fresh

/-- Every step leaves the operations told apart. -/
theorem Numbered.step {before after : Course} (numbered : before.Numbered)
    (step : Step before after) : after.Numbered := by
  cases step with
  | start operation =>
      refine Numbered.pause ?_ ?_ ?_ _ _
      · exact ⟨numbered.1, fun number mem => Nat.lt_succ_of_lt (numbered.2 number mem)⟩
      · exact Nat.lt_succ_self _
      · exact fun mem => Nat.lt_irrefl _ (numbered.2 _ mem)
  | answer waits answer =>
      refine Numbered.pause ?_ ?_ ?_ _ _
      · exact ⟨(numbered.without _).1, (numbered.without _).2⟩
      · exact numbered.2 _ (List.mem_map_of_mem waits)
      · exact not_mem_numbers_without before _
  | wake waits due =>
      refine Numbered.pause ?_ ?_ ?_ _ _
      · exact ⟨(numbered.without _).1, (numbered.without _).2⟩
      · exact numbered.2 _ (List.mem_map_of_mem waits)
      · exact not_mem_numbers_without before _
  | beat due => exact ⟨numbered.1, numbered.2⟩
  | answerBeat sent => exact ⟨numbered.1, numbered.2⟩
  | giveUpBeat => exact ⟨numbered.1, numbered.2⟩
  | changeOutside later => exact ⟨numbered.1, numbered.2⟩

/-- The operations that wait are told apart, by induction on the steps. -/
theorem Reaches.numbered {settings : VisitSettings} {outside : Outside} {storage : Storage}
    {state : State} {course : Course}
    (reaches : Reaches (opening settings outside storage state) course) : course.Numbered := by
  induction reaches with
  | refl => exact ⟨List.nodup_nil, fun _ mem => absurd mem List.not_mem_nil⟩
  | step before next ih => exact ih.step next

/-- No operation waits twice at the same time. -/
theorem Reaches.nodup_numbers {settings : VisitSettings} {outside : Outside} {storage : Storage}
    {state : State} {course : Course}
    (reaches : Reaches (opening settings outside storage state) course) :
    course.numbers.Nodup :=
  reaches.numbered.nodup

end Course

end VisitorLink
