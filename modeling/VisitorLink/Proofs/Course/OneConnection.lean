import VisitorLink.Proofs.Conduct.Connecting
import VisitorLink.Proofs.Course.Progress

/-!
# One connection at a time

The flag that a connection is being made stands exactly while an operation waits for accounts, and
the status tells of something under way only then.

Main statement: one operation connects at a time, others are turned away meanwhile, and the next one
is let in as soon as the answer has come, whatever it is (`one_connection_at_a_time`).
-/

namespace VisitorLink

open Errand

/-- Whether an operation waits for the answer to a request for accounts. -/
def Waiting.isDialling (waiting : Waiting) : Bool :=
  Errand.isDialling waiting.paused

/-- That an operation that waits is connecting to the provider. -/
def Waiting.IsConnecting (waiting : Waiting) : Prop :=
  waiting.operation = .connect ∨ waiting.isDialling = true

namespace Course

/-- That an operation of a course is connecting to the provider. -/
def IsConnecting (course : Course) : Prop :=
  ∃ waiting ∈ course.waiting, waiting.IsConnecting

/-! ## The flag and the status -/

/-- How the operations that wait for accounts, the flag and the status belong together. -/
structure Dialled (course : Course) : Prop where
  connects : ∀ waiting ∈ course.waiting, waiting.operation = .connect → waiting.isDialling = true
  one : ∀ waiting ∈ course.waiting, ∀ other ∈ course.waiting, waiting.isDialling = true →
    other.isDialling = true → waiting = other
  busy : course.visit.connecting = true ↔ ∃ waiting ∈ course.waiting, waiting.isDialling = true
  pending : course.visit.state.connection.status.isPending = true →
    course.visit.connecting = true ∧ course.visit.state.connection.status = .connecting

/-- What connects is what waits for accounts. -/
theorem Dialled.isDialling_iff {course : Course} (dialled : course.Dialled) {waiting : Waiting}
    (mem : waiting ∈ course.waiting) : waiting.isDialling = true ↔ waiting.IsConnecting := by
  refine ⟨.inr, fun connecting => ?_⟩
  rcases connecting with connects | dials
  · exact dialled.connects waiting mem connects
  · exact dials

/-- The flag tells whether an operation connects. -/
theorem Dialled.busy_iff {course : Course} (dialled : course.Dialled) :
    course.visit.connecting = true ↔ course.IsConnecting := by
  rw [dialled.busy]
  exact exists_congr fun waiting => and_congr_right dialled.isDialling_iff

/-- Nothing connects when a visit is opened. -/
theorem dialled_opening (settings : VisitSettings) (outside : Outside) (storage : Storage)
    {state : State} (opens : state.Opens) : (opening settings outside storage state).Dialled where
  connects _ mem := absurd mem List.not_mem_nil
  one _ mem := absurd mem List.not_mem_nil
  busy := ⟨nofun, fun ⟨_, mem, _⟩ => absurd mem List.not_mem_nil⟩
  pending pending := by cases opens.not_isPending.symm.trans pending

variable {before after resumed : Course} {number : Nat} {operation : Operation} {cue : Cue}

/-- Only the answer to its request ends the waiting for accounts. -/
theorem Resumes.mem_of_isDialling (resumes : Resumes before number operation cue resumed)
    (numbered : before.Numbered) (other : cue.isDial = false) {waiting : Waiting}
    (mem : waiting ∈ before.waiting) (dials : waiting.isDialling = true) :
    waiting ∈ resumed.waiting := by
  refine resumes.mem_waiting_of_ne mem fun same => ?_
  cases resumes with
  | start operation =>
      exact Nat.lt_irrefl _ (same ▸ numbered.lt_started _ (List.mem_map_of_mem mem))
  | answer waits answer =>
      cases numbered.eq mem waits same
      cases other.symm.trans dials
  | wake waits =>
      cases numbered.eq mem waits same
      cases dials

/-- The answer to a request for accounts ends the waiting of the operation that made it. -/
theorem Resumes.dialled (resumes : Resumes before number operation cue resumed)
    (dialled : cue.isDial = true) :
    ∃ waiting ∈ before.waiting, waiting.number = number ∧ waiting.isDialling = true := by
  cases resumes with
  | answer waits answer => exact ⟨_, waits, rfl, dialled⟩
  | _ => cases dialled

section Piece

variable {piece : Errand.Paused Outcome × Visit}

/-- An operation that has stopped elsewhere is no further one that waits for accounts. -/
theorem mem_of_stopsElsewhere (elsewhere : operation.StopsElsewhere piece.1) {waiting : Waiting}
    (mem : waiting ∈ (resumed.pause number operation piece).waiting)
    (connecting : waiting.IsConnecting) : waiting ∈ resumed.waiting := by
  rcases mem_waiting_pause mem with mem | ⟨rfl, goesOn⟩
  · exact mem
  · rcases connecting with connects | dials
    · obtain ⟨outcome, ends⟩ := elsewhere.2 connects
      exact absurd ends (goesOn outcome)
    · cases elsewhere.1.symm.trans dials

/-- A piece that leaves the making of a connection alone leaves it in order. -/
theorem Dialled.apart (dialled : before.Dialled) (numbered : before.Numbered)
    (resumes : Resumes before number operation cue resumed) (other : cue.isDial = false)
    (undialled : before.visit.Undialled piece.2)
    (elsewhere : operation.StopsElsewhere piece.1) :
    (resumed.pause number operation piece).Dialled := by
  have earlier {waiting : Waiting} (mem : waiting ∈ (resumed.pause number operation piece).waiting)
      (connecting : waiting.IsConnecting) : waiting ∈ before.waiting :=
    resumes.mem_waiting (mem_of_stopsElsewhere elsewhere mem connecting)
  constructor
  case connects =>
    exact fun waiting mem connects =>
      dialled.connects waiting (earlier mem (.inl connects)) connects
  case one =>
    exact fun waiting mem other mem' dials dials' =>
      dialled.one waiting (earlier mem (.inr dials)) other (earlier mem' (.inr dials')) dials dials'
  case busy =>
    rw [pause_visit, undialled.connecting, dialled.busy]
    constructor
    · rintro ⟨waiting, mem, dials⟩
      have stays := resumes.mem_of_isDialling numbered other mem dials
      exact ⟨waiting, mem_waiting_pause_of_mem stays _ _ _, dials⟩
    · rintro ⟨waiting, mem, dials⟩
      exact ⟨waiting, earlier mem (.inr dials), dials⟩
  case pending =>
    intro pending
    rw [pause_visit] at pending ⊢
    have same := undialled.pending pending
    obtain ⟨busy, status⟩ := dialled.pending (same ▸ pending)
    exact ⟨undialled.connecting.trans busy, same.trans status⟩

/-- A connection is opened only where none is made. -/
theorem Dialled.opens (dialled : before.Dialled)
    (resumes : Resumes before number operation .go resumed)
    (idle : before.visit.connecting = false) (connecting : piece.2.connecting = true)
    (status : piece.2.state.connection.status = .connecting)
    (dials : Errand.isDialling piece.1 = true) :
    (resumed.pause number operation piece).Dialled := by
  have none {waiting : Waiting} (mem : waiting ∈ resumed.waiting) : ¬ waiting.isDialling = true :=
    fun dials => by cases idle.symm.trans (dialled.busy.2 ⟨_, resumes.mem_waiting mem, dials⟩)
  have only {waiting : Waiting} (mem : waiting ∈ (resumed.pause number operation piece).waiting)
      (dials : waiting.isDialling = true) : waiting = ⟨number, operation, piece.1⟩ := by
    rcases mem_waiting_pause mem with mem | ⟨same, _⟩
    · exact absurd dials (none mem)
    · exact same
  have goesOn (outcome : Outcome) : piece.1 ≠ .finished outcome := by
    intro ends
    rw [ends] at dials
    cases dials
  constructor
  case connects =>
    intro waiting mem connects
    rcases mem_waiting_pause mem with mem | ⟨rfl, _⟩
    · exact dialled.connects waiting (resumes.mem_waiting mem) connects
    · exact dials
  case one =>
    exact fun waiting mem other mem' dials dials' => (only mem dials).trans (only mem' dials').symm
  case busy =>
    rw [pause_visit]
    exact ⟨fun _ => ⟨_, mem_waiting_pause_self resumed number operation goesOn, dials⟩,
      fun _ => connecting⟩
  case pending =>
    intro _
    rw [pause_visit]
    exact ⟨connecting, status⟩

/-- The answer for accounts leaves nothing that connects. -/
theorem Dialled.closes (dialled : before.Dialled) (numbered : before.Numbered)
    (resumes : Resumes before number operation cue resumed) (answered : cue.isDial = true)
    (idle : piece.2.connecting = false)
    (status : piece.2.state.connection.status.isPending = false)
    (elsewhere : operation.StopsElsewhere piece.1) :
    (resumed.pause number operation piece).Dialled := by
  obtain ⟨asked, waited, same, dialling⟩ := resumes.dialled answered
  have none {waiting : Waiting} (mem : waiting ∈ (resumed.pause number operation piece).waiting)
      (connecting : waiting.IsConnecting) : False := by
    have stays := mem_of_stopsElsewhere elsewhere mem connecting
    have dials := (dialled.isDialling_iff (resumes.mem_waiting stays)).2 connecting
    have only := dialled.one _ (resumes.mem_waiting stays) _ waited dials dialling
    exact resumes.fresh numbered (same ▸ only ▸ List.mem_map_of_mem stays)
  constructor
  case connects => exact fun waiting mem connects => (none mem (.inl connects)).elim
  case one => exact fun waiting mem other mem' dials dials' => (none mem (.inr dials)).elim
  case busy =>
    rw [pause_visit, idle]
    exact ⟨nofun, fun ⟨waiting, mem, dials⟩ => (none mem (.inr dials)).elim⟩
  case pending =>
    intro pending
    rw [pause_visit] at pending
    cases status.symm.trans pending

end Piece

/-- Every step leaves the making of connections in order. -/
theorem Dialled.step (dialled : before.Dialled) (numbered : before.Numbered)
    (lawful : ∀ {number operation cue piece}, before.Proceeds number operation cue piece →
      operation.Dialling cue before.visit piece)
    (step : Step before after) : after.Dialled := by
  cases step.progress with
  | piece proceeds resumes =>
      cases lawful proceeds with
      | apart other undialled elsewhere =>
          exact dialled.apart numbered resumes other undialled elsewhere
      | opens idle connecting status dials =>
          exact dialled.opens resumes idle connecting status dials
      | closes answered idle status elsewhere =>
          exact dialled.closes numbered resumes answered idle status elsewhere
  | aside apart waiting background history =>
      exact
        { connects := waiting ▸ dialled.connects
          one := waiting ▸ dialled.one
          busy := by rw [apart.connecting, waiting, dialled.busy]
          pending := by
            rw [apart.state, apart.connecting]
            exact dialled.pending }

variable {settings : VisitSettings} {outside : Outside} {storage : Storage} {state : State}

/-- It is in order in all that is reached, by induction on the steps. -/
theorem Reaches.dialled {course : Course} (opens : state.Opens)
    (reaches : Reaches (opening settings outside storage state) course) : course.Dialled := by
  induction reaches with
  | refl => exact dialled_opening settings outside storage opens
  | step before next ih =>
      exact ih.step before.numbered (before.lawful Operation.observes_dialling) next

/-! ## In turn -/

/-- That the operations of a course connect to the provider one after another. -/
structure ConnectsInTurn (course : Course) : Prop where
  /-- One operation connects at a time. -/
  one : ∀ waiting ∈ course.waiting, ∀ other ∈ course.waiting,
    waiting.IsConnecting → other.IsConnecting → waiting = other
  /-- Others are refused meanwhile, which changes nothing and asks nobody. -/
  refuses : course.IsConnecting → ∀ {operation : Operation} {refusal : Outcome},
    operation.refusal? = some refusal →
    operation.errand.run course.visit = (.finished refusal, course.visit)
  /-- The answer to the request ends the connecting, whatever it is. -/
  ends : ∀ number operation next,
    ⟨number, operation, .calling (.provider .requestAccounts) next⟩ ∈ course.waiting →
    ∀ answer, ¬ (course.answer number operation (.provider .requestAccounts) next
      answer).IsConnecting
  /-- The next operation that connects is let in. -/
  letsIn : ¬ course.IsConnecting → ∀ {operation : Operation} {refusal : Outcome},
    operation.refusal? = some refusal → operation.IsLetIn course.visit
  /-- The status tells of nothing that is under way when no operation connects. -/
  settled : ¬ course.IsConnecting → course.visit.state.connection.status.isPending = false

/-- In the course of a visit operations connect to the provider one after another, whatever else
goes on. -/
theorem one_connection_at_a_time {course : Course} (opens : state.Opens)
    (reaches : Reaches (opening settings outside storage state) course) :
    course.ConnectsInTurn := by
  have dialled := reaches.dialled opens
  have free (none : ¬ course.IsConnecting) : course.visit.connecting = false :=
    eq_false_of_ne_true fun busy => none (dialled.busy_iff.1 busy)
  constructor
  case one =>
    exact fun waiting mem other mem' connecting connecting' =>
      dialled.one waiting mem other mem' ((dialled.isDialling_iff mem).2 connecting)
        ((dialled.isDialling_iff mem').2 connecting')
  case refuses =>
    exact fun connecting _ _ connects =>
      Operation.run_of_busy connects (dialled.busy_iff.2 connecting)
  case ends =>
    intro number operation next waits answer connecting
    have after : Reaches (opening settings outside storage state)
        (course.answer number operation (.provider .requestAccounts) next answer) :=
      .step reaches (.answer waits answer)
    have busy := (after.dialled opens).busy_iff.2 connecting
    rw [Course.answer, pause_visit] at busy
    cases reaches.lawful Operation.observes_dialling (.answer waits answer) with
    | apart other => cases other
    | closes dialled idle => cases idle.symm.trans busy
  case letsIn =>
    exact fun none _ _ connects => Operation.isLetIn_of_free connects (free none)
  case settled =>
    intro none
    refine eq_false_of_ne_true fun pending => none ?_
    exact dialled.busy_iff.1 (dialled.pending pending).1

/-- A request for accounts is out, and a second connection is refused until it is answered. -/
theorem connects_in_turn_while_asked :
    let asked := (opening {} { random := Vector.replicate 16 0 } (.memory {} {})).start .connect
    asked.IsConnecting ∧ asked.ConnectsInTurn := by
  refine ⟨⟨⟨0, .connect, _⟩, List.mem_singleton.2 rfl, .inl rfl⟩, ?_⟩
  exact one_connection_at_a_time .unknown (.step .refl (.start _ .connect))

end Course

end VisitorLink
