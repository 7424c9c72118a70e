import VisitorLink.Proofs.Course.Answers
import VisitorLink.Proofs.Visit.StoredId

/-!
# The stored id in the course of a visit

On slots that do not fail, both slots hold the id of the visitor at every moment, so that a later
visit resumes as the present visitor. There is one exception: while a request for the record of an
id is outstanding, the visit may go on as another visitor, whose id then displaces the former one in
the slots. The record that arrives is put in place nevertheless, and the slots keep the other id.

Main statement: `id_stored_unless_overtaken`.
-/

namespace VisitorLink

open Errand

/-- Whether the ids in an answer that has come are what they should be. -/
def Happening.Faithful : Happening → Prop
  | .answered _ call answer => Cue.Faithful (.answer call answer)
  | _ => True

namespace Course

section

variable {settings : VisitSettings} {outside : Outside} {storage : Storage} {state : State}
  {first before after last : Course}

/-! ## Answers -/

/-- That the ids in all answers so far are what they should be. -/
def Faithful (course : Course) : Prop :=
  ∀ happening ∈ course.history, happening.Faithful

/-- Answers that are faithful in the end were faithful before. -/
theorem Faithful.of_reaches (faithful : last.Faithful) (reaches : Reaches first last) :
    first.Faithful :=
  fun happening mem => faithful happening (reaches.history_prefix.subset mem)

/-- The answer that sets a step going is faithful if all are. -/
theorem Cues.faithful {number : Nat} {operation : Operation} {cue : Cue}
    (cues : Cues before after number operation cue) (faithful : after.Faithful) : cue.Faithful := by
  obtain ⟨resumed, piece, resumes, rfl⟩ := cues
  cases resumes with
  | start operation => trivial
  | wake waits => trivial
  | answer waits answer =>
      refine faithful (.answered number _ answer) ?_
      rw [pause_history]
      exact List.mem_append_left _ (List.mem_append_right _ (List.mem_singleton.2 rfl))

/-- That a record arrives for an id that was displaced in the slots. -/
def Overtaken (id : String) (number : Nat) (before after : Course) : Prop :=
  ∃ operation cue, Cues before after number operation cue ∧ cue.Confirms id ∧
    ¬ before.visit.storage.Remembers id

/-! ## Slots -/

/-- The settings stay what they were at the opening. -/
theorem Reaches.settings_eq {course : Course}
    (reaches : Reaches (opening settings outside storage state) course) :
    course.visit.settings = settings := by
  induction reaches with
  | refl => rfl
  | step before next ih =>
      obtain ⟨cue, ⟨state', storage', _, wanders⟩, _⟩ := next.takes before
      exact wanders.settings.trans ih

/-- Slots that do not fail at the opening of a visit do not fail in its course. -/
theorem Reaches.faultless {course : Course}
    (reaches : Reaches (opening settings outside storage state) course)
    (faultless : storage.Faultless) : course.visit.storage.Faultless := by
  induction reaches with
  | refl => exact faultless
  | step before next ih =>
      obtain ⟨cue, ⟨state', storage', receives, wanders⟩, _⟩ := next.takes before
      exact (wanders.storage.keeps (receives.faultless ih)).1

/-- A step that is not overtaken keeps the loaded id in the slots. -/
theorem Step.stored (step : Step before after)
    (reaches : Reaches (opening settings outside storage state) before)
    (remembersSwap : settings.remembersSwap = true) (faultless : storage.Faultless)
    (faithful : after.Faithful) (inTime : ∀ id number, ¬ Overtaken id number before after)
    (stored : before.visit.state.Stored before.visit.storage) :
    after.visit.state.Stored after.visit.storage := by
  obtain ⟨cue, ⟨state', storage', receives, wanders⟩, origin⟩ := step.takes reaches
  have faultless := reaches.faultless faultless
  have faithful : cue.Faithful := by
    rcases origin with rfl | ⟨number, operation, cues⟩
    · trivial
    · exact cues.faithful faithful
  have present (id : String) (confirms : cue.Confirms id) : before.visit.storage.Remembers id := by
    rcases origin with rfl | ⟨number, operation, cues⟩
    · exact confirms.elim
    · by_contra displaced
      exact inTime id number ⟨operation, cue, cues, confirms, displaced⟩
  have remembersSwap : before.visit.settings.remembersSwap = true := by
    rw [reaches.settings_eq, remembersSwap]
  intro id known
  rw [wanders.visitorId?] at known
  obtain ⟨valid, remembers⟩ :=
    receives.stored faultless remembersSwap faithful present stored id known
  exact ⟨valid, ((wanders.storage.keeps (receives.faultless faultless)).2 id).2 remembers⟩

/-- The loaded id is in the slots all along, by induction on the steps. -/
theorem Runs.stored (runs : Runs (fun before after => ¬ ∃ id number, Overtaken id number before after)
      (opening settings outside storage) last)
    (remembersSwap : settings.remembersSwap = true) (faultless : storage.Faultless)
    (faithful : last.Faithful) : last.visit.state.Stored last.visit.storage := by
  induction runs with
  | refl => exact fun id known => nomatch known
  | step before next inTime ih =>
      have earlier := faithful.of_reaches (.step .refl next)
      exact next.stored before.reaches remembersSwap faultless faithful
        (fun id number overtaken => inTime ⟨id, number, overtaken⟩) (ih earlier)

/-! ## Outstanding requests -/

/-- That an operation has waited for the record of an id ever since it found the id in both
slots. -/
structure AsksSince (first asked course : Course) (waiting : Waiting) (id : String) : Prop where
  reaches : Reaches first asked
  valid : VisitorId.Valid id
  remembers : asked.visit.storage.Remembers id
  waits : Runs (fun before after => waiting ∈ before.waiting ∧ waiting ∈ after.waiting) asked course

/-- What waits for a record goes on to wait for it. -/
theorem AsksSince.step {asked : Course} {waiting : Waiting} {id : String}
    (asks : AsksSince first asked before waiting id) (step : Step before after)
    (waits : waiting ∈ before.waiting) (waits' : waiting ∈ after.waiting) :
    AsksSince first asked after waiting id where
  reaches := asks.reaches
  valid := asks.valid
  remembers := asks.remembers
  waits := .step asks.waits step ⟨waits, waits'⟩

/-- Every outstanding request for a record was made when both slots held the id. -/
theorem Reaches.asksSince {course : Course}
    (reaches : Reaches (opening settings outside storage state) course)
    (faultless : storage.Faultless) {number : Nat} {operation : Operation} {id : String}
    {next : Except ApiError Visitor → Errand Outcome}
    (waits : ⟨number, operation, .calling (.service (.fetchVisitor id)) next⟩ ∈ course.waiting) :
    ∃ asked, AsksSince (opening settings outside storage state) asked course
      ⟨number, operation, .calling (.service (.fetchVisitor id)) next⟩ id := by
  induction reaches with
  | refl => cases waits
  | @step before after earlier step ih =>
      have kept (waits' : _ ∈ before.waiting) := (ih waits').imp fun asked asks =>
        asks.step step waits' waits
      cases step.progress with
      | piece proceeds resumes =>
          rcases mem_waiting_pause waits with waits' | ⟨same, _⟩
          · exact kept (resumes.mem_waiting waits')
          · injection same with _ _ stops
            obtain ⟨_, recalls⟩ := (earlier.heeding proceeds).recalls id next stops.symm
            obtain ⟨found, later, recalls', valid, _, remembers⟩ :=
              (earlier.faultless faultless).loadOrCreate_on before.visit.valid_freshId
            obtain ⟨ends, rfl⟩ := Prod.mk.inj (recalls.symm.trans recalls')
            cases ends
            refine ⟨_, .step earlier step, valid, ?_, .refl⟩
            rwa [pause_visit]
      | aside apart same =>
          exact kept (same ▸ waits)

/-- That the visit goes on as another visitor, whose id displaces the former one in the slots, while
a request for the record of the former one is outstanding. -/
structure Displaces (id other : String) (waiting : Waiting) (before after : Course) : Prop where
  waits : waiting ∈ before.waiting ∧ waiting ∈ after.waiting
  held : before.visit.storage.Remembers id
  loaded : after.visit.state.visitorId? = some other
  remembers : after.visit.storage.Remembers other
  other_ne : other ≠ id

/-- An id that the slots lose in a step gives way to that of the visitor loaded then. -/
theorem Step.displaces (step : Step before after)
    (reaches : Reaches (opening settings outside storage state) before)
    (faultless : storage.Faultless) {id : String} (valid : VisitorId.Valid id)
    (held : before.visit.storage.Remembers id) (lost : ¬ after.visit.storage.Remembers id) :
    ∃ other, other ≠ id ∧ after.visit.state.visitorId? = some other ∧
      after.visit.storage.Remembers other := by
  have faultless := reaches.faultless faultless
  obtain ⟨cue, ⟨state', storage', receives, wanders⟩, _⟩ := step.takes reaches
  have loses := (wanders.storage.keeps (receives.faultless faultless)).2
  rcases receives.displaces faultless valid held with keeps | ⟨other, different, loaded, holds⟩
  · exact absurd ((loses id).2 keeps) lost
  · exact ⟨other, different, wanders.visitorId?.trans loaded, (loses other).2 holds⟩

/-- An id that the slots have lost was displaced while its record was asked for. -/
theorem AsksSince.displaced {asked course : Course} {waiting : Waiting} {id : String}
    (asks : AsksSince (opening settings outside storage state) asked course waiting id)
    (faultless : storage.Faultless) (lost : ¬ course.visit.storage.Remembers id) :
    ∃ other before after, Reaches (opening settings outside storage state) before ∧
      Step before after ∧ Displaces id other waiting before after ∧ Reaches after course := by
  obtain ⟨reaches, valid, remembers, waits⟩ := asks
  induction waits with
  | refl => exact absurd remembers lost
  | @step middle last before next waits ih =>
      rcases Classical.em (middle.visit.storage.Remembers id) with held | gone
      · have reaches := reaches.trans before.reaches
        obtain ⟨other, different, loaded, holds⟩ := next.displaces reaches faultless valid held lost
        exact ⟨other, _, _, reaches, next, ⟨waits, held, loaded, holds, different⟩, .refl⟩
      · obtain ⟨other, earlier, later, reaches, displacing, displaces, goesOn⟩ := ih gone
        exact ⟨other, earlier, later, reaches, displacing, displaces, .step goesOn next⟩

/-! ## Overtaken requests -/

/-- A record that is overtaken is loaded though its id is not in the slots. -/
theorem Step.overtaken (step : Step before after)
    (reaches : Reaches (opening settings outside storage state) before)
    (faultless : storage.Faultless) {id : String} {number : Nat}
    (overtaken : Overtaken id number before after) :
    after.visit.state.visitorId? = some id ∧ ¬ after.visit.storage.Remembers id ∧
      ∃ operation next, ⟨number, operation, .calling (.service (.fetchVisitor id)) next⟩ ∈
        before.waiting := by
  obtain ⟨operation, cue, cues, confirms, displaced⟩ := overtaken
  obtain ⟨visitor, same, rfl⟩ := confirms.eq_answer
  obtain ⟨next, waits, _⟩ := step.of_cues reaches cues
  obtain ⟨state', storage', receives, wanders⟩ := step.follows reaches cues
  cases receives with
  | ignored ignores => exact absurd same ignores.1
  | adopted other | unadopted other => exact absurd same other
  | confirmed =>
      have loses := (wanders.storage.keeps (reaches.faultless faultless)).2
      refine ⟨?_, fun remembers => displaced ((loses id).1 remembers), operation, next, waits⟩
      rw [wanders.visitorId?]
      exact congrArg some same

/-- Both slots hold the id of the visitor at every moment, and a later visit finds it there, unless
a record has arrived for an id that was displaced in the slots while the record was asked for. Such
a record is put in place, and the slots do not hold its id then. -/
theorem id_stored_unless_overtaken (begins : first = opening settings outside storage)
    (remembersSwap : settings.remembersSwap = true) (faultless : storage.Faultless)
    (reaches : Reaches first last) (faithful : last.Faithful) :
    ((∀ id, last.visit.state.visitorId? = some id → last.visit.storage.Remembers id ∧
        RememberedId.load.on last.visit.storage = (.ok (some id), last.visit.storage)) ∨
      ∃ id number before after, Reaches first before ∧ Step before after ∧
        Overtaken id number before after ∧ Reaches after last) ∧
    ∀ id number before after, Reaches first before → Step before after →
      Overtaken id number before after →
      after.visit.state.visitorId? = some id ∧ ¬ after.visit.storage.Remembers id ∧
      ∃ operation next other earlier later, Reaches first earlier ∧ Step earlier later ∧
        Displaces id other ⟨number, operation, .calling (.service (.fetchVisitor id)) next⟩
          earlier later ∧ Reaches later before := by
  subst begins
  constructor
  · rcases reaches.avoids_or_does fun before after => ∃ id number, Overtaken id number before after
      with inTime | ⟨before, after, earlier, step, ⟨id, number, overtaken⟩, goesOn⟩
    · refine .inl fun id known => ?_
      obtain ⟨valid, remembers⟩ := inTime.stored remembersSwap faultless faithful id known
      exact ⟨remembers, remembers.load_on valid⟩
    · exact .inr ⟨id, number, before, after, earlier, step, overtaken, goesOn⟩
  · intro id number before after earlier step overtaken
    obtain ⟨loaded, lost, operation, next, waits⟩ := step.overtaken earlier faultless overtaken
    obtain ⟨asked, asks⟩ := earlier.asksSince faultless waits
    obtain ⟨_, _, _, _, gone⟩ := overtaken
    obtain ⟨other, displaced⟩ := asks.displaced faultless gone
    exact ⟨loaded, lost, operation, next, other, displaced⟩

end

namespace DisplacedId

def ownId : String := "00000000-0000-4000-8000-000000000000"

def otherId : String := "9a8b7c6d-1234-4abc-9def-001122334455"

def begun : Course :=
  opening {} { random := Vector.replicate 16 0, providerPresent := false } (.memory {} {})

/-- The visit is opened twice, so that the record of the fresh id is asked for twice. -/
def asked : Course :=
  (begun.start .bootstrap).start .bootstrap

def taken (answer : Except ApiError Visitor) : Errand Outcome :=
  .visitor <$> (receiveVisitor ownId answer >>= pickUpWallet)

/-- The service keeps the record under another id, which goes into the slots. -/
def displaced : Course :=
  asked.answer 0 .bootstrap (.service (.fetchVisitor ownId)) taken (.ok { id := otherId })

/-- The second request is answered with a record of the id that was asked about. -/
def overtaken : Course :=
  displaced.answer 1 .bootstrap (.service (.fetchVisitor ownId)) taken (.ok { id := ownId })

/-- The visit comes to an answer that is overtaken. -/
theorem reaches_overtaken : Reaches begun overtaken := by
  have waits : ⟨0, .bootstrap, .calling (.service (.fetchVisitor ownId)) taken⟩ ∈ asked.waiting :=
    .head _
  have waits' : ⟨1, .bootstrap, .calling (.service (.fetchVisitor ownId)) taken⟩ ∈
      displaced.waiting := .head _
  have starts : Reaches begun asked := .step (.step .refl (.start _ _)) (.start _ _)
  exact .step (.step starts (.answer waits _)) (.answer waits' _)

/-- All ids in its answers are what they should be. -/
theorem faithful_overtaken : overtaken.Faithful := by
  have history : overtaken.history =
      [.started 0 .bootstrap, .asked 0 (.service (.fetchVisitor ownId)), .started 1 .bootstrap,
        .asked 1 (.service (.fetchVisitor ownId)),
        .answered 0 (.service (.fetchVisitor ownId)) (.ok { id := otherId }),
        .ended 0 (.visitor (.ok { id := otherId })),
        .answered 1 (.service (.fetchVisitor ownId)) (.ok { id := ownId }),
        .ended 1 (.visitor (.ok { id := ownId }))] := rfl
  have own : VisitorId.Valid ownId := by decide
  have other : VisitorId.Valid otherId := by decide
  unfold Faithful
  rw [history]
  simp only [List.forall_mem_cons]
  exact ⟨trivial, trivial, trivial, trivial, other, trivial, own, trivial, List.forall_mem_nil _⟩

/-- Nothing is outstanding any more, and the slots hold another id than that of the visitor. -/
theorem slots_keep_displacing_id :
    Reaches begun overtaken ∧ overtaken.Faithful ∧ overtaken.waiting = [] ∧
      overtaken.visit.state.visitorId? = some ownId ∧ overtaken.visit.storage.Remembers otherId ∧
      ∃ id number before after, Reaches begun before ∧ Step before after ∧
        Overtaken id number before after ∧ Reaches after overtaken := by
  have holds : (Storage.memory {} {}).Holds fun _ => .empty := by
    intro slot
    cases slot <;> exact .inMemory rfl
  have remembers : overtaken.visit.storage.Remembers otherId := by
    intro slot
    cases slot <;> rfl
  have stored := id_stored_unless_overtaken rfl rfl holds.faultless reaches_overtaken
    faithful_overtaken
  refine ⟨reaches_overtaken, faithful_overtaken, rfl, rfl, remembers, ?_⟩
  refine stored.1.resolve_left fun kept => ?_
  exact absurd ((kept ownId rfl).1.eq remembers) (by decide)

end DisplacedId

end Course

end VisitorLink
