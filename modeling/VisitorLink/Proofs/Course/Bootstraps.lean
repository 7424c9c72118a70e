import VisitorLink.Proofs.Conduct.Operations
import VisitorLink.Proofs.Course.Alone
import VisitorLink.Proofs.Course.StoredId
import VisitorLink.Proofs.Visit.Frames

/-!
# Opening a visit again and again

A visit may be opened any number of times, also while an earlier opening is under way. The id is in
both slots before its record is asked for, so that all openings ask for the record of one id until
one of them gets it. An opening that fails leaves nothing behind but that id and its request.

Main statement: `identity_continues`.
-/

namespace VisitorLink

open Errand

/-- Whether an operation finds out who the visitor is. -/
def Operation.identifies : Operation → Bool
  | .identify | .bootstrap => true
  | _ => false

/-- Whether an inquiry asks for the record of a visitor. -/
def Inquiry.asksForRecord : Inquiry → Bool
  | .call (.service (.fetchVisitor _)) => true
  | _ => false

/-! ## Pieces of an opening -/

namespace Errand

variable {β : Type}

/-- An opening asks for the record of the id that is remembered from then on. -/
theorem run_identify_bind {visit : Visit} {id : String} {storage : Storage}
    (recalls : (RememberedId.loadOrCreate visit.freshId).on visit.storage = (.ok id, storage))
    (rest : Except AppError Visitor → Errand β) :
    run (identify >>= rest) visit =
      (.calling (.service (.fetchVisitor id)) fun answer => receiveVisitor id answer >>= rest,
        { visit with storage := storage }.inquire (.call (.service (.fetchVisitor id)))) := by
  unfold identify
  unfold Visit.freshId at recalls
  rw [bind_assoc, run_visit_bind, bind_assoc, run_slots_bind, recalls]
  rfl

/-- On slots that do not fail the id of the record that was found goes into both. -/
theorem run_receiveVisitor_ok_bind {visit : Visit} (faultless : visit.storage.Faultless)
    (id : String) (visitor : Visitor) (rest : Except AppError Visitor → Errand β) :
    ∃ storage, run (receiveVisitor id (.ok visitor) >>= rest) visit =
      run (rest (.ok visitor)) ({ visit with storage := storage }.apply (.load visitor)) := by
  unfold receiveVisitor adopt
  dsimp only
  rw [bind_assoc]
  split
  case isTrue same => exact ⟨visit.storage, rfl⟩
  case isFalse other =>
    obtain ⟨after, persists, _⟩ := faultless.persist_on visitor.id
    refine ⟨after, ?_⟩
    rw [run_slots_bind, persists]
    rfl

/-- That an errand makes ordinary calls and ends with one outcome, if it ends. -/
abbrev EndsOnlyWith {α : Type} (outcome : α) (errand : Errand α) : Prop :=
  Keeps (fun _ _ => True) (fun call => call.isOrdinary = true) (· = outcome) errand

/-- That what is left of an errand ends with one outcome, if it ends. -/
def EndsAs (outcome : Outcome) : Errand.Paused Outcome → Prop
  | .finished result => result = outcome
  | .calling _ next => ∀ answer, EndsOnlyWith outcome (next answer)
  | .sleeping _ next => EndsOnlyWith outcome next

/-- An errand with one outcome ends with it or has it left. -/
theorem EndsOnlyWith.run {outcome : Outcome} {errand : Errand Outcome}
    (ends : EndsOnlyWith outcome errand) (visit : Visit) :
    EndsAs outcome (errand.run visit).1 := by
  have stops := (ends visit).stops
  generalize (Errand.run errand visit).1 = paused at stops
  cases paused with
  | finished result => exact stops
  | calling call next => exact stops.2
  | sleeping wakeUp next => exact stops

/-- What is left of an operation goes on to the same outcome. -/
theorem endsAs_persists (outcome : Outcome) :
    Operation.Persists fun _ paused => EndsAs outcome paused where
  answered ends answer visit := EndsOnlyWith.run (ends answer) visit
  woken ends visit := EndsOnlyWith.run ends visit

end Errand

namespace Operation

variable {operation : Operation} {rest : Except AppError Visitor → Errand Outcome} {visit : Visit}
  {id : String}

/-- An opening is what finds out who the visitor is and what comes after it. -/
theorem exists_afterIdentify (identifies : operation.identifies = true) :
    ∃ rest, operation.AfterIdentify rest ∧ operation.errand = Errand.identify >>= rest := by
  cases operation with
  | identify => exact ⟨_, .identify, rfl⟩
  | bootstrap => exact ⟨_, .bootstrap, errand_bootstrap⟩
  | _ => cases identifies

/-- An opening that fails to find out ends with the error. -/
theorem AfterIdentify.run_error (after : operation.AfterIdentify rest) (error : AppError)
    (visit : Visit) :
    run (rest (.error error)) visit = (.finished (.visitor (.error error)), visit) := by
  cases after <;> rfl

/-- An opening that has got the record ends with it. -/
theorem AfterIdentify.endsOnlyWith (after : operation.AfterIdentify rest) (visitor : Visitor) :
    EndsOnlyWith (.visitor (.ok visitor)) (rest (.ok visitor)) := by
  have frame : Visit.Frame fun _ _ => True :=
    ⟨⟨fun _ => trivial, fun _ _ _ _ _ => trivial, fun _ _ _ => trivial, fun _ _ => trivial,
      fun _ _ => trivial, fun _ _ _ => trivial, fun _ => trivial, fun _ _ _ => trivial⟩,
      fun _ _ _ => trivial⟩
  cases after with
  | identify => exact keeps_done frame.refl rfl
  | bootstrap =>
      have pickUp : EndsOnlyWith (.ok visitor) (pickUpWallet (.ok visitor)) := by
        refine Keeps.bind frame.trans frame.within_detect fun _ _ => ?_
        refine Keeps.bind frame.trans frame.within_checkShown fun shown _ => ?_
        split
        · exact Keeps.bind frame.trans frame.within_link fun _ _ => keeps_done frame.refl rfl
        · exact keeps_done frame.refl rfl
      exact Keeps.bind frame.trans pickUp fun _ same => keeps_done frame.refl (congrArg _ same)

/-- That an operation waits for the record of an id. -/
inductive Fetches (operation : Operation) (id : String) : Errand.Paused Outcome → Prop
  | waits {rest : Except AppError Visitor → Errand Outcome}
      (after : operation.AfterIdentify rest) :
      Fetches operation id (.calling (.service (.fetchVisitor id)) fun answer =>
        receiveVisitor id answer >>= rest)

/-- What a piece of an opening does on slots that do not fail: it asks for the record of the id that
is remembered, or it fails, or it has got the record and ends with it. -/
inductive IdentifyTurn (operation : Operation) (visit : Visit) :
    Cue → Errand.Paused Outcome × Visit → Prop
  | asks {id : String} {storage : Storage} {paused : Errand.Paused Outcome}
      (recalls : (RememberedId.loadOrCreate visit.freshId).on visit.storage = (.ok id, storage))
      (fetches : operation.Fetches id paused) :
      IdentifyTurn operation visit .go
        (paused, { visit with storage := storage }.inquire (.call (.service (.fetchVisitor id))))
  | fails (id : String) (error : ApiError) :
      IdentifyTurn operation visit (.answer (.service (.fetchVisitor id)) (.error error))
        (.finished (.visitor (.error (.api error))), visit)
  | finds (id : String) {visitor : Visitor} {piece : Errand.Paused Outcome × Visit}
      (ends : EndsAs (.visitor (.ok visitor)) piece.1) :
      IdentifyTurn operation visit (.answer (.service (.fetchVisitor id)) (.ok visitor)) piece

/-- An opening starts by asking for the record of the remembered id. -/
theorem identifyTurn_start (identifies : operation.identifies = true)
    (faultless : visit.storage.Faultless) :
    operation.IdentifyTurn visit .go (operation.errand.run visit) := by
  obtain ⟨rest, after, errand⟩ := exists_afterIdentify identifies
  obtain ⟨id, storage, recalls, _⟩ := faultless.loadOrCreate_on visit.valid_freshId
  rw [errand, run_identify_bind recalls]
  exact .asks recalls (.waits after)

/-- The answer to that ends the opening or leaves it with the record. -/
theorem AfterIdentify.identifyTurn (after : operation.AfterIdentify rest)
    (faultless : visit.storage.Faultless) (id : String) (answer : Except ApiError Visitor) :
    operation.IdentifyTurn visit (.answer (.service (.fetchVisitor id)) answer)
      ((receiveVisitor id answer >>= rest).run visit) := by
  cases answer with
  | error error =>
      have fails : run (receiveVisitor id (.error error) >>= rest) visit =
          (.finished (.visitor (.error (.api error))), visit) := after.run_error (.api error) visit
      rw [fails]
      exact .fails id error
  | ok visitor =>
      obtain ⟨storage, goesOn⟩ := run_receiveVisitor_ok_bind faultless id visitor rest
      rw [goesOn]
      exact .finds id ((after.endsOnlyWith visitor).run _)

/-- An operation that waits for the record may still fail. -/
theorem Fetches.not_endsAs {paused : Errand.Paused Outcome}
    (fetches : operation.Fetches id paused) (visit : Visit) (visitor : Visitor) :
    ¬ EndsAs (.visitor (.ok visitor)) paused := by
  intro ends
  cases fetches with
  | waits after =>
      have fails := after.run_error (.api (.network "")) visit
      cases (ends (.error (.network ""))).ends (congrArg Prod.fst fails)

end Operation

/-! ## Openings in the course of a visit -/

namespace Course

variable {settings : VisitSettings} {outside : Outside} {storage : Storage} {state : State}
  {entries : Slot → Entries} {first before after last : Course}

/-- That all operations so far are openings of the visit. -/
def Bootstraps (course : Course) : Prop :=
  ∀ number operation, .started number operation ∈ course.history → operation.identifies = true

/-- That a record was found so far. -/
def FoundRecord (course : Course) : Prop :=
  ∃ number id visitor,
    .answered number (.service (.fetchVisitor id)) (.ok visitor) ∈ course.history

/-- Openings only in the end are openings only before. -/
theorem Bootstraps.of_reaches (bootstraps : last.Bootstraps) (reaches : Reaches first last) :
    first.Bootstraps :=
  fun number operation mem => bootstraps number operation (reaches.history_prefix.subset mem)

/-- What a step does in the course of a visit that nothing but openings happens in. -/
inductive Identifies (before : Course) : Course → Prop
  | turn {number : Nat} {operation : Operation} {cue : Cue} {resumed : Course}
      {piece : Errand.Paused Outcome × Visit}
      (resumes : Resumes before number operation cue resumed)
      (turn : operation.IdentifyTurn before.visit cue piece) :
      Identifies before (resumed.pause number operation piece)
  | goesOn {number : Nat} {operation : Operation} {cue : Cue} {resumed : Course}
      {paused : Errand.Paused Outcome} {piece : Errand.Paused Outcome × Visit} {visitor : Visitor}
      (resumes : Resumes before number operation cue resumed)
      (waits : ⟨number, operation, paused⟩ ∈ before.waiting)
      (left : EndsAs (.visitor (.ok visitor)) paused)
      (ends : EndsAs (.visitor (.ok visitor)) piece.1) :
      Identifies before (resumed.pause number operation piece)
  | idles {after : Course} {happening : Happening} (idles : before.visit.Idles after.visit)
      (waiting : after.waiting = before.waiting) (background : happening.isBackground = true)
      (history : after.history = before.history ++ [happening]) : Identifies before after

/-- That every operation that waits is an opening that waits for the record or has got it. -/
def Identifying (course : Course) : Prop :=
  ∀ waiting ∈ course.waiting, (∃ id, waiting.operation.Fetches id waiting.paused) ∨
    ∃ visitor, EndsAs (.visitor (.ok visitor)) waiting.paused

/-- Every step of such a course is a piece of an opening, or nothing of an operation's. -/
theorem Step.identifies (step : Step before after) (waits : before.Identifying)
    (faultless : before.visit.storage.Faultless) (bootstraps : after.Bootstraps) :
    Identifies before after := by
  cases step with
  | start operation =>
      have identifies : operation.identifies = true := by
        refine bootstraps before.started operation ?_
        rw [Course.start, pause_history]
        exact List.mem_append_left _ (List.mem_append_right _ (List.mem_singleton.2 rfl))
      exact .turn (.start operation) (Operation.identifyTurn_start identifies faultless)
  | @answer number operation call next waits' answer =>
      rcases waits _ waits' with ⟨id, fetches⟩ | ⟨visitor, ends⟩
      · cases fetches with
        | waits after =>
            exact .turn (.answer waits' answer) (after.identifyTurn faultless id answer)
      · exact .goesOn (.answer waits' answer) waits' ends (EndsOnlyWith.run (ends answer) _)
  | wake waits' due =>
      rcases waits _ waits' with ⟨id, fetches⟩ | ⟨visitor, ends⟩
      · cases fetches
      · exact .goesOn (.wake waits') waits' ends (EndsOnlyWith.run ends _)
  | beat due => exact .idles (.beat due) rfl rfl rfl
  | answerBeat sent => exact .idles (.answerBeat _) rfl rfl rfl
  | giveUpBeat => exact .idles .giveUpBeat rfl rfl rfl
  | changeOutside later => exact .idles (.changeOutside _) rfl rfl rfl

/-- What waits in such a course goes on to wait for the record or has got it. -/
theorem Identifying.identifies (waits : before.Identifying)
    (identifies : Identifies before after) : after.Identifying := by
  intro waiting mem
  cases identifies with
  | turn resumes turn =>
      rcases mem_waiting_pause mem with mem | ⟨rfl, unfinished⟩
      · exact waits waiting (resumes.mem_waiting mem)
      · cases turn with
        | asks recalls fetches => exact .inl ⟨_, fetches⟩
        | fails id error => exact absurd rfl (unfinished _)
        | finds id ends => exact .inr ⟨_, ends⟩
  | goesOn resumes waits' left ends =>
      rcases mem_waiting_pause mem with mem | ⟨rfl, unfinished⟩
      · exact waits waiting (resumes.mem_waiting mem)
      · exact .inr ⟨_, ends⟩
  | idles idles same =>
      rw [same] at mem
      exact waits waiting mem

/-- Everything that waits is an opening, by induction on the steps. -/
theorem Reaches.identifying {course : Course}
    (reaches : Reaches (opening settings outside storage state) course)
    (faultless : storage.Faultless) (bootstraps : course.Bootstraps) : course.Identifying := by
  induction reaches with
  | refl => exact fun waiting mem => absurd mem List.not_mem_nil
  | step before next ih =>
      have waits := ih (bootstraps.of_reaches (.step .refl next))
      exact waits.identifies (next.identifies waits (before.faultless faultless) bootstraps)

/-! ## Until a record is found -/

/-- A call in the history of a piece was made in the piece or before it. -/
theorem Resumes.asked {number other : Nat} {operation : Operation} {cue : Cue} {resumed : Course}
    {piece : Errand.Paused Outcome × Visit} {call : Call}
    (resumes : Resumes before number operation cue resumed)
    (asked : .asked other call ∈ (resumed.pause number operation piece).history) :
    .asked other call ∈ before.history ∨ ∃ next, piece.1 = .calling call next := by
  rw [resumes.mem_pause_history_iff rfl] at asked
  exact asked.imp_right fun noted => (eq_of_asked_mem_pauseNote noted).2

/-- That nothing was asked for yet. -/
structure Untouched (course : Course) (entries : Slot → Entries) : Prop where
  holds : course.visit.storage.Holds entries
  asked : ∀ number call, .asked number call ∉ course.history
  waits : course.waiting = []

/-- That the records asked for so far are those of one id, which is in both slots. If an id was in
the slots at first, it is that one. -/
structure Seeks (course : Course) (entries : Slot → Entries) (id : String) : Prop where
  valid : VisitorId.Valid id
  former : ∀ found, RememberedId.found? entries = some found → found = id
  remembers : course.visit.storage.Remembers id
  asked : ∀ number call, .asked number call ∈ course.history → call = .service (.fetchVisitor id)
  waits : ∀ waiting ∈ course.waiting, waiting.operation.Fetches id waiting.paused

/-- An opening that is answered with a record has found it. -/
theorem foundRecord_answer {number : Nat} {id : String} {visitor : Visitor} {operation : Operation}
    {resumed : Course} {piece : Errand.Paused Outcome × Visit}
    (resumes : Resumes before number operation
      (.answer (.service (.fetchVisitor id)) (.ok visitor)) resumed) :
    (resumed.pause number operation piece).FoundRecord := by
  refine ⟨number, id, visitor, ?_⟩
  rw [pause_history]
  refine List.mem_append_left _ ?_
  cases resumes with
  | answer => exact List.mem_append_right _ (List.mem_singleton.2 rfl)

/-- What happens in the background asks for nothing. -/
theorem not_asked_of_background {happening : Happening} (background : happening.isBackground = true)
    (history : after.history = before.history ++ [happening]) {number : Nat} {call : Call}
    (asked : .asked number call ∈ after.history) : .asked number call ∈ before.history := by
  rw [history, List.mem_append, List.mem_singleton] at asked
  rcases asked with asked | rfl
  · exact asked
  · cases background

variable {id : String}

/-- Asking for the record of the id that is in both slots by then. -/
theorem Resumes.seeks {number : Nat} {operation : Operation} {cue : Cue} {resumed : Course}
    {paused : Errand.Paused Outcome} {visit : Visit}
    (resumes : Resumes before number operation cue resumed) (valid : VisitorId.Valid id)
    (former : ∀ found, RememberedId.found? entries = some found → found = id)
    (remembers : visit.storage.Remembers id)
    (asked : ∀ number call, .asked number call ∈ before.history →
      call = .service (.fetchVisitor id))
    (waits : ∀ waiting ∈ before.waiting, waiting.operation.Fetches id waiting.paused)
    (fetches : operation.Fetches id paused) :
    (resumed.pause number operation (paused, visit)).Seeks entries id where
  valid := valid
  former := former
  remembers := by rwa [pause_visit]
  asked other call mem := by
    rcases resumes.asked mem with mem | ⟨next, rfl⟩
    · exact asked other call mem
    · cases fetches
      rfl
  waits waiting mem := by
    rcases mem_waiting_pause mem with mem | ⟨rfl, _⟩
    · exact waits waiting (resumes.mem_waiting mem)
    · exact fetches

/-- The first thing that an opening asks for is the record of the id that is remembered. -/
theorem Untouched.identifies (untouched : before.Untouched entries)
    (identifies : Identifies before after) :
    after.Untouched entries ∨ ∃ id, after.Seeks entries id := by
  obtain ⟨holds, asked, waits⟩ := untouched
  have unwaited {waiting : Waiting} : waiting ∉ before.waiting := by simp [waits]
  cases identifies with
  | @turn number operation cue resumed piece resumes turn =>
      cases turn with
      | @asks id storage paused recalls fetches =>
          obtain ⟨found, recalls', _⟩ := RememberedId.loadOrCreate_on holds before.visit.freshId
          obtain ⟨id', storage', recalls'', valid, _, remembers⟩ :=
            holds.faultless.loadOrCreate_on before.visit.valid_freshId
          cases recalls.symm.trans recalls''
          obtain ⟨same, rfl⟩ := Prod.mk.inj (recalls.symm.trans recalls')
          refine .inr ⟨id, resumes.seeks valid (fun former found => ?_) remembers
            (fun number call mem => absurd mem (asked number call))
            (fun waiting mem => absurd mem unwaited) fetches⟩
          rw [found] at same
          exact (Except.ok.inj same).symm
      | fails id error =>
          cases resumes with
          | answer waits' => exact absurd waits' unwaited
      | finds id ends =>
          cases resumes with
          | answer waits' => exact absurd waits' unwaited
  | goesOn resumes waits' => exact absurd waits' unwaited
  | idles idles same background history =>
      refine .inl ⟨?_, fun number call mem => ?_, same.trans waits⟩
      · rwa [idles.storage]
      · exact asked number call (not_asked_of_background background history mem)

/-- What is asked for stays one id until a record is found. -/
theorem Seeks.identifies (seeks : before.Seeks entries id) (identifies : Identifies before after)
    (unfound : ¬ after.FoundRecord) : after.Seeks entries id := by
  obtain ⟨valid, former, remembers, asked, waits⟩ := seeks
  cases identifies with
  | turn resumes turn =>
      cases turn with
      | asks recalls fetches =>
          cases recalls.symm.trans (remembers.loadOrCreate_on valid before.visit.freshId)
          exact resumes.seeks valid former remembers asked waits fetches
      | fails other error =>
          refine ⟨valid, former, ?_, fun number call mem => ?_, fun waiting mem => ?_⟩
          · rwa [pause_visit]
          · rcases resumes.asked mem with mem | ⟨_, ends⟩
            · exact asked number call mem
            · cases ends
          · rcases mem_waiting_pause mem with mem | ⟨_, unfinished⟩
            · exact waits waiting (resumes.mem_waiting mem)
            · exact absurd rfl (unfinished _)
      | finds other ends => exact absurd (foundRecord_answer resumes) unfound
  | goesOn resumes waits' left =>
      exact absurd left ((waits _ waits').not_endsAs before.visit _)
  | idles idles same background history =>
      refine ⟨valid, former, ?_, fun number call mem => ?_, same ▸ waits⟩
      · rwa [idles.storage]
      · exact asked number call (not_asked_of_background background history mem)

/-- A record once found stays found. -/
theorem FoundRecord.step (found : before.FoundRecord) (step : Step before after) :
    after.FoundRecord := by
  obtain ⟨number, id, visitor, mem⟩ := found
  exact ⟨number, id, visitor, step.history_prefix.subset mem⟩

/-- As long as no record was found, the records asked for are those of one id. -/
theorem Reaches.seeks {course : Course}
    (reaches : Reaches (opening settings outside storage state) course)
    (holds : storage.Holds entries) (bootstraps : course.Bootstraps)
    (unfound : ¬ course.FoundRecord) :
    course.Untouched entries ∨ ∃ id, course.Seeks entries id := by
  induction reaches with
  | refl => exact .inl ⟨holds, fun _ _ => List.not_mem_nil, rfl⟩
  | step before next ih =>
      have earlier := bootstraps.of_reaches (.step .refl next)
      have identifies := next.identifies (before.identifying holds.faultless earlier)
        (before.faultless holds.faultless) bootstraps
      rcases ih earlier fun found => unfound (found.step next) with untouched | ⟨id, seeks⟩
      · exact untouched.identifies identifies
      · exact .inr ⟨id, seeks.identifies identifies unfound⟩

/-- That the records asked for so far are those of one id, which is in both slots as soon as one was
asked for. If an id was found in the slots at first, it is that one. -/
structure AsksFor (course : Course) (entries : Slot → Entries) (id : String) : Prop where
  valid : VisitorId.Valid id
  former : ∀ found, RememberedId.found? entries = some found → found = id
  asked : ∀ number call, .asked number call ∈ course.history →
    call = .service (.fetchVisitor id) ∧ course.visit.storage.Remembers id

/-- What seeks a record asks for it. -/
theorem Seeks.asksFor {course : Course} (seeks : course.Seeks entries id) :
    course.AsksFor entries id :=
  ⟨seeks.valid, seeks.former, fun number call mem => ⟨seeks.asked number call mem, seeks.remembers⟩⟩

/-- Where nothing was asked for, any id will do, and one that is found if there is one. -/
theorem Untouched.asksFor {course : Course} (untouched : course.Untouched entries) :
    ∃ id, course.AsksFor entries id := by
  have unasked (id : String) (number : Nat) (call : Call)
      (mem : .asked number call ∈ course.history) :
      call = .service (.fetchVisitor id) ∧ course.visit.storage.Remembers id :=
    absurd mem (untouched.asked number call)
  cases found : RememberedId.found? entries with
  | some id =>
      refine ⟨id, RememberedId.valid_of_found? found, fun other found' => ?_, unasked id⟩
      exact Option.some.inj (found'.symm.trans found)
  | none =>
      refine ⟨course.visit.freshId, course.visit.valid_freshId, fun other found' => ?_, unasked _⟩
      cases found.symm.trans found'

/-! ## Openings that fail and openings that do not -/

/-- After a piece that leaves nothing but a record to end with, an opening ends with that. -/
theorem Resumes.not_failed {number : Nat} {operation : Operation} {cue : Cue} {resumed : Course}
    {piece : Errand.Paused Outcome × Visit} {visitor : Visitor}
    (resumes : Resumes before number operation cue resumed)
    (reaches : Reaches (opening settings outside storage state) before)
    (ends : EndsAs (.visitor (.ok visitor)) piece.1)
    (later : Reaches (resumed.pause number operation piece) last) {outcome : Outcome}
    (ended : .ended number outcome ∈ last.history) : outcome = .visitor (.ok visitor) := by
  have thread : (resumed.pause number operation piece).Thread number
      fun _ paused => EndsAs (.visitor (.ok visitor)) paused :=
    (resumes.thread reaches.numbered reaches.settled).pause fun _ => ends
  obtain ⟨_, same⟩ := (thread.reaches (endsAs_persists _) later).ended ended
  exact same

/-- An opening that fails leaves the state alone and asks for records only. -/
theorem Step.of_failed (step : Step before after)
    (reaches : Reaches (opening settings outside storage state) before)
    (faultless : storage.Faultless) (bootstraps : after.Bootstraps) (later : Reaches after last)
    {number : Nat} {error : AppError}
    (failed : .ended number (.visitor (.error error)) ∈ last.history)
    {operation : Operation} {cue : Cue} (cues : Cues before after number operation cue) :
    after.visit.state = before.visit.state ∧
      before.visit.Inquires (fun inquiry => inquiry.asksForRecord = true) after.visit := by
  have identifies := step.identifies
    (reaches.identifying faultless (bootstraps.of_reaches (.step .refl step)))
    (reaches.faultless faultless) bootstraps
  cases identifies with
  | turn resumes turn =>
      obtain ⟨rfl, rfl, rfl⟩ := cues.unique ⟨_, _, resumes, rfl⟩ reaches.numbered
      cases turn with
      | asks recalls fetches =>
          rw [pause_visit]
          exact ⟨rfl, _, rfl, fun entry mem => List.mem_singleton.1 mem ▸ rfl⟩
      | fails id error =>
          rw [pause_visit]
          exact ⟨rfl, Visit.inquires_of_eq rfl⟩
      | finds id ends => cases resumes.not_failed reaches ends later failed
  | goesOn resumes waits left ends =>
      obtain ⟨rfl, rfl, rfl⟩ := cues.unique ⟨_, _, resumes, rfl⟩ reaches.numbered
      cases resumes.not_failed reaches ends later failed
  | idles idles same background history =>
      exact absurd cues (not_cues_of_background background history)

/-- The first record that is found is put in place, and both slots hold its id. The opening that has
got it does not fail any more. -/
theorem Step.of_found (step : Step before after)
    (reaches : Reaches (opening settings outside storage state) before)
    (holds : storage.Holds entries) (bootstraps : after.Bootstraps)
    (unfound : ¬ before.FoundRecord) {number : Nat} {operation : Operation} {visitor : Visitor}
    (cues : Cues before after number operation
      (.answer (.service (.fetchVisitor id)) (.ok visitor))) :
    before.AsksFor entries id ∧ after.visit.state.visitor = some visitor ∧
      after.visit.storage.Remembers visitor.id ∧
      ∀ last outcome, Reaches after last → .ended number outcome ∈ last.history →
        outcome = .visitor (.ok visitor) := by
  have faultless := reaches.faultless holds.faultless
  obtain ⟨next, waits, _⟩ := step.of_cues reaches cues
  have seeks : before.Seeks entries id := by
    rcases reaches.seeks holds (bootstraps.of_reaches (.step .refl step)) unfound with
      untouched | ⟨other, seeks⟩
    · rw [untouched.waits] at waits
      cases waits
    · cases seeks.waits _ waits with
      | waits after => exact seeks
  have ends (last : Course) (outcome : Outcome) (later : Reaches after last)
      (ended : .ended number outcome ∈ last.history) : outcome = .visitor (.ok visitor) := by
    have earlier := bootstraps.of_reaches (.step .refl step)
    cases step.identifies (reaches.identifying holds.faultless earlier) faultless bootstraps with
    | turn resumes turn =>
        obtain ⟨rfl, rfl, rfl⟩ := cues.unique ⟨_, _, resumes, rfl⟩ reaches.numbered
        cases turn with
        | finds id ends => exact resumes.not_failed reaches ends later ended
    | goesOn resumes waits left =>
        exact absurd left ((seeks.waits _ waits).not_endsAs before.visit _)
    | idles idles same background history =>
        exact absurd cues (not_cues_of_background background history)
  obtain ⟨state', storage', receives, wanders⟩ := step.follows reaches cues
  have keeps := (wanders.storage.keeps (receives.faultless faultless)).2 visitor.id
  refine ⟨seeks.asksFor, ?_⟩
  rw [keeps, wanders.state.visitor, ← and_assoc]
  refine ⟨?_, ends⟩
  have persists := faultless.persists visitor.id
  cases receives with
  | ignored ignores => exact absurd persists ignores.2
  | unadopted other fails => exact absurd persists fails
  | confirmed same => exact ⟨rfl, same ▸ seeks.remembers⟩
  | adopted other =>
      obtain ⟨kept, persists, _, remembers⟩ := faultless.persist_on visitor.id
      rw [persists]
      exact ⟨rfl, remembers⟩

/-- On slots that do not fail, and as long as no record was found, all requests for a record are for
one valid id: the one in the slots at first, if there was one. An opening that fails leaves the
state alone and asks for nothing but records. The first record that is found was asked for under
that id, is put in place, and has its own id put into both slots, and the opening that has got it
ends with it, if it ends. -/
theorem identity_continues (begins : first = opening settings outside storage state)
    (holds : storage.Holds entries) (reaches : Reaches first last) (bootstraps : last.Bootstraps) :
    (¬ last.FoundRecord → ∃ id, last.AsksFor entries id) ∧
    (∀ number error, .ended number (.visitor (.error error)) ∈ last.history →
      ∀ before after operation cue, Reaches first before → Step before after →
        Reaches after last → Cues before after number operation cue →
        after.visit.state = before.visit.state ∧
          before.visit.Inquires (fun inquiry => inquiry.asksForRecord = true) after.visit) ∧
    ∀ before after number operation id visitor, Reaches first before → Step before after →
      Reaches after last → ¬ before.FoundRecord →
      Cues before after number operation (.answer (.service (.fetchVisitor id)) (.ok visitor)) →
      before.AsksFor entries id ∧ after.visit.state.visitor = some visitor ∧
        after.visit.storage.Remembers visitor.id ∧
        ∀ later outcome, Reaches after later → .ended number outcome ∈ later.history →
          outcome = .visitor (.ok visitor) := by
  subst begins
  refine ⟨fun unfound => ?_, ?_, ?_⟩
  · rcases reaches.seeks holds bootstraps unfound with untouched | ⟨id, seeks⟩
    · exact untouched.asksFor
    · exact ⟨id, seeks.asksFor⟩
  · intro number error failed before after operation cue earlier step later cues
    exact step.of_failed earlier holds.faultless (bootstraps.of_reaches later) later failed cues
  · intro before after number operation id visitor earlier step later unfound cues
    exact step.of_found earlier holds (bootstraps.of_reaches later) unfound cues

namespace OverlappingOpenings

def freshId : String := "07070707-0707-4707-8707-070707070707"

def begun : Course :=
  opening {} { random := Vector.replicate 16 7, providerPresent := false } (.memory {} {})

/-- The visit is opened twice at the same time. -/
def asked : Course :=
  (begun.start .bootstrap).start .identify

/-- The first opening fails. -/
def failed : Course :=
  asked.answer 0 .bootstrap (.service (.fetchVisitor freshId))
    (fun answer => .visitor <$> (receiveVisitor freshId answer >>= pickUpWallet))
    (.error (.network "down"))

/-- The second one is answered with a record under another id. -/
def found : Course :=
  failed.answer 1 .identify (.service (.fetchVisitor freshId))
    (fun answer => .visitor <$> receiveVisitor freshId answer)
    (.ok { id := "9a8b7c6d-1234-4abc-9def-001122334455" })

/-- The first opening has asked and failed, and the second one still waits. -/
theorem history_failed : failed.history =
    [.started 0 .bootstrap, .asked 0 (.service (.fetchVisitor freshId)), .started 1 .identify,
      .asked 1 (.service (.fetchVisitor freshId)),
      .answered 0 (.service (.fetchVisitor freshId)) (.error (.network "down")),
      .ended 0 (.visitor (.error (.api (.network "down"))))] := rfl

/-- The second opening is answered with a record. -/
theorem history_found : found.history = failed.history ++
    [.answered 1 (.service (.fetchVisitor freshId))
        (.ok { id := "9a8b7c6d-1234-4abc-9def-001122334455" }),
      .ended 1 (.visitor (.ok { id := "9a8b7c6d-1234-4abc-9def-001122334455" }))] := rfl

end OverlappingOpenings

open OverlappingOpenings in
/-- An opening fails while another one is under way, and that one gets a record. -/
theorem overlapping_identity_continues :
    (Storage.memory {} {}).Holds (fun _ => .empty) ∧ Reaches begun found ∧ found.Bootstraps ∧
      failed.AsksFor (fun _ => .empty) freshId ∧
      found.visit.storage.Remembers "9a8b7c6d-1234-4abc-9def-001122334455" := by
  have holds : (Storage.memory {} {}).Holds fun _ => .empty := by
    intro slot
    cases slot <;> exact .inMemory rfl
  have waits : ⟨0, .bootstrap, .calling (.service (.fetchVisitor freshId)) fun answer =>
      .visitor <$> (receiveVisitor freshId answer >>= pickUpWallet)⟩ ∈ asked.waiting := .head _
  have waits' : ⟨1, .identify, .calling (.service (.fetchVisitor freshId)) fun answer =>
      .visitor <$> receiveVisitor freshId answer⟩ ∈ failed.waiting := .head _
  have fails : Reaches begun failed :=
    .step (.step (.step .refl (.start _ _)) (.start _ _)) (.answer waits _)
  have finds : Step failed found := .answer waits' _
  have bootstraps : found.Bootstraps := by
    intro number operation mem
    rw [history_found, history_failed] at mem
    simp only [List.mem_append, List.mem_cons, List.not_mem_nil, reduceCtorEq, false_or, or_false,
      Happening.started.injEq] at mem
    rcases mem with ⟨_, rfl⟩ | ⟨_, rfl⟩ <;> rfl
  have unfound : ¬ failed.FoundRecord := by
    rintro ⟨number, id, visitor, mem⟩
    rw [history_failed] at mem
    simp only [List.mem_cons, List.not_mem_nil, reduceCtorEq, false_or, or_false] at mem
    cases mem
  have continues := (identity_continues rfl holds (.step fails finds) bootstraps).2.2 failed found 1
    .identify freshId _ fails finds .refl unfound (cues_answer waits' _)
  exact ⟨holds, .step fails finds, bootstraps, continues.1, continues.2.2.1⟩

end Course

end VisitorLink
