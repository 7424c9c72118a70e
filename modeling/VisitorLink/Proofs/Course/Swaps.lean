import VisitorLink.Proofs.Course.Alone
import VisitorLink.Proofs.Course.StoredId

/-!
# Going on as another visitor

A verification whose answer puts another visitor in place goes on to hand the session over. Other
operations may go on afterwards.

Main statement: everything moves to the new visitor while the verification is alone, and nothing
more is inquired about the former session, at any time, if no other operation waits from before
(`accepted_signature_swaps_visitor`).
-/

namespace VisitorLink

open Errand

/-- What was inquired since a visit: the end of the session of a visitor, and then nothing more
about it. -/
def Visit.Leaves (former : String) (before after : Visit) (rest : List JournalEntry) : Prop :=
  ∃ ending, ending.inquiry.endsSession former = true ∧
    after.journal = before.journal ++ ending :: rest ∧
    ∀ entry ∈ rest, entry.inquiry.isAboutSession former = false

theorem Visit.Leaves.inquires {former : String} {first middle last : Visit}
    {rest : List JournalEntry} (leaves : first.Leaves former middle rest)
    (inquires : middle.Inquires (fun inquiry => inquiry.isAboutSession former = false) last) :
    ∃ more, first.Leaves former last (rest ++ more) := by
  obtain ⟨ending, ends, journal, quiet⟩ := leaves
  obtain ⟨more, journal', quiet'⟩ := inquires
  refine ⟨more, ending, ends, ?_, fun entry mem => ?_⟩
  · rw [journal', journal, List.append_assoc, List.cons_append]
  · rcases List.mem_append.1 mem with mem | mem
    · exact quiet entry mem
    · exact quiet' entry mem

namespace Course

/-- That an operation hands over the session of one visitor to another one: the former is ended, and
the latter started right after it, unless the operation still waits to do that. -/
def HandedOver (former current : String) (number : Nat) (before after : Course) : Prop :=
  ∃ rest, before.visit.Leaves former after.visit rest ∧
    (rest = [] ∧ number ∈ after.numbers ∨
      ∃ start more, rest = start :: more ∧ start.inquiry.startsSession current = true)

/-! ## Handing over -/

/-- How far an operation has come that hands over a session. -/
inductive Handing (former current : String) (number : Nat) (first : Visit) (course : Course) : Prop
  | closing {operation : Operation} {call : Call} {next : call.Answer → Errand Outcome}
      (waits : ⟨number, operation, .calling call next⟩ ∈ course.waiting)
      (starts : ∀ answer, StartsSession current (next answer))
      (still : course.visit.tracker.heartbeat = none) (leaves : first.Leaves former course.visit [])
  | started (start : JournalEntry) (more : List JournalEntry)
      (starts : start.inquiry.startsSession current = true)
      (leaves : first.Leaves former course.visit (start :: more))

variable {before after first last course : Course} {number : Nat} {former current id : String}
  {visit : Visit}

theorem Handing.handedOver (handing : Handing former current number before.visit after) :
    HandedOver former current number before after := by
  cases handing with
  | closing waits starts still leaves =>
      exact ⟨[], leaves, .inl ⟨rfl, List.mem_map_of_mem waits⟩⟩
  | started start more starts leaves => exact ⟨_, leaves, .inr ⟨start, more, rfl, starts⟩⟩

theorem Handing.step (handing : Handing former current number visit before)
    (step : Step before after) (alone : Alone number before after) (numbered : before.Numbered)
    (other : current ≠ former)
    (inquires : before.visit.Inquires (fun inquiry => inquiry.isAboutSession former = false)
      after.visit) : Handing former current number visit after := by
  cases handing with
  | started start more starts leaves =>
      obtain ⟨further, leaves⟩ := leaves.inquires inquires
      exact .started start (more ++ further) starts leaves
  | closing waits starts still leaves =>
      rcases step.proceeds_or_idles with
        ⟨turn, operation, cue, resumed, piece, proceeds, resumes, rfl⟩ | ⟨idles, same⟩
      · -- The turn is that of the operation itself, with the answer to the end of the session.
        cases alone turn operation cue ⟨resumed, piece, resumes, rfl⟩
        cases proceeds with
        | start =>
            exact absurd (numbered.lt_started _ (List.mem_map_of_mem waits)) (Nat.lt_irrefl _)
        | wake waits' => cases numbered.eq waits waits' rfl
        | answer waits' answer =>
            cases numbered.eq waits waits' rfl
            obtain ⟨request, next, later, stops, journal⟩ := starts answer before.visit
            obtain ⟨ending, ends, journal', _⟩ := leaves
            refine .started
              ⟨before.visit.clock, .call (.service (.startSession current request))⟩ []
              (beq_self_eq_true current) ⟨ending, ends, ?_, fun entry mem => ?_⟩
            · rw [pause_visit, stops, journal, journal', List.append_assoc, List.cons_append,
                List.nil_append]
            · rw [List.mem_singleton.1 mem]
              exact beq_false_of_ne other
      · obtain ⟨journal, still⟩ := idles.of_still still
        refine .closing (same ▸ waits) starts still ?_
        obtain ⟨ending, ends, journal', quiet⟩ := leaves
        exact ⟨ending, ends, journal.trans journal', quiet⟩

variable {settings : VisitSettings} {outside : Outside} {storage : Storage} {state : State}

theorem Handing.runs (handing : Handing former current number visit first)
    (runs : Runs (Alone number) first last)
    (reaches : Reaches (opening settings outside storage state) first) (other : current ≠ former)
    (silent : first.visit.tracker.Silent former)
    (thread : first.Thread number fun _ paused =>
      StillKeeps (Visit.Hushes former) (fun _ => True) (fun _ => True) paused) :
    Handing former current number visit last := by
  have idle {before after : Visit} (idles : before.Idles after) : before.Hushes former after :=
    idles.hushes former
  induction runs with
  | refl => exact handing
  | step before next alone ih =>
      have hushes := before.moves_of_alone Visit.Hushes.refl (fun _ _ _ => .trans) idle thread
      have thread := thread.reaches Operation.stillKeeps_persists before.reaches
      have inquires := (next.moves_of_alone alone idle thread (hushes silent).1).2
      exact ih.step next alone (reaches.trans before.reaches).numbered other inquires

/-! ## The answer -/

/-- What becomes of a course when an operation goes on after an answer that puts another visitor in
place, for a signature that was given as the visitor with the given id. -/
structure SwapsTo (course : Course) (number : Nat) (id : String) (answer : LinkAnswer)
    (after : Course) : Prop where
  /-- Everything is as the new visitor has it, while the operation is alone. -/
  goesOn : ∀ {last : Course}, Runs (Alone number) after last →
    course.visit.GoesOnAs id answer last.visit
  /-- A session that goes on is handed over, while the operation is alone. -/
  handedOver : ∀ {former : String} {last : Course}, course.visit.tracker.isActive = true →
    course.visit.tracker.visitor = some former → former ≠ answer.visitor.id →
    Runs (Alone number) after last → HandedOver former answer.visitor.id number course last
  /-- Whatever else happens, nothing more is inquired about the former session, unless an operation
  still waits from before or the tracker takes the former visitor up again. -/
  leaves : ∀ {former : String} {last : Course}, course.visit.tracker.isActive = true →
    course.visit.tracker.visitor = some former → former ≠ answer.visitor.id →
    (∀ waiting ∈ course.waiting, waiting.number = number) →
    Runs (fun _ after => after.visit.tracker.visitor ≠ some former) after last →
    ∃ rest, course.visit.Leaves former last.visit rest

section

variable {context : PageContext} {request : LinkRequest}
  {next : Except ApiError LinkAnswer → Errand Outcome} {answer : LinkAnswer}

/-- The piece that follows on an answer that puts another visitor in place. -/
theorem answer_of_swaps (reaches : Reaches (opening settings outside storage state) course)
    (remembersSwap : settings.remembersSwap = true)
    (waits : ⟨number, .verifyAndFollow context, .calling (.service (.linkWallet id request)) next⟩ ∈
      course.waiting)
    (present : course.visit.state.isCurrent id request.address = true)
    (swaps : answer.swaps id = true) :
    ∃ cue resumed, Resumes course number (.verifyAndFollow context) cue resumed ∧
      course.answer number (.verifyAndFollow context) (.service (.linkWallet id request)) next
          (.ok answer) =
        resumed.pause number (.verifyAndFollow context)
          (run (Outcome.verify <$> followSwap context
              (.ok (.swapped (answer.previous.getD id) answer.visitor.id)))
            (course.visit.swapped id answer)) := by
  obtain ⟨stage, stands⟩ := reaches.staged _ waits
  rw [← reaches.settings_eq] at remembersSwap
  exact ⟨_, _, .answer waits (.ok answer),
    congrArg (pause _ _ _) (stands.run_swaps present swaps remembersSwap)⟩

end

section

variable {resumed : Course} {cue : Cue} {context : PageContext} {answer : LinkAnswer}
  {previous : String}

/-- The session is being handed over right after the answer, and the tracker is silent about the
former visitor. -/
theorem handing_pause (active : course.visit.tracker.isActive = true)
    (follows : course.visit.tracker.visitor = some former) (other : former ≠ answer.visitor.id)
    (accepted : after = resumed.pause number (.verifyAndFollow context)
      (run (Outcome.verify <$> followSwap context (.ok (.swapped previous answer.visitor.id)))
        (course.visit.swapped id answer))) :
    Handing former answer.visitor.id number course.visit after ∧
      after.visit.tracker.Silent former := by
  subst accepted
  rw [← course.visit.swapped_tracker id answer] at active follows
  obtain ⟨paused, later, stops, hands, taken, still⟩ :=
    handsOver_followSwap active follows other previous context
  have silent : later.tracker.Silent former :=
    .of_still (fun same => other (Option.some.inj (same.symm.trans taken))) still
  rw [stops, pause_visit]
  refine ⟨?_, silent⟩
  cases hands with
  | closing journal starts =>
      rw [course.visit.swapped_journal id answer] at journal
      exact .closing (mem_waiting_pause_calling _ _ _ _ _ _) starts still
        ⟨⟨_, .call (.service (.endSession former))⟩, beq_self_eq_true former, journal, nofun⟩
  | @starting _ request _ ending ends journal =>
      rw [course.visit.swapped_journal id answer] at journal
      refine .started ⟨_, .call (.service (.startSession answer.visitor.id request))⟩ []
        (beq_self_eq_true answer.visitor.id) ⟨_, ends, journal, fun entry mem => ?_⟩
      rw [List.mem_singleton.1 mem]
      exact beq_false_of_ne other.symm

/-- Everything moves to the visitor that an answer puts in place. -/
theorem swapsTo_pause (resumes : Resumes course number (.verifyAndFollow context) cue resumed)
    (reaches : Reaches (opening settings outside storage state) course)
    (reaches' : Reaches (opening settings outside storage state) after)
    (faultless : storage.Faultless)
    (accepted : after = resumed.pause number (.verifyAndFollow context)
      (run (Outcome.verify <$> followSwap context (.ok (.swapped previous answer.visitor.id)))
        (course.visit.swapped id answer))) : SwapsTo course number id answer after := by
  have thread {Moves : Visit → Visit → Prop} {Asks : Call → Prop}
      (keeps : Keeps Moves Asks (fun _ => True)
        (Outcome.verify <$> followSwap context (.ok (.swapped previous answer.visitor.id)))) :
      after.Thread number fun _ paused => StillKeeps Moves Asks (fun _ => True) paused := by
    rw [accepted]
    exact (resumes.thread reaches.numbered reaches.settled).pause fun _ => keeps.stillKeeps _
  have hushed {former : String} (other : former ≠ answer.visitor.id) :=
    hushed_followSwap other.symm previous context
  constructor
  case goesOn =>
    intro last runs
    have tracks : Tracks (fun _ => True)
        (Outcome.verify <$> followSwap context (.ok (.swapped previous answer.visitor.id))) :=
      (tracks_followSwap context _).bind fun _ _ => tracks_done trivial
    have goesOn : course.visit.GoesOnAs id answer after.visit := by
      rw [accepted, pause_visit]
      exact (Visit.goesOnAs_swapped (reaches.faultless faultless) id answer).apart (tracks.moves _)
    exact goesOn.apart (runs.moves_of_alone .refl .trans (·.apart) (thread tracks))
  case handedOver =>
    intro former last active follows other runs
    obtain ⟨handing, silent⟩ := handing_pause active follows other accepted
    exact (handing.runs runs reaches' other.symm silent (thread (hushed other))).handedOver
  case leaves =>
    intro former last active follows other only runs
    obtain ⟨handing, tracker⟩ := handing_pause active follows other accepted
    have silent : after.Silent former := by
      refine ⟨tracker, fun waiting mem => ?_⟩
      rw [accepted] at mem
      rcases mem_waiting_pause mem with mem | ⟨rfl, _⟩
      · -- Nothing waits any more from before, since the operation itself has gone on.
        have gone := resumes.fresh reaches.numbered
        exact absurd (only _ (resumes.mem_waiting mem) ▸ List.mem_map_of_mem mem) gone
      · exact (hushed other).remainsSilent _
    obtain ⟨rest, leaves, _⟩ := handing.handedOver
    obtain ⟨more, leaves⟩ := leaves.inquires (runs.silent silent).2
    exact ⟨_, leaves⟩

end

/-- An answer to the signature of a verification, as the visitor and with the address that are still
the present ones, moves everything to the visitor of its record if that is another one or if the
service says so. Else the visitor, the slots, the addresses tried and the tracker stay as they
are. -/
theorem accepted_signature_swaps_visitor {context : PageContext} {request : LinkRequest}
    {next : Except ApiError LinkAnswer → Errand Outcome} {answer : LinkAnswer}
    (reaches : Reaches (opening settings outside storage state) course)
    (remembersSwap : settings.remembersSwap = true) (faultless : storage.Faultless)
    (waits : ⟨number, .verifyAndFollow context, .calling (.service (.linkWallet id request)) next⟩ ∈
      course.waiting)
    (present : course.visit.state.isCurrent id request.address = true)
    (accepted : after = course.answer number (.verifyAndFollow context)
      (.service (.linkWallet id request)) next (.ok answer)) :
    (answer.swaps id = true → SwapsTo course number id answer after) ∧
    (answer.swaps id = false →
      after.visit.state.visitorId? = course.visit.state.visitorId? ∧
      after.visit.storage = course.visit.storage ∧
      after.visit.attempted = course.visit.attempted ∧
      after.visit.tracker = course.visit.tracker) := by
  constructor
  · intro swaps
    have reaches' : Reaches (opening settings outside storage state) after :=
      accepted ▸ .step reaches (.answer waits (.ok answer))
    obtain ⟨cue, resumed, resumes, goesOn⟩ :=
      answer_of_swaps reaches remembersSwap waits present swaps
    exact swapsTo_pause resumes reaches reaches' faultless (accepted.trans goesOn)
  · intro stays
    obtain ⟨stage, stands⟩ := reaches.staged _ waits
    have same : answer.visitor.id = id := by
      have kept := answer.not_swaps_eq id
      rw [stays, Bool.not_false, Bool.and_eq_true, beq_iff_eq] at kept
      exact kept.2
    have taken := (course.answer_visit number (.verifyAndFollow context)
      (.service (.linkWallet id request)) next (.ok answer)).trans
      (congrArg Prod.snd (stands.run_not_swaps present stays))
    rw [accepted, taken]
    refine ⟨?_, ?_, ?_, ?_⟩
    · rw [Visit.emit_state, (State.isCurrent_iff.1 present).1, ← same]
      rfl
    · rw [Visit.emit_storage]
      rfl
    · rw [Visit.emit_attempted]
      rfl
    · rw [Visit.emit_tracker]
      rfl

namespace SwapInSession

def begun : Course :=
  opening {} { random := Vector.replicate 16 0, providerAddress := some "TA" } (.memory {} {})
    (State.hydrated { id := "visitor" })

/-- A wallet is connected and is to be verified. -/
def asking : Course :=
  (begun.start .checkShown).start (.verifyAndFollow {})

def message : String :=
  challenge .link "TA" 0

def sign (answer : Except String String) : Errand Outcome :=
  .verify <$> (receiveSignature "visitor" "TA" message 0 answer >>= followSwap {})

def submit (answer : Except ApiError LinkAnswer) : Errand Outcome :=
  .verify <$> (receiveProof "visitor" "TA" answer >>= followSwap {})

def request : LinkRequest :=
  ⟨"TA", message, "signature", 0⟩

/-- The signature is given and sent. -/
def submitted : Course :=
  asking.answer 1 (.verifyAndFollow {}) (.provider (.signMessage message)) sign (.ok "signature")

/-- A session starts before the service has answered. -/
theorem exists_session_going_on :
    ∃ course, Reaches begun course ∧
      ⟨1, .verifyAndFollow {}, .calling (.service (.linkWallet "visitor" request)) submit⟩ ∈
        course.waiting ∧
      course.visit.state.isCurrent "visitor" "TA" = true ∧
      course.visit.tracker.isActive = true ∧ course.visit.tracker.visitor = some "visitor" := by
  have prompts : ⟨1, .verifyAndFollow {}, .calling (.provider (.signMessage message)) sign⟩ ∈
      asking.waiting := .head _
  have starts : ⟨2, .startSession {}, .calling (.service (.startSession "visitor" _)) _⟩ ∈
      (submitted.start (.startSession {})).waiting := .tail _ (.head _)
  have reaches : Reaches begun submitted :=
    .step (.step (.step .refl (.start _ _)) (.start _ _)) (.answer prompts _)
  exact ⟨_, .step (.step reaches (.start _ _)) (.answer starts (.ok {})), .head _,
    by decide +kernel, rfl, rfl⟩

/-- The wallet turns out to belong to another visitor. -/
def ownership : LinkAnswer := { visitor := { id := "other" }, swapped := true }

/-- The visit goes on as the other visitor, and the session is handed over. -/
theorem session_follows_swap :
    ∃ course after, Reaches begun course ∧
      ⟨1, .verifyAndFollow {}, .calling (.service (.linkWallet "visitor" request)) submit⟩ ∈
        course.waiting ∧
      after = course.answer 1 (.verifyAndFollow {}) (.service (.linkWallet "visitor" request))
        submit (.ok ownership) ∧
      after.visit.state.visitorId? = some "other" ∧ after.visit.storage.Remembers "other" ∧
      HandedOver "visitor" "other" 1 course after := by
  obtain ⟨course, reaches, waits, present, active, follows⟩ := exists_session_going_on
  have holds : (Storage.memory {} {}).Holds fun _ => .empty := by
    intro slot
    cases slot <;> exact .inMemory rfl
  have swaps : SwapsTo course 1 "visitor" ownership _ :=
    (accepted_signature_swaps_visitor reaches rfl holds.faultless waits present rfl).1 rfl
  have goesOn := swaps.goesOn .refl
  exact ⟨course, _, reaches, waits, rfl, congrArg (Option.map Visitor.id) goesOn.visitor,
    goesOn.remembers, swaps.handedOver active follows (by decide) .refl⟩

end SwapInSession

end Course

end VisitorLink
