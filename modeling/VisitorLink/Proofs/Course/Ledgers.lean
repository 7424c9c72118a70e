import VisitorLink.Proofs.Course.Sessions

/-!
# The ledger of a course

As long as the operations of a kind track pages in turn, and all operations that start sessions are
of this kind, a ledger goes with the course: it moves when the course does, and what it has written
down is what was told, asked and answered.

Main statements: a step of a course is matched by moves of the ledger (`Step.fits`), so every such
course has a ledger (`Runs.exists_ledger`).
-/

namespace VisitorLink

/-- Whether sessions start in an operation. -/
def Operation.startsSessions (operation : Operation) : Bool :=
  operation.pageContext?.isSome

/-- Whether an operation waits for an answer about the session. -/
def Waiting.isTracking (waiting : Waiting) : Bool :=
  match waiting.paused with
  | .calling call _ => call.isSession
  | _ => false

/-- The request to start a session, if it was made, with the number of the operation that made
it. -/
def Happening.start? : Happening → Option (Nat × String × StartRequest)
  | .asked number (.service (.startSession id request)) => some (number, id, request)
  | _ => none

/-- Whether the start of a session was accepted, if this was answered, with the number of the
operation that had asked for it. -/
def Happening.verdict? : Happening → Option (Nat × Bool)
  | .answered number call answer =>
      if call.isStart then some (number, call.accepts answer) else none
  | _ => none

/-- The start that an operation of the given number is making, if it has asked for it. -/
def Phase.starts (number : Nat) : Phase → List (Nat × String × StartRequest)
  | .starting id _ request => [(number, id, request)]
  | _ => []

/-- What is answered to the operation of the given number about the start of a session. -/
def Spur.verdicts (number : Nat) : Spur → List (Nat × Bool)
  | .answered _ _ accepted => [(number, accepted)]
  | _ => []

/-- What was answered to the start of a session. -/
def Session.verdict? (session : Session) : Option (Nat × Bool) :=
  session.accepted.map fun accepted => (session.number, accepted)

namespace Operation.StandsAt

variable {operation : Operation} {phase : Phase} {paused : Errand.Paused Outcome}

/-- An operation that makes a start waits for an answer about the session. -/
theorem isTracking (stands : operation.StandsAt phase paused) (making : phase ≠ .aside)
    (number : Nat) :
    operation.startsSessions = true ∧ Waiting.isTracking ⟨number, operation, paused⟩ = true := by
  cases stands with
  | calling | sleeping => exact absurd rfl making
  | closing after | starting after => exact ⟨Option.isSome_of_eq_some after.context, rfl⟩

/-- A start is made on the page of its operation. -/
theorem context {id : String} {context : PageContext} {request : StartRequest}
    (stands : operation.StandsAt (.starting id context request) paused) :
    operation.pageContext? = some context := by
  cases stands with
  | starting after => exact after.context

/-- A pause notes the request to start that it stands at. -/
theorem starts (stands : operation.StandsAt phase paused) (number : Nat) :
    (Course.pauseNote number paused).filterMap Happening.start? = phase.starts number := by
  cases stands with
  | @calling call next other =>
      cases call with
      | provider call => rfl
      | service call => cases call <;> first | rfl | cases other
  | _ => rfl

/-- An answer is a verdict exactly where a start waits for it. -/
theorem verdicts {call : Call} {next : call.Answer → Errand Outcome}
    (stands : operation.StandsAt phase (.calling call next)) (answer : call.Answer)
    (number : Nat) :
    [Happening.answered number call answer].filterMap Happening.verdict? =
      (phase.spur (call.accepts answer)).verdicts number := by
  cases stands with
  | calling other => simp [Happening.verdict?, other, Phase.spur, Spur.verdicts]
  | _ => rfl

/-- An operation that sleeps has no start under way. -/
theorem aside_of_sleeping {wakeUp : Nat} {next : Errand Outcome}
    (stands : operation.StandsAt phase (.sleeping wakeUp next)) : phase = .aside := by
  cases stands
  rfl

end Operation.StandsAt

/-- Nobody starts a session without telling anything or taking anybody up. -/
theorem Tracker.Goes.aside {outside : Outside} {before after : Tracker} {told : List Inquiry}
    {phase : Phase} (goes : before.Goes outside .go told after phase) (silent : told = [])
    (same : after = before) : phase = .aside := by
  cases goes with
  | once acts =>
      cases acts with
      | takeUp other => exact absurd (congrArg Tracker.visitor same).symm other
      | _ => rfl
  | twice acts goesOn =>
      cases goesOn with
      | begin => exact absurd (List.append_eq_nil_iff.1 silent).2 (List.cons_ne_nil _ _)

/-- Where nothing was waited for and nothing is, the tracker has acted once. -/
theorem Tracker.Goes.acts {outside : Outside} {before after : Tracker} {told : List Inquiry}
    (goes : before.Goes outside .go told after .aside) :
    before.Acts outside .go told after .aside := by
  cases goes with
  | once acts => exact acts
  | twice acts goesOn => cases acts; cases goesOn

/-- How far the operation of a number is with the start of a session, as far as a ledger knows. -/
def Ledger.phaseOf (ledger : Ledger) (number : Nat) : Phase :=
  if number = ledger.number then ledger.phase else .aside

/-- The phase of an operation is that of the ledger, if only its own start is under way. -/
theorem Ledger.phaseOf_eq_phase {ledger : Ledger} {number : Nat}
    (idle : number ≠ ledger.number → ledger.phase = .aside) :
    ledger.phaseOf number = ledger.phase := by
  unfold phaseOf
  split
  case isTrue => rfl
  case isFalse other => exact (idle other).symm

/-- Without a start under way, an operation is aside. -/
theorem Ledger.phaseOf_eq_aside {ledger : Ledger} {number : Nat}
    (idle : number = ledger.number → ledger.phase = .aside) :
    ledger.phaseOf number = .aside := by
  unfold phaseOf
  split
  case isTrue same => exact idle same
  case isFalse => rfl

namespace Course

/-! ## What a course says of sessions -/

/-- The requests to start a session so far, oldest first. -/
def starts (course : Course) : List (Nat × String × StartRequest) :=
  course.history.filterMap Happening.start?

/-- The answers to requests to start a session so far, oldest first. -/
def verdicts (course : Course) : List (Nat × Bool) :=
  course.history.filterMap Happening.verdict?

/-- That the sessions which the operation of a number starts begin on a page. -/
def StartsOn (course : Course) (number : Nat) (context : PageContext) : Prop :=
  ∃ operation, .started number operation ∈ course.history ∧ operation.pageContext? = some context

/-- That the given sessions, oldest first, are those of a course: what was told falls into them, and
they were started and answered as it was asked and answered. -/
structure Recounts (course : Course) (sessions : List Session) : Prop where
  reports : course.visit.reports = sessions.flatMap Session.inquiries
  starts : course.starts =
    sessions.map fun session => (session.number, session.visitor, session.request)
  verdicts : course.verdicts = sessions.filterMap Session.verdict?
  contexts : ∀ session ∈ sessions, course.StartsOn session.number session.context

/-- That a course says in addition what was told, asked and answered of sessions. -/
structure Adds (before after : Course) (told : List Inquiry)
    (starts : List (Nat × String × StartRequest)) (verdicts : List (Nat × Bool)) : Prop where
  reports : after.visit.reports = before.visit.reports ++ told
  starts : after.starts = before.starts ++ starts
  verdicts : after.verdicts = before.verdicts ++ verdicts
  history : before.history <+: after.history

variable {before after : Course} {number : Nat} {operation : Operation} {cue : Cue}
  {told : List Inquiry}

/-- A session begins on the page of its operation however the course goes on. -/
theorem StartsOn.mono {context : PageContext} (on : before.StartsOn number context)
    (history : before.history <+: after.history) : after.StartsOn number context := by
  obtain ⟨operation, started, starts⟩ := on
  exact ⟨operation, history.subset started, starts⟩

/-- A pause is no verdict. -/
theorem verdicts_pauseNote (number : Nat) (paused : Errand.Paused Outcome) :
    (pauseNote number paused).filterMap Happening.verdict? = [] := by
  cases paused <;> rfl

/-- An operation that ends starts no session. -/
theorem starts_of_finished {paused : Errand.Paused Outcome} {outcome : Outcome}
    (finished : paused = .finished outcome) (number : Nat) :
    (pauseNote number paused).filterMap Happening.start? = [] := by
  rw [finished]
  rfl

/-- What a piece of an operation adds to what a course says. -/
theorem Resumes.adds {resumed : Course} {spur : Spur} {phase : Phase}
    {piece : Errand.Paused Outcome × Visit}
    (resumes : Resumes before number operation cue resumed)
    (tells : operation.Tells spur before.visit told phase piece)
    (verdicts : resumed.verdicts = before.verdicts ++ spur.verdicts number) :
    Adds before (resumed.pause number operation piece) told (phase.starts number)
      (spur.verdicts number) where
  reports := by
    rw [pause_visit]
    exact tells.reports
  starts := by
    have resumed_starts : resumed.starts = before.starts := by
      cases resumes with
      | start | answer | wake => exact (List.filterMap_append ..).trans (List.append_nil _)
    rw [Course.starts, pause_history, List.filterMap_append]
    refine congrArg₂ _ resumed_starts ?_
    rcases tells.stands with ⟨outcome, ends, rfl⟩ | stands
    · exact starts_of_finished ends number
    · exact stands.starts number
  verdicts := by
    rw [Course.verdicts, pause_history, List.filterMap_append, verdicts_pauseNote,
      List.append_nil]
    exact verdicts
  history := by
    obtain ⟨happening, _, history⟩ := resumes.history_eq
    exact (history ▸ List.prefix_append _ _).trans (history_prefix_pause _ _ _ _)

/-! ### Sessions that go on -/

/-- What is told last comes last. -/
theorem flatMap_tellLast {sessions : List Session} (silent : sessions = [] → told = []) :
    (Session.tellLast told sessions).reverse.flatMap Session.inquiries =
      sessions.reverse.flatMap Session.inquiries ++ told := by
  cases sessions with
  | nil => exact (silent rfl).symm
  | cons last earlier => simp [Session.tellLast, Session.inquiries, Session.tell]

/-- Telling something of the last session leaves what does not depend on the reports. -/
theorem map_tellLast {α : Type} {view : Session → α} (sessions : List Session)
    (same : ∀ session, view (session.tell told) = view session) :
    (Session.tellLast told sessions).reverse.map view = sessions.reverse.map view := by
  rw [List.map_reverse, List.map_reverse]
  exact congrArg List.reverse (Session.map_modifyHead same sessions)

/-- Telling something of the last session answers no start. -/
theorem filterMap_tellLast (sessions : List Session) :
    (Session.tellLast told sessions).reverse.filterMap Session.verdict? =
      sessions.reverse.filterMap Session.verdict? := by
  cases sessions with
  | nil => rfl
  | cons last earlier =>
      rw [List.filterMap_reverse, List.filterMap_reverse]
      rfl

/-- Telling something of the last session leaves the pages. -/
theorem contexts_tellLast {sessions : List Session} {on : Nat → PageContext → Prop}
    (contexts : ∀ session ∈ sessions.reverse, on session.number session.context) :
    ∀ session ∈ (Session.tellLast told sessions).reverse, on session.number session.context := by
  cases sessions with
  | nil => exact contexts
  | cons last earlier =>
      intro session mem
      rcases List.mem_cons.1 (List.mem_reverse.1 mem) with rfl | mem
      · exact contexts last (List.mem_reverse.2 (.head _))
      · exact contexts session (List.mem_reverse.2 (.tail _ mem))

/-- The sessions go on with something told in addition. -/
theorem Recounts.tell {sessions : List Session} (recounts : before.Recounts sessions.reverse)
    (adds : Adds before after told [] []) (silent : sessions = [] → told = []) :
    after.Recounts (Session.tellLast told sessions).reverse where
  reports := by rw [adds.reports, recounts.reports, flatMap_tellLast silent]
  starts := by rw [adds.starts, List.append_nil, recounts.starts, map_tellLast _ fun _ => rfl]
  verdicts := by rw [adds.verdicts, List.append_nil, recounts.verdicts, filterMap_tellLast]
  contexts := contexts_tellLast fun session mem =>
    (recounts.contexts session mem).mono adds.history

/-- One more session begins after what was told last. -/
theorem Recounts.begin {sessions : List Session} {id : String} {request : StartRequest}
    {context : PageContext} (recounts : before.Recounts sessions.reverse)
    (adds : Adds before after (told ++ [.call (.service (.startSession id request))])
      [(number, id, request)] [])
    (silent : sessions = [] → told = []) (on : after.StartsOn number context) :
    after.Recounts
      (⟨number, id, request, context, none, []⟩ :: Session.tellLast told sessions).reverse := by
  rw [List.reverse_cons]
  refine ⟨?_, ?_, ?_, fun session mem => ?_⟩
  · rw [adds.reports, recounts.reports, List.flatMap_append, flatMap_tellLast silent,
      List.append_assoc]
    rfl
  · rw [adds.starts, recounts.starts, List.map_append, map_tellLast _ fun _ => rfl]
    rfl
  · rw [adds.verdicts, recounts.verdicts, List.filterMap_append, filterMap_tellLast]
    rfl
  · rcases List.mem_append.1 mem with mem | mem
    · exact contexts_tellLast (fun session mem =>
        (recounts.contexts session mem).mono adds.history) session mem
    · cases List.mem_singleton.1 mem
      exact on

/-- The start of the last session is answered. -/
theorem Recounts.answer {last : Session} {earlier : List Session} {accepted : Bool}
    (recounts : before.Recounts (last :: earlier).reverse)
    (adds : Adds before after told [] [(last.number, accepted)]) (waits : last.accepted = none) :
    after.Recounts
      (Session.tellLast told (Session.answerLast accepted (last :: earlier))).reverse := by
  rw [List.reverse_cons] at recounts
  have same : (Session.tellLast told (Session.answerLast accepted (last :: earlier))).reverse =
    earlier.reverse ++ [{ last with accepted := some accepted }.tell told] := List.reverse_cons
  rw [same]
  refine ⟨?_, ?_, ?_, fun session mem => ?_⟩
  · rw [adds.reports, recounts.reports, List.flatMap_append, List.flatMap_append,
      List.append_assoc]
    simp [Session.inquiries, Session.tell]
  · rw [adds.starts, recounts.starts, List.append_nil, List.map_append, List.map_append]
    rfl
  · rw [adds.verdicts, recounts.verdicts, List.filterMap_append, List.filterMap_append,
      List.filterMap_cons_none (by rw [Session.verdict?, waits]; rfl), List.filterMap_nil,
      List.append_nil]
    rfl
  · rcases List.mem_append.1 mem with mem | mem
    · exact (recounts.contexts session (List.mem_append_left _ mem)).mono adds.history
    · cases List.mem_singleton.1 mem
      exact (recounts.contexts last (by simp)).mono adds.history

/-! ## What a ledger keeps of a course -/

/-- That a ledger is that of a course: it has the same tracker, it has written down all that was
told, and it knows of every operation how far it is with the start of a session. -/
structure Fits (course : Course) (ledger : Ledger) : Prop where
  tracker : ledger.tracker = course.visit.tracker
  recounts : course.Recounts ledger.sessions.reverse
  stands : ∀ waiting ∈ course.waiting,
    waiting.operation.StandsAt (ledger.phaseOf waiting.number) waiting.paused
  pending : ledger.phase ≠ .aside → ledger.number ∈ course.numbers

variable {ledger : Ledger} {outside : Outside} {interrupts : Prop} {spur : Spur} {phase : Phase}
  {tracker : Tracker}

/-- That a ledger has moved to another one, which has written down what a course says and knows how
far the operation of a number is. -/
structure Written (interrupts : Prop) (ledger : Ledger) (number : Nat) (phase : Phase)
    (tracker : Tracker) (course : Course) (ledger' : Ledger) : Prop where
  goes : ledger.Goes interrupts ledger'
  tracks : ledger'.tracker = tracker
  comes : ledger'.phase = phase
  numbered : phase = .aside ∨ number = ledger'.number
  recounts : course.Recounts ledger'.sessions.reverse

/-- When no start is under way, an operation may do anything. -/
theorem Recounts.written_free (recounts : before.Recounts ledger.sessions.reverse)
    (sound : ledger.Sound) (goes : ledger.tracker.Goes outside .go told tracker phase)
    (adds : Adds before after told (phase.starts number) []) (free : ledger.phase = .aside)
    (on : ∀ {id context request}, phase = .starting id context request →
      after.StartsOn number context) :
    ∃ ledger', Written interrupts ledger number phase tracker after ledger' := by
  cases goes with
  | once acts =>
      have silent := sound.acts acts
      cases phase with
      | aside =>
          exact ⟨_, (Ledger.Moves.act (.inl free) acts).goes, rfl, free, .inl rfl,
            recounts.tell adds silent⟩
      | closing id context =>
          exact ⟨_, (Ledger.Moves.takeUp number free acts).goes, rfl, rfl, .inr rfl,
            recounts.tell adds silent⟩
      | starting id context request => cases acts
  | twice acts goesOn =>
      have silent := sound.acts acts
      have takes : ledger.Goes interrupts _ := (Ledger.Moves.takeUp number free acts).goes
      cases goesOn with
      | begin _ _ request =>
          exact ⟨_, takes.trans (@Ledger.Moves.begin outside _ _ _ _ request rfl).goes, rfl, rfl,
            .inr rfl, recounts.begin adds silent (on rfl)⟩

/-- The operation that waits for the answer to the end of the former session asks for the start. -/
theorem Recounts.written_closed {id : String} {context : PageContext}
    (recounts : before.Recounts ledger.sessions.reverse)
    (goes : ledger.tracker.Goes outside (.closed id context) told tracker phase)
    (adds : Adds before after told (phase.starts ledger.number) [])
    (waits : ledger.phase = .closing id context)
    (on : ∀ {id context request}, phase = .starting id context request →
      after.StartsOn ledger.number context) :
    ∃ ledger', Written interrupts ledger ledger.number phase tracker after ledger' := by
  cases goes with
  | once acts =>
      cases acts with
      | begin _ _ request =>
          have begun : after.Recounts (_ :: Session.tellLast [] ledger.sessions).reverse :=
            recounts.begin adds (fun _ => rfl) (on rfl)
          rw [Session.tellLast_nil] at begun
          exact ⟨_, (@Ledger.Moves.begin outside _ _ _ _ request waits).goes, rfl, rfl, .inr rfl,
            begun⟩
  | twice acts => cases acts

/-- The operation that waits for the answer to the start of a session takes note of it. -/
theorem Recounts.written_answered {id : String} {context : PageContext} {request : StartRequest}
    {accepted : Bool} (recounts : before.Recounts ledger.sessions.reverse) (sound : ledger.Sound)
    (goes : ledger.tracker.Goes outside (.answered id context accepted) told tracker phase)
    (adds : Adds before after told (phase.starts ledger.number) [(ledger.number, accepted)])
    (waits : ledger.phase = .starting id context request) :
    ∃ ledger', Written interrupts ledger ledger.number phase tracker after ledger' := by
  cases goes with
  | once acts =>
      obtain rfl : phase = .aside := by cases acts <;> rfl
      have answers : ledger.Goes interrupts _ := (Ledger.Moves.answer waits acts).goes
      refine ⟨_, answers, rfl, rfl, .inl rfl, ?_⟩
      have standing := sound.standing
      rw [waits] at standing
      generalize ledger.sessions = sessions at recounts standing
      generalize ledger.number = number at adds standing
      cases standing with
      | starting known numbered unanswered =>
          cases numbered
          exact recounts.answer adds unanswered
  | twice acts => cases acts

/-- Every operation that waits was started. -/
def Begun (course : Course) : Prop :=
  ∀ waiting ∈ course.waiting, .started waiting.number waiting.operation ∈ course.history

/-- An operation that has a turn was started. -/
theorem Resumes.started_mem {resumed : Course}
    (resumes : Resumes before number operation cue resumed) (begun : before.Begun) :
    .started number operation ∈ resumed.history := by
  cases resumes with
  | start => exact List.mem_append_right _ (.head _)
  | answer waits | wake waits => exact List.mem_append_left _ (begun _ waits)

/-- What waits goes on to have been started. -/
theorem Begun.step (begun : before.Begun) (step : Step before after) : after.Begun := by
  intro waiting mem
  cases step.progress with
  | piece proceeds resumes =>
      rw [pause_history]
      refine List.mem_append_left _ ?_
      rcases mem_waiting_pause mem with mem | ⟨rfl, _⟩
      · obtain ⟨happening, _, history⟩ := resumes.history_eq
        exact history ▸ List.mem_append_left _ (begun waiting (resumes.mem_waiting mem))
      · exact resumes.started_mem begun
  | aside apart same background history =>
      rw [same] at mem
      exact history ▸ List.mem_append_left _ (begun waiting mem)

/-- After a piece of an operation, where no other one is making a start. -/
theorem Written.fits {ledger' : Ledger} {resumed : Course} {piece : Errand.Paused Outcome × Visit}
    (written : Written interrupts ledger number phase piece.2.tracker
      (resumed.pause number operation piece) ledger')
    (tells : operation.Tells spur before.visit told phase piece) (fresh : number ∉ resumed.numbers)
    (others : ∀ waiting ∈ resumed.waiting, waiting.operation.StandsAt .aside waiting.paused) :
    (resumed.pause number operation piece).Fits ledger' := by
  have own : ledger'.phaseOf number = phase := by
    refine (Ledger.phaseOf_eq_phase fun other => ?_).trans written.comes
    exact written.comes.trans (written.numbered.resolve_right other)
  have aside {other : Nat} (different : other ≠ number) : ledger'.phaseOf other = .aside := by
    refine Ledger.phaseOf_eq_aside fun same => written.comes.trans ?_
    exact written.numbered.resolve_right fun numbered => different (same.trans numbered.symm)
  refine ⟨by rw [pause_visit, written.tracks], written.recounts, fun waiting mem => ?_,
    fun making => ?_⟩
  · rcases mem_waiting_pause mem with mem | ⟨rfl, unfinished⟩
    · rw [aside fun same => fresh (same ▸ List.mem_map_of_mem mem)]
      exact others waiting mem
    · rw [own]
      exact tells.stands.resolve_left fun ⟨outcome, ends, _⟩ => unfinished outcome ends
  · rw [written.comes] at making
    have stands := tells.stands.resolve_left fun ⟨_, _, aside⟩ => making aside
    rw [← written.numbered.resolve_left making]
    refine List.mem_map_of_mem (mem_waiting_pause_self resumed number operation ?_)
    rintro outcome ends
    rw [ends] at stands
    cases stands

/-- After a piece of an operation beside the one that is making a start. -/
theorem Fits.interrupted {resumed : Course} {piece : Errand.Paused Outcome × Visit}
    (fits : before.Fits ledger) (resumes : Resumes before number operation cue resumed)
    (other : number ≠ ledger.number)
    (tells : operation.Tells spur before.visit told .aside piece)
    (recounts : (resumed.pause number operation piece).Recounts
      (Session.tellLast told ledger.sessions).reverse) :
    (resumed.pause number operation piece).Fits
      { ledger with tracker := piece.2.tracker, sessions := Session.tellLast told ledger.sessions }
    where
  tracker := by rw [pause_visit]
  recounts := recounts
  stands waiting mem := by
    rcases mem_waiting_pause mem with mem | ⟨rfl, unfinished⟩
    · exact fits.stands waiting (resumes.mem_waiting mem)
    · rw [Ledger.phaseOf, if_neg other]
      exact tells.stands.resolve_left fun ⟨outcome, ends, _⟩ => unfinished outcome ends
  pending making := by
    obtain ⟨waiting, mem, numbered⟩ := List.mem_map.1 (fits.pending making)
    have stays := resumes.mem_waiting_of_ne mem (numbered ▸ other.symm)
    exact List.mem_map.2 ⟨waiting, mem_waiting_pause_of_mem stays _ _ _, numbered⟩

/-! ## Steps -/

/-- That a step is taken in turn: while an operation of a kind waits for an answer about the
session, no other operation of the kind does anything with the session. -/
def InTurn (kind : Operation → Bool) (before after : Course) : Prop :=
  ∀ number operation cue, Cues before after number operation cue → kind operation = true →
    ¬ before.visit.Untracked after.visit →
    ∀ waiting ∈ before.waiting, kind waiting.operation = true → waiting.isTracking = true →
      waiting.number = number

/-- A step is taken in turn if the operation that it sets going is the only one that waits for an
answer about the session. -/
theorem inTurn_of_cues {kind : Operation → Bool} (numbered : before.Numbered)
    (cues : Cues before after number operation cue)
    (alone : kind operation = true → ∀ waiting ∈ before.waiting, kind waiting.operation = true →
      waiting.isTracking = true → waiting.number = number) : InTurn kind before after := by
  intro other operation' cue' cues' same _
  obtain ⟨rfl, rfl, rfl⟩ := cues.unique cues' numbered
  exact alone same

/-- A piece that does nothing with the session makes no start. -/
theorem aside_of_untracked {piece : Errand.Paused Outcome × Visit}
    (tells : operation.Tells .go before.visit told phase piece)
    (untracked : before.visit.Untracked piece.2) : told = [] ∧ phase = .aside := by
  have silent : told = [] := by
    have same := tells.reports.symm.trans untracked.reports
    exact List.append_cancel_left (same.trans (List.append_nil _).symm)
  exact ⟨silent, tells.goes.aside silent untracked.tracker⟩

variable {kind : Operation → Bool}

/-- The operation that the ledger knows of, or any one when no start is under way. -/
theorem Fits.own {accepted : Bool} (fits : before.Fits ledger) (sound : ledger.Sound)
    (free : ledger.phase = .aside ∨ number = ledger.number)
    (goes : before.visit.tracker.Goes outside ((ledger.phaseOf number).spur accepted) told
      tracker phase)
    (adds : Adds before after told (phase.starts number)
      (((ledger.phaseOf number).spur accepted).verdicts number))
    (on : ∀ {id context request}, phase = .starting id context request →
      after.StartsOn number context) :
    ∃ ledger', Written interrupts ledger number phase tracker after ledger' := by
  have recounts := fits.recounts
  rw [← fits.tracker] at goes
  rw [Ledger.phaseOf_eq_phase free.resolve_right] at goes adds
  cases waits : ledger.phase with
  | aside =>
      rw [waits] at goes adds
      exact recounts.written_free sound goes adds waits on
  | closing id context =>
      rw [waits] at goes adds free
      cases free.resolve_left nofun
      exact recounts.written_closed goes adds waits on
  | starting id context request =>
      rw [waits] at goes adds free
      cases free.resolve_left nofun
      exact recounts.written_answered sound goes adds waits

/-- An operation beside the one that makes a start does nothing with the session, or it may
interrupt. -/
theorem Fits.beside {piece : Errand.Paused Outcome × Visit} (fits : before.Fits ledger)
    (starts : ∀ operation : Operation, operation.startsSessions = true → kind operation = true)
    (making : ledger.phase ≠ .aside) (other : number ≠ ledger.number)
    (tells : operation.Tells .go before.visit told phase piece)
    (inTurn : kind operation = true → ¬ before.visit.Untracked piece.2 →
      ∀ waiting ∈ before.waiting, kind waiting.operation = true → waiting.isTracking = true →
        waiting.number = number) :
    phase = .aside ∧ ∃ outside, ledger.Moves outside (∃ operation, kind operation = false) told
      { ledger with
        tracker := piece.2.tracker, sessions := Session.tellLast told ledger.sessions } := by
  cases same : kind operation with
  | true =>
      obtain ⟨waiting, mem, numbered⟩ := List.mem_map.1 (fits.pending making)
      have stands := fits.stands waiting mem
      rw [Ledger.phaseOf, if_pos numbered] at stands
      obtain ⟨startsSessions, tracking⟩ := stands.isTracking making waiting.number
      -- The operation that makes the start waits for an answer, so the turn is not this one's.
      have untracked : before.visit.Untracked piece.2 := by
        by_contra tracks
        refine other (numbered ▸ ?_)
        exact (inTurn same tracks waiting mem (starts _ startsSessions) tracking).symm
      obtain ⟨rfl, aside⟩ := aside_of_untracked tells untracked
      refine ⟨aside, before.visit.outside, .idle ?_⟩
      rw [fits.tracker, untracked.tracker]
      exact .refl _
  | false =>
      have aside : phase = .aside := by
        by_contra begins
        have stands := tells.stands.resolve_left fun ⟨_, _, aside⟩ => begins aside
        cases same.symm.trans (starts _ (stands.isTracking begins number).1)
      subst aside
      refine ⟨rfl, before.visit.outside, .act (.inr ⟨operation, same⟩) ?_⟩
      rw [fits.tracker]
      exact tells.goes.acts

/-- A piece of an operation is matched by moves of the ledger. -/
theorem Fits.piece {resumed : Course} {piece : Errand.Paused Outcome × Visit}
    (fits : before.Fits ledger) (sound : ledger.Sound) (numbered : before.Numbered)
    (begun : before.Begun) (accepted : Bool)
    (starts : ∀ operation : Operation, operation.startsSessions = true → kind operation = true)
    (resumes : Resumes before number operation cue resumed)
    (tells : operation.Tells ((ledger.phaseOf number).spur accepted) before.visit told phase piece)
    (verdicts : resumed.verdicts =
      before.verdicts ++ ((ledger.phaseOf number).spur accepted).verdicts number)
    (inTurn : InTurn kind before (resumed.pause number operation piece)) :
    ∃ ledger', ledger.Goes (∃ operation, kind operation = false) ledger' ∧
      (resumed.pause number operation piece).Fits ledger' := by
  have fresh := resumes.fresh numbered
  have adds := resumes.adds tells verdicts
  -- Either no other operation is making a start, or the piece stands beside such an operation.
  by_cases free : ledger.phase = .aside ∨ number = ledger.number
  · have on {id : String} {context : PageContext} {request : StartRequest}
        (starting : phase = .starting id context request) :
        (resumed.pause number operation piece).StartsOn number context := by
      subst starting
      have stands := tells.stands.resolve_left fun ⟨_, _, aside⟩ => nomatch aside
      refine ⟨operation, ?_, stands.context⟩
      rw [pause_history]
      exact List.mem_append_left _ (resumes.started_mem begun)
    obtain ⟨ledger', written⟩ := fits.own sound free tells.goes adds on
    refine ⟨ledger', written.goes, written.fits tells fresh fun waiting mem => ?_⟩
    have stands := fits.stands waiting (resumes.mem_waiting mem)
    rwa [Ledger.phaseOf_eq_aside fun same => free.resolve_right fun own =>
      fresh (own.trans same.symm ▸ List.mem_map_of_mem mem)] at stands
  · obtain ⟨making, other⟩ := not_or.1 free
    have idle : ledger.phaseOf number = .aside := if_neg other
    rw [idle] at tells adds
    obtain ⟨rfl, outside, moves⟩ := fits.beside starts making other tells fun same tracks =>
      inTurn number operation cue ⟨resumed, piece, resumes, rfl⟩ same (by rwa [pause_visit])
    refine ⟨_, moves.goes, fits.interrupted resumes other tells ?_⟩
    have acts := tells.goes.acts
    rw [← fits.tracker] at acts
    exact fits.recounts.tell adds (sound.acts acts)

/-- Idling is matched by a move of the ledger. -/
theorem Fits.idle (fits : before.Fits ledger) (sound : ledger.Sound)
    (idles : before.visit.tracker.Idles told after.visit.tracker)
    (reports : after.visit.reports = before.visit.reports ++ told)
    (same : after.waiting = before.waiting) {happening : Happening}
    (background : happening.isBackground = true)
    (history : after.history = before.history ++ [happening]) :
    ∃ ledger', ledger.Goes interrupts ledger' ∧ after.Fits ledger' := by
  have adds : Adds before after told [] [] := by
    refine ⟨reports, ?_, ?_, history ▸ List.prefix_append _ _⟩
    · rw [Course.starts, history, List.filterMap_append]
      cases happening <;> first | rfl | cases background
    · rw [Course.verdicts, history, List.filterMap_append]
      cases happening <;> first | rfl | cases background
  rw [← fits.tracker] at idles
  have moves : ledger.Moves before.visit.outside interrupts told _ := .idle idles
  refine ⟨_, moves.goes, rfl, fits.recounts.tell adds (sound.idles idles), ?_, ?_⟩
  · rw [same]
    exact fits.stands
  · rw [numbers, same]
    exact fits.pending

/-- A step of a course is matched by moves of its ledger. -/
theorem Step.fits (step : Step before after) (fits : before.Fits ledger) (sound : ledger.Sound)
    (numbered : before.Numbered) (begun : before.Begun)
    (starts : ∀ operation : Operation, operation.startsSessions = true → kind operation = true)
    (inTurn : InTurn kind before after) :
    ∃ ledger', ledger.Goes (∃ operation, kind operation = false) ledger' ∧ after.Fits ledger' := by
  have background {later : Course} (idles : before.visit.Idles later.visit)
      (same : later.waiting = before.waiting) {happening : Happening}
      (background : happening.isBackground = true)
      (history : later.history = before.history ++ [happening]) :
      ∃ ledger', ledger.Goes (∃ operation, kind operation = false) ledger' ∧
        later.Fits ledger' := by
    obtain ⟨told, idles, reports⟩ := idles.tells
    exact fits.idle sound idles reports same background history
  cases step with
  | start operation =>
      obtain ⟨told, phase, tells⟩ := operation.tells_start before.visit
      have new : ledger.phaseOf before.started = .aside := by
        refine Ledger.phaseOf_eq_aside fun same => ?_
        by_contra making
        exact Nat.lt_irrefl _ (numbered.lt_started _ (same ▸ fits.pending making))
      have goes : Phase.spur false (ledger.phaseOf before.started) = .go := by rw [new]; rfl
      rw [← goes] at tells
      refine fits.piece sound numbered begun false starts (.start operation) tells ?_ inTurn
      rw [goes]
      exact List.filterMap_append ..
  | answer waits answer =>
      have stands := fits.stands _ waits
      obtain ⟨told, phase, tells⟩ := Operation.tells_answer stands answer before.visit
      refine fits.piece sound numbered begun _ starts (.answer waits answer) tells ?_ inTurn
      exact (List.filterMap_append ..).trans (congrArg _ (stands.verdicts answer _))
  | @wake number wakeUp operation next waits due =>
      have stands := fits.stands _ waits
      obtain ⟨told, phase, tells⟩ := Operation.tells_wake stands before.visit
      have goes : Phase.spur false (ledger.phaseOf number) = .go := by
        rw [stands.aside_of_sleeping]
        rfl
      rw [← goes] at tells
      refine fits.piece sound numbered begun false starts (.wake waits) tells ?_ inTurn
      rw [goes]
      exact List.filterMap_append ..
  | beat due => exact background (.beat due) rfl rfl rfl
  | answerBeat sent => exact background (.answerBeat _) rfl rfl rfl
  | giveUpBeat => exact background .giveUpBeat rfl rfl rfl
  | changeOutside later => exact background (.changeOutside _) rfl rfl rfl

variable {settings : VisitSettings} {storage : Storage} {state : State} {course : Course}

/-- Whatever waits was started, by induction on the steps. -/
theorem Reaches.begun (reaches : Reaches (opening settings outside storage state) course) :
    course.Begun := by
  induction reaches with
  | refl => exact fun waiting mem => absurd mem List.not_mem_nil
  | step before next ih => exact ih.step next

/-- A course that is run in turn has a ledger. -/
theorem Runs.exists_ledger
    (runs : Runs (InTurn kind) (opening settings outside storage state) course)
    (starts : ∀ operation : Operation, operation.startsSessions = true → kind operation = true) :
    ∃ ledger, Ledger.Goes (∃ operation, kind operation = false) {} ledger ∧
      course.Fits ledger := by
  induction runs with
  | refl =>
      have fits : (opening settings outside storage state).Fits {} :=
        ⟨rfl, ⟨rfl, rfl, rfl, fun _ mem => absurd mem List.not_mem_nil⟩,
          fun _ mem => absurd mem List.not_mem_nil, fun making => absurd rfl making⟩
      exact ⟨{}, .refl, fits⟩
  | step before next inTurn ih =>
      obtain ⟨ledger, goes, fits⟩ := ih
      obtain ⟨ledger', goes', fits'⟩ := next.fits fits (goes.sound Ledger.sound_opening)
        before.reaches.numbered before.reaches.begun starts inTurn
      exact ⟨ledger', goes.trans goes', fits'⟩

/-- An operation may be started unless another one of the kind waits for an answer about the
session. -/
theorem Runs.start (runs : Runs (InTurn kind) (opening settings outside storage state) course)
    (operation : Operation)
    (free : kind operation = true → ∀ waiting ∈ course.waiting, kind waiting.operation = true →
      waiting.isTracking = false) :
    Runs (InTurn kind) (opening settings outside storage state) (course.start operation) := by
  refine .step runs (.start course operation) ?_
  refine inTurn_of_cues runs.reaches.numbered ⟨_, _, .start operation, rfl⟩ ?_
  exact fun same waiting mem same' tracks => nomatch (free same waiting mem same').symm.trans tracks

/-- The calls of an operation may be answered if no other one of the kind waits for an answer about
the session. -/
theorem Runs.answer (runs : Runs (InTurn kind) (opening settings outside storage state) course)
    {number : Nat} {operation : Operation} {call : Call} {next : call.Answer → Errand Outcome}
    (waits : ⟨number, operation, .calling call next⟩ ∈ course.waiting) (answer : call.Answer)
    (alone : ∀ waiting ∈ course.waiting, kind waiting.operation = true →
      waiting.isTracking = true → waiting.number = number) :
    Runs (InTurn kind) (opening settings outside storage state)
      (course.answer number operation call next answer) := by
  refine .step runs (.answer waits answer) ?_
  exact inTurn_of_cues runs.reaches.numbered ⟨_, _, .answer waits answer, rfl⟩ fun _ => alone

end Course

end VisitorLink
