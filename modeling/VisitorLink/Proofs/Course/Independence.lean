import VisitorLink.Proofs.Course.SessionView
import VisitorLink.Proofs.Course.Vouching
import VisitorLink.Proofs.Visit.Beats
import VisitorLink.Proofs.Visit.Beside

/-!
# The session without regard to the wallet

In two courses of a visit the same may be done about the session at the same times, with the same
answers, and anything about the wallet and the account in between. A `TrackingEvent` is something
that is done about the session, with how things stand around it, and `Tracked` says of a course
which events there were in it, whatever happened besides. What happens besides leaves alone what the
session sees of the course, but for the heartbeat that falls due.

Main statement: in two such courses the service is told the same about the session at the same
times, and nothing that is done about the session touches the state, the events and the id in the
slots (`tracking_is_independent`).
-/

namespace VisitorLink

open Errand

/-- That nobody is known to be the visitor but one with a given id. -/
def State.KnowsOnly (state : State) (id : String) : Prop :=
  ∀ other, state.visitorId? = some other → other = id

/-- Who the visitor is follows from whether that is known. -/
theorem State.KnowsOnly.visitorId?_eq {state : State} {id : String} (known : state.KnowsOnly id) :
    state.visitorId? = if state.visitor.isSome then some id else none := by
  cases loaded : state.visitor with
  | none =>
      rw [State.visitorId?, loaded]
      rfl
  | some visitor =>
      have loaded : state.visitorId? = some visitor.id := congrArg (·.map Visitor.id) loaded
      rw [loaded, known _ loaded]
      rfl

/-- Whether every record that an answer brings is that of a given visitor. -/
def Cue.IsAbout (cue : Cue) (id : String) : Prop :=
  ∀ visitor, cue.record? = some visitor → visitor.id = id

theorem Cue.isAbout_go (id : String) : Cue.go.IsAbout id := by
  intro visitor brings
  cases brings

namespace Visit

variable {visit after : Visit} {cue : Cue} {state : State} {storage : Storage} {id : String}

/-- A record is put in place as the answer brings it. -/
theorem Receives.visitor (receives : visit.Receives cue state storage) :
    state.visitor = visit.state.visitor ∨
      ∃ visitor, cue.record? = some visitor ∧ state.visitor = some visitor := by
  cases receives with
  | ignored | recalled | unadopted | required => exact .inl rfl
  | @linked _ _ _ visitor current decided =>
      cases visitor with
      | none => exact .inl rfl
      | some visitor => exact .inr ⟨visitor, by simp only [Cue.record?, decided], rfl⟩
  | _ => exact .inr ⟨_, rfl, rfl⟩

/-- Nobody else comes to be known by answers about one visitor. -/
theorem Follows.knowsOnly (follows : visit.Follows cue after) (about : cue.IsAbout id)
    (known : visit.state.KnowsOnly id) : after.state.KnowsOnly id := by
  obtain ⟨state, storage, receives, wanders⟩ := follows
  intro other loaded
  rw [wanders.visitorId?] at loaded
  rcases receives.visitor with same | ⟨visitor, brings, taken⟩
  · exact known other ((congrArg (·.map Visitor.id) same).symm.trans loaded)
  · rw [← about visitor brings]
    exact Option.some.inj (loaded.symm.trans (congrArg (·.map Visitor.id) taken))

end Visit

namespace Course

/-! ## Besides the session -/

/-- That something happens besides the session. An operation goes on that has nothing to do with it,
where an answer is about the given visitor and the visit does not go on as another one. Or the
heartbeat that is due is sent. Or the outside changes, where the clock does not pass by the time at
which a heartbeat falls due. -/
inductive Quiet (id : String) (before : Course) : Course → Prop
  | start {operation : Operation} (beside : operation.isBeside = true) :
      Quiet id before (before.start operation)
  | answer {number : Nat} {operation : Operation} {call : Call}
      {next : call.Answer → Errand Outcome} (beside : operation.isBeside = true)
      (waits : ⟨number, operation, .calling call next⟩ ∈ before.waiting) (answer : call.Answer)
      (about : Cue.IsAbout (.answer call answer) id)
      (stays : ¬ before.visit.Swaps (.answer call answer)) :
      Quiet id before (before.answer number operation call next answer)
  | wake {number wakeUp : Nat} {operation : Operation} {next : Errand Outcome}
      (beside : operation.isBeside = true)
      (waits : ⟨number, operation, .sleeping wakeUp next⟩ ∈ before.waiting)
      (due : wakeUp ≤ before.visit.clock) :
      Quiet id before (before.wake number operation next)
  | beat {heartbeat : Heartbeat} (due : before.visit.dueHeartbeat? = some heartbeat) :
      Quiet id before (before.beat heartbeat)
  | changeOutside {outside : Outside} (later : before.visit.clock ≤ outside.clock)
      (punctual : ∀ heartbeat, before.visit.pagesView.pending? = some heartbeat →
        outside.clock ≤ max before.visit.clock heartbeat.due) :
      Quiet id before (before.changeOutside outside)

/-- That a course has come about by nothing but the session and what happens besides, and all about
one visitor. -/
structure Undisturbed (course : Course) (id : String) : Prop where
  beside : ∀ waiting ∈ course.waiting, waiting.operation.isBeside = true →
    waiting.operation.WaitsBeside waiting.paused
  known : course.visit.state.KnowsOnly id

variable {settings : VisitSettings} {outside : Outside} {storage : Storage} {state : State}
  {before before' after after' course first first' middle last last' resumed : Course}
  {number : Nat} {operation : Operation} {cue : Cue} {piece : Errand.Paused Outcome × Visit}
  {id : String}

theorem Quiet.step (quiet : Quiet id before after) : Step before after := by
  cases quiet with
  | start beside => exact .start before _
  | answer beside waits answer about stays => exact .answer waits answer
  | wake beside waits due => exact .wake waits due
  | beat due => exact .beat due
  | changeOutside later punctual => exact .changeOutside later

theorem Undisturbed.pause (undisturbed : before.Undisturbed id)
    (resumes : Resumes before number operation cue resumed)
    (waits : operation.isBeside = true → operation.WaitsBeside piece.1)
    (known : piece.2.state.KnowsOnly id) :
    (resumed.pause number operation piece).Undisturbed id where
  beside waiting mem := by
    rcases mem_waiting_pause mem with mem | ⟨rfl, _⟩
    · exact undisturbed.beside waiting (resumes.mem_waiting mem)
    · exact waits
  known := by rwa [pause_visit]

/-- What happens besides the session leaves it undisturbed: it sees at most the heartbeat that falls
due and another moment. -/
structure Spares (id : String) (before after : Course) : Prop where
  undisturbed : after.Undisturbed id
  threads : after.threads = before.threads
  passes : ∀ {view : PagesView}, view.Passes before.visit.pagesView →
    view.Passes after.visit.pagesView

theorem Undisturbed.spares (undisturbed : before.Undisturbed id)
    (reaches : Reaches (opening settings outside storage state) before)
    (resumes : Resumes before number operation cue resumed)
    (proceeds : before.Proceeds number operation cue piece) (beside : operation.isBeside = true)
    (about : cue.IsAbout id) (goes : operation.GoesBeside before.visit piece) :
    Spares id before (resumed.pause number operation piece) where
  undisturbed :=
    undisturbed.pause resumes (fun _ => goes.waits)
      ((reaches.heeding proceeds).follows.knowsOnly about undisturbed.known)
  threads := by
    have aside := Operation.isOnSession_of_isBeside beside
    rw [threads_pause_of_beside aside]
    exact threads_resumes_of_beside resumes reaches.numbered aside
  passes {view} passes := by
    rw [pause_visit, goes.beside]
    have moves : view.Passes (before.visit.pagesView.move
        { before.visit.pagesView.moment with visitorId? := piece.2.state.visitorId? }) :=
      passes.move (Nat.le_refl _) fun _ _ => Nat.le_max_left _ _
    exact moves

theorem Quiet.spares (quiet : Quiet id before after)
    (reaches : Reaches (opening settings outside storage state) before)
    (undisturbed : before.Undisturbed id) : Spares id before after := by
  cases quiet with
  | start beside =>
      exact undisturbed.spares reaches (.start _) (.start _) beside (Cue.isAbout_go id)
        (Operation.goesBeside_start beside before.visit)
  | answer beside waits answer about stays =>
      have goes := (undisturbed.beside _ waits beside).answered answer stays
      exact undisturbed.spares reaches (.answer waits answer) (.answer waits answer) beside about
        goes
  | wake beside waits due =>
      have goes := (undisturbed.beside _ waits beside).woken before.visit
      exact undisturbed.spares reaches (.wake waits) (.wake waits) beside (Cue.isAbout_go id) goes
  | beat due =>
      refine ⟨⟨undisturbed.beside, undisturbed.known⟩, rfl, fun passes => ?_⟩
      rw [Visit.dueHeartbeat?_eq] at due
      change PagesView.Passes _ (before.visit.sendHeartbeat _).pagesView
      rw [Visit.pagesView_sendHeartbeat]
      exact passes.beat due
  | @changeOutside outside later punctual =>
      refine ⟨⟨undisturbed.beside, undisturbed.known⟩, rfl, fun {view} passes => ?_⟩
      have moves : view.Passes (before.visit.pagesView.move
          ⟨outside.clock, outside.sendsBeacons, before.visit.state.visitorId?⟩) :=
        passes.move later punctual
      exact moves

/-- All that happens besides the session until something is done about it. -/
theorem spares_of_quiet (quiet : Relation.ReflTransGen (Quiet id) first last)
    (reaches : Reaches (opening settings outside storage state) first)
    (undisturbed : first.Undisturbed id) :
    Reaches (opening settings outside storage state) last ∧ Spares id first last := by
  induction quiet with
  | refl => exact ⟨reaches, undisturbed, rfl, fun passes => passes⟩
  | tail _ next ih =>
      obtain ⟨reaches, spares⟩ := ih
      have spares' := next.spares reaches spares.undisturbed
      exact ⟨.step reaches next.step, spares'.undisturbed, spares'.threads.trans spares.threads,
        fun passes => spares'.passes (spares.passes passes)⟩

/-! ## What is done about the session -/

/-- Something that is done about the session. An operation on the session that waits is told by its
place among those, in the order in which they came to wait. -/
inductive TrackingAct
  | start (operation : Operation)
  | answer (index : Nat) (call : Call) (answer : call.Answer)
  | wake (index : Nat)
  /-- The heartbeat sent in the background is answered, told by the number of those started. -/
  | answerBeat (number : Nat)
  | giveUpBeat
  /-- The outside changes, where the clock may pass by the time at which a heartbeat falls due. -/
  | lag (clock : Nat) (sendsBeacons : Bool)
  /-- Nothing is done but a look taken at what has been told. -/
  | look

/-- That something is done about the session. -/
inductive Does (before : Course) : TrackingAct → Course → Prop
  | start {operation : Operation} (session : operation.isOnSession = true) :
      Does before (.start operation) (before.start operation)
  | answer {index number : Nat} {operation : Operation} {call : Call}
      {next : call.Answer → Errand Outcome}
      (waits : before.sessionWaiting[index]? = some ⟨number, operation, .calling call next⟩)
      (answer : call.Answer) :
      Does before (.answer index call answer) (before.answer number operation call next answer)
  | wake {index number wakeUp : Nat} {operation : Operation} {next : Errand Outcome}
      (waits : before.sessionWaiting[index]? = some ⟨number, operation, .sleeping wakeUp next⟩)
      (due : wakeUp ≤ before.visit.clock) :
      Does before (.wake index) (before.wake number operation next)
  | answerBeat {number : Nat} (sent : number ∈ before.beats) :
      Does before (.answerBeat number) (before.answerBeat number)
  | giveUpBeat : Does before .giveUpBeat before.giveUpBeat
  | lag {outside : Outside} (later : before.visit.clock ≤ outside.clock) :
      Does before (.lag outside.clock outside.sendsBeacons) (before.changeOutside outside)
  | look : Does before .look before

/-- Something done about the session with how things stand around it: the time, whether the end of
a session could be sent without waiting, whether the visitor is known, and whether a heartbeat is
due at this very time and still to be sent. -/
structure TrackingEvent where
  clock : Nat
  sendsBeacons : Bool
  isKnown : Bool
  isBehind : Bool
  act : TrackingAct

/-- That things stand in a course as an event has it. -/
structure TrackingEvent.Befits (event : TrackingEvent) (course : Course) : Prop where
  clock : course.visit.clock = event.clock
  sendsBeacons : course.visit.outside.sendsBeacons = event.sendsBeacons
  isKnown : course.visit.state.visitor.isSome = event.isKnown
  isBehind : course.visit.dueHeartbeat?.isSome = event.isBehind

/-- That these events, and no others, are what was done about the session from one course up to
another, the last event being at the end. -/
inductive Tracked (id : String) : Course → List TrackingEvent → Course → Prop
  | nil (course : Course) : Tracked id course [] course
  | cons {first middle next last : Course} {event : TrackingEvent} {events : List TrackingEvent}
      (quiet : Relation.ReflTransGen (Quiet id) first middle) (befits : event.Befits middle)
      (does : Does middle event.act next) (goesOn : Tracked id next events last) :
      Tracked id first (event :: events) last

theorem Does.reaches {act : TrackingAct} (does : Does before act after) : Reaches before after := by
  have waits {index : Nat} {waiting : Waiting}
      (found : before.sessionWaiting[index]? = some waiting) : waiting ∈ before.waiting :=
    (List.mem_filter.1 (List.mem_of_getElem? found)).1
  cases does with
  | start session => exact .step .refl (.start before _)
  | answer found answer => exact .step .refl (.answer (waits found) answer)
  | wake found due => exact .step .refl (.wake (waits found) due)
  | answerBeat sent => exact .step .refl (.answerBeat sent)
  | giveUpBeat => exact .step .refl (.giveUpBeat before)
  | lag later => exact .step .refl (.changeOutside later)
  | look => exact .refl

/-- What is done about the session leaves it undisturbed. -/
theorem Does.undisturbed {act : TrackingAct} (does : Does before act after)
    (reaches : Reaches (opening settings outside storage state) before)
    (undisturbed : before.Undisturbed id) : after.Undisturbed id := by
  have goesOn {number : Nat} {operation : Operation} {cue : Cue} {resumed : Course}
      {piece : Errand.Paused Outcome × Visit}
      (resumes : Resumes before number operation cue resumed)
      (proceeds : before.Proceeds number operation cue piece)
      (session : operation.isOnSession = true) :
      (resumed.pause number operation piece).Undisturbed id := by
    refine undisturbed.pause resumes (fun beside => ?_) ?_
    · cases (Operation.isOnSession_of_isBeside beside).symm.trans session
    · exact (reaches.tracks proceeds session).state ▸ undisturbed.known
  have idles {after : Course} (waiting : after.waiting = before.waiting)
      (idles : before.visit.Idles after.visit) : after.Undisturbed id :=
    ⟨waiting ▸ undisturbed.beside, idles.apart.state ▸ undisturbed.known⟩
  cases does with
  | start session => exact goesOn (.start _) (.start _) session
  | answer found answer =>
      obtain ⟨waits, session⟩ := List.mem_filter.1 (List.mem_of_getElem? found)
      exact goesOn (.answer waits answer) (.answer waits answer) session
  | wake found due =>
      obtain ⟨waits, session⟩ := List.mem_filter.1 (List.mem_of_getElem? found)
      exact goesOn (.wake waits) (.wake waits) session
  | answerBeat sent => exact idles rfl (.answerBeat _)
  | giveUpBeat => exact idles rfl .giveUpBeat
  | lag later => exact idles rfl (.changeOutside _)
  | look => exact undisturbed

/-- The same done about the session does the same to what it sees. -/
theorem Does.alike {act : TrackingAct} (does : Does before act after)
    (does' : Does before' act after')
    (reaches : Reaches (opening settings outside storage state) before)
    (reaches' : Reaches (opening settings outside storage state) before')
    (alike : before.Alike before') : after.Alike after' := by
  cases does with
  | start session =>
      cases does' with
      | start session' => exact alike.start session
  | answer found answer =>
      cases does' with
      | answer found' answer' => exact alike.answer reaches reaches' found found' answer
  | wake found due =>
      cases does' with
      | wake found' due' => exact alike.wake reaches reaches' found found'
  | answerBeat sent =>
      cases does' with
      | answerBeat sent' => exact ⟨Visit.pagesView_answerHeartbeat alike.pages _, alike.threads⟩
  | giveUpBeat =>
      cases does' with
      | giveUpBeat => exact ⟨Visit.pagesView_giveUpHeartbeat alike.pages, alike.threads⟩
  | @lag outside later =>
      generalize acts : TrackingAct.lag _ _ = act at does'
      cases does' with
      | @lag outside' later' =>
          obtain ⟨clock, sends⟩ := TrackingAct.lag.inj acts
          refine ⟨?_, alike.threads⟩
          change PagesView.move before.visit.pagesView
              ⟨outside.clock, outside.sendsBeacons, before.visit.pagesView.visitorId?⟩ =
            PagesView.move before'.visit.pagesView
              ⟨outside'.clock, outside'.sendsBeacons, before'.visit.pagesView.visitorId?⟩
          rw [alike.pages, clock, sends]
      | _ => cases acts
  | look =>
      cases does' with
      | look => exact alike

/-! ## Two courses -/

/-- Where the same event befits two courses, the session sees the same of them. -/
theorem alike_of_befits {event : TrackingEvent} (spares : Spares id first course)
    (spares' : Spares id first' course') (alike : first.Alike first')
    (befits : event.Befits course) (befits' : event.Befits course') : course.Alike course' where
  pages := by
    have passes := spares.passes (.refl first.visit.pagesView)
    have passes' := spares'.passes (.refl first'.visit.pagesView)
    rw [← alike.pages] at passes'
    refine passes.unique passes' ?_ ?_
    · have clock := befits.clock.trans befits'.clock.symm
      have sends := befits.sendsBeacons.trans befits'.sendsBeacons.symm
      have known : course.visit.state.visitorId? = course'.visit.state.visitorId? := by
        rw [spares.undisturbed.known.visitorId?_eq, spares'.undisturbed.known.visitorId?_eq,
          befits.isKnown, befits'.isKnown]
      change Moment.mk course.visit.clock course.visit.outside.sendsBeacons
          course.visit.state.visitorId? =
        Moment.mk course'.visit.clock course'.visit.outside.sendsBeacons
          course'.visit.state.visitorId?
      rw [clock, sends, known]
    · rw [← Visit.dueHeartbeat?_eq, ← Visit.dueHeartbeat?_eq]
      exact befits.isBehind.trans befits'.isBehind.symm
  threads := by rw [spares.threads, spares'.threads, alike.threads]

/-- The same events make for the same view of the session. -/
theorem Tracked.alike {events : List TrackingEvent} (tracked : Tracked id first events last)
    (tracked' : Tracked id first' events last')
    (reaches : Reaches (opening settings outside storage state) first)
    (reaches' : Reaches (opening settings outside storage state) first')
    (undisturbed : first.Undisturbed id) (undisturbed' : first'.Undisturbed id)
    (alike : first.Alike first') : last.Alike last' := by
  induction tracked generalizing first' with
  | nil =>
      cases tracked' with
      | nil => exact alike
  | cons quiet befits does goesOn ih =>
      cases tracked' with
      | cons quiet' befits' does' goesOn' =>
          obtain ⟨reaches, spares⟩ := spares_of_quiet quiet reaches undisturbed
          obtain ⟨reaches', spares'⟩ := spares_of_quiet quiet' reaches' undisturbed'
          have alike := alike_of_befits spares spares' alike befits befits'
          refine ih goesOn' (reaches.trans does.reaches) (reaches'.trans does'.reaches)
            (does.undisturbed reaches spares.undisturbed)
            (does'.undisturbed reaches' spares'.undisturbed) ?_
          exact does.alike does' reaches reaches' alike

/-! ## Steps about the session -/

/-- That a step sets nothing going but an operation on the session, or the tracking of pages acts by
itself. -/
structure TracksPages (before after : Course) : Prop where
  step : Step before after
  session : ∀ number operation cue, Cues before after number operation cue →
    operation.isOnSession = true

theorem TracksPages.apart (tracks : TracksPages before after)
    (reaches : Reaches (opening settings outside storage state) before) :
    before.visit.Apart after.visit := by
  rcases tracks.step.proceeds_or_idles with
    ⟨number, operation, cue, resumed, piece, proceeds, resumes, rfl⟩ | ⟨idles, _⟩
  · rw [pause_visit]
    exact reaches.tracks proceeds (tracks.session _ _ _ ⟨_, _, resumes, rfl⟩)
  · exact idles.apart

/-! ## Independence -/

/-- What the service is told about the session, and when, does not depend on what is done about the
wallet and the account: two courses of a visit with the same events that concern the session tell
the same, if all records that come are those of one visitor. When the heartbeats are sent is part of
what follows; only where a clock passes by the time of one, this is an event that both have. And
nothing that is done about the session, whatever the answers, touches the state, the events and the
id in a slot. -/
theorem tracking_is_independent (settings : VisitSettings) (outside : Outside) (storage : Storage)
    (state : State) :
    (∀ (id : String) (events : List TrackingEvent) (last last' : Course), state.KnowsOnly id →
      Tracked id (opening settings outside storage state) events last →
      Tracked id (opening settings outside storage state) events last' →
        last.visit.sessionJournal = last'.visit.sessionJournal) ∧
      ∀ before after : Course, Reaches (opening settings outside storage state) before →
        TracksPages before after →
          after.visit.state = before.visit.state ∧ after.visit.events = before.visit.events ∧
            ∀ slot, (after.visit.storage.entries? slot).map (·.get? RememberedId.key) =
              (before.visit.storage.entries? slot).map (·.get? RememberedId.key) := by
  refine ⟨fun id events last last' known tracked tracked' => ?_,
    fun before after reaches tracks => ?_⟩
  · have undisturbed : (opening settings outside storage state).Undisturbed id :=
      ⟨fun _ mem => absurd mem List.not_mem_nil, known⟩
    have alike := tracked.alike tracked' .refl .refl undisturbed undisturbed ⟨rfl, rfl⟩
    exact congrArg PagesView.told alike.pages
  · have apart := tracks.apart reaches
    exact ⟨apart.state, apart.events, apart.storage.keepsId⟩

namespace BesideWallet

def surroundings : Outside :=
  { random := Vector.replicate 16 0, providerAddress := some "TA" }

def begun : Course :=
  opening {} surroundings (.memory {} {}) (State.hydrated { id := "visitor" })

/-- A session starts, and a look is taken at what was told when its first heartbeat falls due. -/
def events : List TrackingEvent :=
  [⟨0, false, true, false, .start (.startSession {})⟩,
    ⟨0, false, true, false,
      .answer 0 (.service (.startSession "visitor" ⟨none, none, none⟩)) (.ok {})⟩,
    ⟨0, false, true, false, .answer 0 (.service (.recordPage "visitor" "")) (.ok ())⟩,
    ⟨30000, false, true, false, .look⟩]

/-- The outside when the first heartbeat falls due. -/
def later : Outside :=
  { surroundings with clock := 30000 }

/-- The heartbeat is sent when it falls due, and a look is taken. -/
theorem tracked_until_heartbeat {course : Course} {heartbeat : Heartbeat}
    (early : course.visit.clock ≤ 30000) (known : course.visit.state.visitor.isSome = true)
    (pending : course.visit.pagesView.pending? = some heartbeat) (due : heartbeat.due = 30000) :
    Tracked "visitor" course [⟨30000, false, true, false, .look⟩]
      ((course.changeOutside later).beat heartbeat) := by
  have waits : Quiet "visitor" course (course.changeOutside later) := by
    refine .changeOutside early fun other found => ?_
    cases pending.symm.trans found
    exact due ▸ Nat.le_max_right _ _
  have beats : Quiet "visitor" (course.changeOutside later)
      ((course.changeOutside later).beat heartbeat) := by
    refine .beat ?_
    rw [Visit.dueHeartbeat?_eq]
    exact PagesView.due?_eq_some.2 ⟨pending, Nat.le_of_eq due⟩
  refine .cons (.tail (.single waits) beats) ⟨rfl, rfl, known, ?_⟩ .look (.nil _)
  rw [Visit.dueHeartbeat?_eq]
  change (Visit.sendHeartbeat _ heartbeat).pagesView.due?.isSome = false
  rw [Visit.pagesView_sendHeartbeat,
    PagesView.due?_of_pending?_none (PagesView.pending?_beat _ _ _)]
  rfl

/-- The session without anything about a wallet. -/
theorem exists_without_wallet : ∃ last, Tracked "visitor" begun events last ∧
    last.visit.state.address? = none ∧
    last.visit.sessionJournal.map JournalEntry.clock = [0, 0, 30000] := by
  have outset : Does begun (.start (.startSession {})) _ := .start rfl
  refine ⟨_, .cons .refl ⟨rfl, rfl, rfl, rfl⟩ outset
    (.cons .refl ⟨rfl, rfl, rfl, rfl⟩ (.answer rfl _)
    (.cons .refl ⟨rfl, rfl, rfl, rfl⟩ (.answer rfl _) (by
      exact tracked_until_heartbeat (Nat.zero_le _) rfl rfl rfl))), by rfl, by rfl⟩

/-- The service has linked the wallet. -/
def linked : ConnectAnswer :=
  { success := true, visitor := some { id := "visitor" } }

/-- The same session where a wallet is connected before and linked meanwhile. -/
theorem exists_with_wallet : ∃ last, Tracked "visitor" begun events last ∧
    last.visit.state.address? = some "TA" := by
  have connects : Quiet "visitor" begun (begun.start .checkShown) := .start rfl
  have outset : Does (begun.start .checkShown) (.start (.startSession {})) _ := .start rfl
  have asks {course : Course} : Quiet "visitor" course (course.start .link) := .start rfl
  have links {course : Course} {next : Except ApiError ConnectAnswer → Errand Outcome}
      (waits : ⟨2, .link, .calling (.service (.connectWallet "visitor" "TA")) next⟩ ∈
        course.waiting) :
      Quiet "visitor" course
        (course.answer 2 .link (.service (.connectWallet "visitor" "TA")) next (.ok linked)) := by
    refine .answer rfl waits _ ?_ id
    rintro _ ⟨⟩
    rfl
  refine ⟨_, .cons (.single connects) ⟨rfl, rfl, rfl, rfl⟩ outset
    (.cons (.single asks) ⟨rfl, rfl, rfl, rfl⟩ (.answer rfl _) (by
      exact .cons (.single (links (.head _))) ⟨rfl, rfl, rfl, rfl⟩ (.answer rfl _) (by
        exact tracked_until_heartbeat (Nat.zero_le _) rfl rfl rfl))), by rfl⟩

/-- The two tell the same, at the same times; and starting the session leaves the state, the events
and the id in the cookies alone. -/
theorem session_is_told_with_and_without_wallet :
    (∃ last last', (State.hydrated { id := "visitor" }).KnowsOnly "visitor" ∧
      Tracked "visitor" begun events last ∧ Tracked "visitor" begun events last' ∧
      last.visit.state.address? = none ∧ last'.visit.state.address? = some "TA" ∧
      last.visit.sessionJournal.map JournalEntry.clock = [0, 0, 30000] ∧
      last.visit.sessionJournal = last'.visit.sessionJournal) ∧
    TracksPages begun (begun.start (.startSession {})) ∧
    (begun.start (.startSession {})).visit.state = begun.visit.state ∧
    (begun.start (.startSession {})).visit.events = begun.visit.events ∧
    ∀ slot, ((begun.start (.startSession {})).visit.storage.entries? slot).map
        (·.get? RememberedId.key) =
      (begun.visit.storage.entries? slot).map (·.get? RememberedId.key) := by
  obtain ⟨same, apart⟩ := tracking_is_independent {} surroundings (.memory {} {})
    (State.hydrated { id := "visitor" })
  obtain ⟨last, tracked, address, clocks⟩ := exists_without_wallet
  obtain ⟨last', tracked', address'⟩ := exists_with_wallet
  have known : (State.hydrated { id := "visitor" }).KnowsOnly "visitor" := by
    rintro _ ⟨⟩
    rfl
  have tracks : TracksPages begun (begun.start (.startSession {})) := by
    refine ⟨.start begun _, fun number operation cue cues => ?_⟩
    have numbered : begun.Numbered := Reaches.numbered .refl
    have started := cues.unique ⟨_, _, .start (.startSession {}), rfl⟩ numbered
    rw [started.2.1]
    rfl
  exact ⟨⟨last, last', known, tracked, tracked', address, address', clocks,
    same _ _ _ _ known tracked tracked'⟩, tracks, apart _ _ .refl tracks⟩

end BesideWallet

end Course

end VisitorLink
