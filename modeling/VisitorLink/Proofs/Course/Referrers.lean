import VisitorLink.Proofs.Conduct.Sessions
import VisitorLink.Proofs.Course.Progress

/-!
# The first referrer among several clients

Several clients may have their cookies in common. The page that the visitor came from at first is
taken out of them in the very turn in which a client asks for the start of a session. It is not put
back when the start is refused, and then no session that is accepted later on has it.

Main statement: the first referrer goes with the first request to start a session that any of the
clients makes, and with no other one (`referrer_goes_with_first_request`).
-/

namespace VisitorLink

open Errand

/-! ## One client -/

namespace Course

variable {before after : Course} {operation : Operation} {request : StartRequest}

/-- That a step has an operation ask for the start of a session. -/
def Opens (before after : Course) (operation : Operation) (request : StartRequest) : Prop :=
  ∃ number cue id, Cues before after number operation cue ∧
    after.Sends number (.service (.startSession id request))

/-- That the operations of a course observe the law about sessions from here on, whatever becomes of
the visit in the meantime, and may take the first referrer out of the cookies. -/
structure Tends (course : Course) : Prop where
  numbered : course.Numbered
  uphold : ∀ waiting ∈ course.waiting, Upholds waiting.operation.Tends waiting.paused
  keepsReferrer : course.visit.settings.keepsReferrer = true

/-- A visit that is opened observes the law about sessions. -/
theorem tends_opening {settings : VisitSettings} (keepsReferrer : settings.keepsReferrer = true)
    (outside : Outside) (storage : Storage) (state : State) :
    (opening settings outside storage state).Tends where
  numbered := Reaches.refl.numbered
  uphold _ mem := absurd mem List.not_mem_nil
  keepsReferrer := keepsReferrer

/-- What a step does about the first referrer: it is spared where no start of a session is asked
for. -/
inductive Treats (before after : Course) : Prop
  | opens {operation : Operation} {request : StartRequest} {context : PageContext}
      (opens : Opens before after operation request)
      (only : ∀ other request', Opens before after other request' →
        other = operation ∧ request' = request)
      (on : operation.pageContext? = some context)
      (gives : before.visit.GivesReferrer context request after.visit) : Treats before after
  | spares (quiet : ∀ operation request, ¬ Opens before after operation request)
      (settings : after.visit.settings = before.visit.settings)
      (referrer : after.visit.storage.referrerView? = before.visit.storage.referrerView?) :
      Treats before after

/-- A turn of an operation treats the first referrer as its law says. -/
theorem Tends.treats_turn {number : Nat} {cue : Cue} {resumed : Course}
    {piece : Errand.Paused Outcome × Visit} (tends : before.Tends)
    (proceeds : before.Proceeds number operation cue piece)
    (resumes : Resumes before number operation cue resumed) :
    Treats before (resumed.pause number operation piece) := by
  have law := (proceeds.lawful Operation.observes_tends tends.uphold).1
  have visit := pause_visit resumed number operation piece
  cases asks : Operation.asks Call.isStart piece.1 with
  | true =>
      obtain ⟨id, request, next, stops⟩ := Operation.exists_start_of_asks asks
      obtain ⟨context, on, gives⟩ := law.gives id request next stops
      have sends : (resumed.pause number operation piece).Sends number
          (.service (.startSession id request)) := by
        obtain ⟨paused, after⟩ := piece
        subst stops
        exact sends_pause _ _ _ _ _ _
      have cues : Cues before (resumed.pause number operation piece) number operation cue :=
        ⟨resumed, piece, resumes, rfl⟩
      refine .opens ⟨number, cue, id, cues, sends⟩ ?_ on (visit ▸ gives)
      rintro other request' ⟨number', cue', id', cues', sends'⟩
      obtain ⟨_, same⟩ := sends.unique sends'
      cases same
      exact ⟨(cues'.unique cues tends.numbered).2.1, rfl⟩
  | false =>
      have spares := law.spares asks
      refine .spares ?_ (visit ▸ spares.settings) (visit ▸ spares.referrer)
      rintro _ _ ⟨_, _, _, _, sends⟩
      obtain ⟨_, next, stops⟩ := resumes.of_sends sends
      rw [stops] at asks
      cases asks

/-- Nothing in the background asks for the start of a session. -/
theorem not_opens_of_background {happening : Happening}
    (silent : happening.isBackground = true)
    (history : after.history = before.history ++ [happening]) (operation : Operation)
    (request : StartRequest) : ¬ Opens before after operation request := by
  rintro ⟨number, cue, id, cues, _⟩
  exact not_cues_of_background silent history cues

/-- Every step gives the first referrer to a request or spares it. -/
theorem Tends.treats (tends : before.Tends) (step : Step before after) : Treats before after := by
  cases step with
  | start operation => exact tends.treats_turn (.start operation) (.start operation)
  | answer waits answer => exact tends.treats_turn (.answer waits answer) (.answer waits answer)
  | wake waits due => exact tends.treats_turn (.wake waits) (.wake waits)
  | beat due => exact .spares (not_opens_of_background rfl rfl) rfl rfl
  | answerBeat sent =>
      refine .spares (not_opens_of_background rfl rfl) ?_ ?_
      · exact (before.visit.answerHeartbeat_apart _).settings
      · unfold Course.answerBeat Visit.answerHeartbeat
        dsimp only [Course.note]
        split <;> rfl
  | giveUpBeat => exact .spares (not_opens_of_background rfl rfl) rfl rfl
  | changeOutside later => exact .spares (not_opens_of_background rfl rfl) rfl rfl

/-- The law about sessions is observed on after a step. -/
theorem Tends.step (tends : before.Tends) (step : Step before after) : after.Tends where
  numbered := tends.numbered.step step
  uphold := step.uphold Operation.observes_tends tends.uphold
  keepsReferrer := by
    cases tends.treats step with
    | opens _ _ _ gives => rw [gives.settings, tends.keepsReferrer]
    | spares _ settings _ => rw [settings, tends.keepsReferrer]

/-- The course with its slots replaced. -/
def restored (course : Course) (storage : Storage) : Course :=
  { course with visit.storage := storage }

/-- It is observed on whatever becomes of the slots. -/
theorem Tends.restored (tends : before.Tends) (storage : Storage) :
    (before.restored storage).Tends where
  numbered := ⟨tends.numbered.nodup, tends.numbered.lt_started⟩
  uphold := tends.uphold
  keepsReferrer := tends.keepsReferrer

/-! ## The first referrer -/

/-- That the cookies of a visit show a first referrer or none, and do not fail. -/
def Shows (course : Course) (referrer : Option String) : Prop :=
  course.visit.storage.referrerView? = some ⟨referrer, false, false⟩

variable {referrer : Option String}

/-- What the cookies show is found. -/
theorem Shows.foundReferrer? (shows : before.Shows referrer) (tends : before.Tends) :
    before.visit.foundReferrer? = referrer := by
  rw [Visit.foundReferrer?, if_pos tends.keepsReferrer, shows]
  rfl

/-- A request to start a session carries the first referrer, and the cookies show none after it. -/
theorem Shows.opens (shows : before.Shows referrer) (tends : before.Tends)
    (step : Step before after) (opens : Opens before after operation request) :
    (∃ context, operation.pageContext? = some context ∧
        request.referrer = (referrer.filter (· != "")).or context.referrer) ∧
      after.Shows none := by
  have found := shows.foundReferrer? tends
  cases tends.treats step with
  | @opens _ _ context _ only on gives =>
      obtain ⟨rfl, rfl⟩ := only _ _ opens
      refine ⟨⟨context, on, by rw [gives.request, found]⟩, ?_⟩
      rw [Shows, gives.taken, found, shows]
      cases referrer <;> rfl
  | spares quiet => exact absurd opens (quiet _ _)

/-- While no start of a session is asked for, the cookies show the same first referrer. -/
theorem Shows.quiet (shows : before.Shows referrer) (tends : before.Tends)
    (step : Step before after)
    (quiet : ∀ operation request, ¬ Opens before after operation request) :
    after.Shows referrer := by
  cases tends.treats step with
  | opens opens => exact absurd opens (quiet _ _)
  | spares _ _ same => exact same.trans shows

end Course

/-! ## Several clients -/

/-- Clients that go on in courses of their own and have their cookies in common. -/
structure Clients (ι : Type) where
  course : ι → Course
  common : ∀ index other, (course index).visit.storage.slot? .cookies =
    (course other).visit.storage.slot? .cookies

namespace Clients

variable {ι : Type}

/-- That one of the clients goes on by a step, of which the others see no more than what is
stored. -/
structure Proceeds (before : Clients ι) (index : ι) (after : Clients ι) : Prop where
  step : Course.Step (before.course index) (after.course index)
  others : ∀ other, other ≠ index → ∃ storage, after.course other =
    (before.course other).restored storage

/-- What can happen next: a client goes on, or something is stored by somebody else. -/
inductive Step (before after : Clients ι) : Prop
  | proceed (index : ι) (proceeds : before.Proceeds index after)
  | place (places : ∀ index, ∃ storage, after.course index = (before.course index).restored storage)

inductive Reaches (first : Clients ι) : Clients ι → Prop
  | refl : Reaches first first
  | step {middle last : Clients ι} (before : Reaches first middle) (next : Step middle last) :
      Reaches first last

/-- Clients at their opening, which may keep the first referrer in the cookies. -/
def Opened (clients : Clients ι) : Prop :=
  ∀ index, ∃ settings outside storage state, settings.keepsReferrer = true ∧
    clients.course index = Course.opening settings outside storage state

/-- That clients go on without anything being stored by others, with the requests to start a session
that they make, oldest first, and the operations that make them. -/
inductive Logs (first : Clients ι) : List (Operation × StartRequest) → Clients ι → Prop
  | refl : Logs first [] first
  | opens {log : List (Operation × StartRequest)} {middle last : Clients ι} {index : ι}
      {operation : Operation} {request : StartRequest} (before : Logs first log middle)
      (next : middle.Proceeds index last)
      (opens : Course.Opens (middle.course index) (last.course index) operation request) :
      Logs first (log ++ [(operation, request)]) last
  | other {log : List (Operation × StartRequest)} {middle last : Clients ι} {index : ι}
      (before : Logs first log middle) (next : middle.Proceeds index last)
      (quiet : ∀ operation request,
        ¬ Course.Opens (middle.course index) (last.course index) operation request) :
      Logs first log last

/-! ### Steps -/

variable {first before after last : Clients ι} {index : ι} {referrer : Option String}

def Tends (clients : Clients ι) : Prop :=
  ∀ index, (clients.course index).Tends

/-- That the cookies of the clients show a first referrer or none, and do not fail. -/
def Shows (clients : Clients ι) (referrer : Option String) : Prop :=
  ∀ index, (clients.course index).Shows referrer

/-- What the cookies of one client show, those of all show. -/
theorem Shows.of_course (shows : (before.course index).Shows referrer) : before.Shows referrer := by
  intro other
  rw [Course.Shows, Storage.referrerView?, before.common other index]
  exact shows

/-- Clients that are opened observe the law about sessions. -/
theorem Opened.tends (opened : first.Opened) : first.Tends := by
  intro index
  obtain ⟨settings, outside, storage, state, keepsReferrer, same⟩ := opened index
  rw [same]
  exact Course.tends_opening keepsReferrer outside storage state

/-- They observe it on when one of them goes on. -/
theorem Proceeds.tends (proceeds : before.Proceeds index after) (tends : before.Tends) :
    after.Tends := by
  intro other
  by_cases same : other = index
  · subst same
    exact (tends other).step proceeds.step
  · obtain ⟨storage, restored⟩ := proceeds.others other same
    rw [restored]
    exact (tends other).restored storage

/-- They observe it on in all that is reached, by induction on the steps. -/
theorem Reaches.tends (reaches : first.Reaches last) (tends : first.Tends) : last.Tends := by
  induction reaches with
  | refl => exact tends
  | step before next ih =>
      cases next with
      | proceed index proceeds => exact proceeds.tends ih
      | place places =>
          intro index
          obtain ⟨storage, restored⟩ := places index
          rw [restored]
          exact (ih index).restored storage

/-! ### Runs -/

/-- What has been told of a first referrer that was in the cookies: it went with the first request,
and the others went without it. -/
inductive Told (referrer : String) : List (Operation × StartRequest) → Option String → Prop
  | kept : Told referrer [] (some referrer)
  | given {operation : Operation} {request : StartRequest}
      {later : List (Operation × StartRequest)} (carries : request.referrer = some referrer)
      (others : ∀ asked ∈ later, ∃ context, asked.1.pageContext? = some context ∧
        asked.2.referrer = context.referrer) :
      Told referrer ((operation, request) :: later) none

/-- The first request carries the referrer and the later ones do not, by induction on the log. -/
theorem Logs.told {referrer : String} {log : List (Operation × StartRequest)}
    (logs : first.Logs log last) (tends : first.Tends) (shows : first.Shows (some referrer))
    (nonempty : referrer ≠ "") :
    last.Tends ∧ ∃ left, Told referrer log left ∧ last.Shows left := by
  induction logs with
  | refl => exact ⟨tends, _, .kept, shows⟩
  | other before next quiet ih =>
      obtain ⟨tends, left, told, shows⟩ := ih
      exact ⟨next.tends tends, left, told, .of_course ((shows _).quiet (tends _) next.step quiet)⟩
  | opens before next opens ih =>
      obtain ⟨tends, left, told, shows⟩ := ih
      obtain ⟨⟨context, on, carries⟩, empty⟩ := (shows _).opens (tends _) next.step opens
      refine ⟨next.tends tends, none, ?_, .of_course empty⟩
      cases told with
      | kept => exact .given (by simpa [Option.filter_some, nonempty] using carries) (by simp)
      | given first others =>
          refine .given first (List.forall_mem_append.2 ⟨others, ?_⟩)
          simpa using ⟨context, on, by simpa using carries⟩

/-- A first referrer that is found in the cookies of several clients goes with the first request to
start a session that any of them makes from then on, whether that is accepted or refused, and is
gone from the cookies. All later requests have the referrer of their own page. Before the first
request, it stays in the cookies. -/
theorem referrer_goes_with_first_request {first placed last : Clients ι} {referrer : String}
    {log : List (Operation × StartRequest)} (opened : first.Opened) (reaches : first.Reaches placed)
    (shows : placed.Shows (some referrer)) (nonempty : referrer ≠ "")
    (logs : placed.Logs log last) :
    ∃ left, Told referrer log left ∧ last.Shows left :=
  (logs.told (reaches.tends opened.tends) shows nonempty).2

/-! ### Two clients -/

/-- The clients after a step of one of them, if the others have all slots in common with it. -/
def advance [DecidableEq ι] (clients : Clients ι) (index : ι) (course : Course) : Clients ι where
  course other :=
    if other = index then course else (clients.course other).restored course.visit.storage
  common := by
    have shared (other : ι) : (if other = index then course
        else (clients.course other).restored course.visit.storage).visit.storage =
          course.visit.storage := by
      split <;> rfl
    intro other another
    rw [shared, shared]

/-- The client that goes on is where it has come. -/
theorem advance_course [DecidableEq ι] (clients : Clients ι) (index : ι) (course : Course) :
    (clients.advance index course).course index = course :=
  if_pos rfl

/-- A step that asks for the start of a session goes into the log of the clients. -/
theorem Logs.advance [DecidableEq ι] {log : List (Operation × StartRequest)} {course : Course}
    {operation : Operation} {request : StartRequest} (logs : first.Logs log last) (index : ι)
    (step : Course.Step (last.course index) course)
    (opens : Course.Opens (last.course index) course operation request) :
    first.Logs (log ++ [(operation, request)]) (last.advance index course) := by
  rw [← last.advance_course index course] at step opens
  exact .opens logs ⟨step, fun other distinct => ⟨_, if_neg distinct⟩⟩ opens

/-- Two clients at their opening, with a first referrer in their cookies. -/
def pair : Clients Bool where
  course _ :=
    Course.opening {} { random := Vector.replicate 16 0 }
      (.memory { entries := Entries.empty.insert referrerKey "https://partner.example/landing" } {})
  common _ _ := rfl

/-- The first referrer goes with the first of two requests, and the second one has its own. -/
theorem first_of_two_clients_has_first_referrer :
    ∃ (last : Clients Bool) (log : List (Operation × StartRequest)),
      pair.Opened ∧ pair.Reaches pair ∧ pair.Shows (some "https://partner.example/landing") ∧
      "https://partner.example/landing" ≠ "" ∧ pair.Logs log last ∧
      log.map (·.2.referrer) =
        [some "https://partner.example/landing", some "https://auth.example/callback"] ∧
      Told "https://partner.example/landing" log none ∧ last.Shows none := by
  have opened : pair.Opened := fun _ => ⟨_, _, _, _, rfl, rfl⟩
  have shows : pair.Shows (some "https://partner.example/landing") := fun _ => rfl
  let start : Operation :=
    .startTracking "visitor" { referrer := some "https://auth.example/callback" }
  have nothing : pair.Logs [] pair := .refl
  have once := nothing.advance false (.start _ start)
    ⟨0, .go, "visitor", ⟨_, _, .start start, rfl⟩, rfl⟩
  have twice := once.advance true (.start _ start)
    ⟨0, .go, "visitor", ⟨_, _, .start start, rfl⟩, rfl⟩
  obtain ⟨left, told, shown⟩ :=
    referrer_goes_with_first_request opened .refl shows (by decide) twice
  cases told with
  | given carries others =>
      exact ⟨_, _, opened, .refl, shows, by decide, twice, rfl, .given carries others, shown⟩

end Clients

/-! ### A start that is refused -/

/-- The request to start a session that was accepted, if one was. -/
def Happening.acceptedStart? : Happening → Option StartRequest
  | .answered _ (.service (.startSession _ request)) (.ok _) => some request
  | _ => none

/-- The requests to start a session that were accepted so far, oldest first. -/
def Course.acceptedStarts (course : Course) : List StartRequest :=
  course.history.filterMap Happening.acceptedStart?

/-- A start that is refused uses the first referrer up, and the one that is accepted next goes
without it. -/
theorem accepted_start_lacks_first_referrer :
    ∃ (placed begun : Course),
      (∃ settings outside storage, settings.keepsReferrer = true ∧
        placed = Course.opening settings outside storage) ∧
      placed.Shows (some "https://partner.example/landing") ∧ Course.Reaches placed begun ∧
      begun.acceptedStarts.map StartRequest.referrer = [none] := by
  let start : Operation := .startTracking "visitor" {}
  let asks (referrer : Option String) : Call :=
    .service (.startSession "visitor" { referrer := referrer })
  have asked := Course.Reaches.refl.step (.start (Clients.pair.course false) start)
  have refused := asked.step
    (@Course.Step.answer _ 0 start (asks (some "https://partner.example/landing")) _ (.head _)
      (.error (.network "down")))
  have askedAgain := refused.step (.start _ start)
  have accepted := askedAgain.step (@Course.Step.answer _ 1 start (asks none) _ (.head _) (.ok {}))
  refine ⟨Clients.pair.course false, _, ⟨_, _, _, rfl, rfl⟩, rfl, accepted, ?_⟩
  decide +kernel

end VisitorLink
