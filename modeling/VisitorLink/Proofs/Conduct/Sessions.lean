import VisitorLink.Proofs.Errand.Laws
import VisitorLink.Proofs.Visit.Pages
import VisitorLink.Proofs.Visit.Reports

/-!
# Conduct about sessions

Of all that an operation does, little touches the session. The tracker is left alone, but for the
page viewed last, unless the operation stops the heartbeat, ends the session or starts one. The
first referrer stays in the cookies until the service is asked to start a session, and it is taken
out for that very request, whatever the answer.

Main statement: every piece of every operation does so (`Operation.observes_tends`).
-/

namespace VisitorLink

open Errand

/-! ## Moves -/

namespace Visit

/-- That the settings, the outside and the first referrer were left alone. -/
structure SparesReferrer (before after : Visit) : Prop where
  settings : after.settings = before.settings
  outside : after.outside = before.outside
  referrer : after.storage.referrerView? = before.storage.referrerView?

/-- That the tracker was left alone as well, but for the page viewed last. -/
structure Ambles (before after : Visit) : Prop extends SparesReferrer before after where
  tracker : after.tracker = { before.tracker with lastPath := after.tracker.lastPath }

variable {first middle last before after : Visit}

/-- Sparing the first referrer can be chained. -/
theorem SparesReferrer.trans (before : first.SparesReferrer middle)
    (after : middle.SparesReferrer last) : first.SparesReferrer last where
  settings := after.settings.trans before.settings
  outside := after.outside.trans before.outside
  referrer := after.referrer.trans before.referrer

/-- The tracker may change while the first referrer is spared. -/
theorem SparesReferrer.retrack (spares : first.SparesReferrer middle) (tracker : Tracker) :
    first.SparesReferrer { middle with tracker := tracker } :=
  ⟨spares.settings, spares.outside, spares.referrer⟩

namespace Ambles

/-- A visit that agrees in its settings, its outside, its slots and its tracker has ambled. -/
theorem of_eq (settings : after.settings = before.settings)
    (outside : after.outside = before.outside) (storage : after.storage = before.storage)
    (tracker : after.tracker = before.tracker) :
    before.Ambles after where
  settings := settings
  outside := outside
  referrer := congrArg Storage.referrerView? storage
  tracker := by rw [tracker]

theorem refl (visit : Visit) : visit.Ambles visit :=
  .of_eq rfl rfl rfl rfl

theorem trans (before : first.Ambles middle) (after : middle.Ambles last) : first.Ambles last where
  toSparesReferrer := before.toSparesReferrer.trans after.toSparesReferrer
  tracker :=
    after.tracker.trans
      (congrArg (fun tracker => { tracker with lastPath := last.tracker.lastPath }) before.tracker)

/-- Asking the outside is no matter of the session. -/
theorem inquire (visit : Visit) (inquiry : Inquiry) : visit.Ambles (visit.inquire inquiry) :=
  .of_eq rfl rfl rfl rfl

/-- Telling an event is no matter of the session. -/
theorem emit (visit : Visit) (event : Event) : visit.Ambles (visit.emit event) := by
  refine .of_eq ?_ (visit.emit_outside event) (visit.emit_storage event) (visit.emit_tracker event)
  unfold Visit.emit
  split <;> rfl

/-- Ambling leaves the heartbeat alone. -/
theorem heartbeat (ambles : before.Ambles after) :
    after.tracker.heartbeat = before.tracker.heartbeat := by
  rw [ambles.tracker]

/-- Ambling does not end the session. -/
theorem ended (ambles : before.Ambles after) : after.tracker.ended = before.tracker.ended := by
  rw [ambles.tracker]

/-- Ambling takes no time. -/
theorem clock (ambles : before.Ambles after) : after.clock = before.clock :=
  congrArg Outside.clock ambles.outside

/-- A page is viewed. -/
theorem view (visit : Visit) (path : String) :
    visit.Ambles { visit with tracker.lastPath := some path } where
  settings := rfl
  outside := rfl
  referrer := rfl
  tracker := rfl

/-- Ambling is a frame that connecting keeps to as well. -/
theorem frame : ConnectingFrame Ambles where
  refl := refl
  trans _ _ _ := trans
  apply _ _ _ := .of_eq rfl rfl rfl rfl
  emit := emit
  attempt _ _ := .of_eq rfl rfl rfl rfl
  store _ _ stores := ⟨⟨rfl, rfl, stores.referrerView?_eq⟩, rfl⟩
  detect visit := inquire visit _
  ask visit _ _ := inquire visit _
  check _ _ _ := .of_eq rfl rfl rfl rfl
  connecting _ _ := .of_eq rfl rfl rfl rfl
  request _ := .of_eq rfl rfl rfl rfl
  fail _ _ := .of_eq rfl rfl rfl rfl
  dial visit := inquire visit _

end Ambles

/-! ## The first referrer -/

/-- The first referrer that is found in the cookies, if these may hold one. -/
def foundReferrer? (visit : Visit) : Option String :=
  if visit.settings.keepsReferrer then visit.storage.referrerView?.bind ReferrerView.found?
  else none

/-- The visit after the first referrer was taken out of the cookies, if it was found. -/
def takingReferrer (visit : Visit) : Visit :=
  if visit.foundReferrer?.isSome then
    { visit with storage := (visit.storage.removeText .cookies referrerKey).2 }
  else visit

/-- That a request to start a session on a page was made with the first referrer, or with that of
the page if there was none, and that the first referrer was taken out of the cookies. -/
structure GivesReferrer (before : Visit) (context : PageContext) (request : StartRequest)
    (after : Visit) : Prop where
  request : request.referrer = (before.foundReferrer?.filter (· != "")).or context.referrer
  settings : after.settings = before.settings
  taken : after.storage.referrerView? =
    if before.foundReferrer?.isSome then before.storage.referrerView?.map ReferrerView.removed
    else before.storage.referrerView?

/-- Where the first referrer is spared, the same one is found. -/
theorem SparesReferrer.foundReferrer?_eq (spares : before.SparesReferrer after) :
    after.foundReferrer? = before.foundReferrer? := by
  unfold foundReferrer?
  rw [spares.settings, spares.referrer]

/-- Giving the first referrer may come after what has spared it. -/
theorem SparesReferrer.gives {context : PageContext} {request : StartRequest}
    (spares : first.SparesReferrer middle) (gives : middle.GivesReferrer context request last) :
    first.GivesReferrer context request last where
  request := by rw [gives.request, spares.foundReferrer?_eq]
  settings := gives.settings.trans spares.settings
  taken := by rw [gives.taken, spares.foundReferrer?_eq, spares.referrer]

/-- A request with the referrer that is found, made once it has been taken. -/
theorem givesReferrer_takingReferrer (visit : Visit) (context : PageContext)
    {request : StartRequest}
    (carries : request.referrer = (visit.foundReferrer?.filter (· != "")).or context.referrer)
    (inquiry : Inquiry) :
    visit.GivesReferrer context request (visit.takingReferrer.inquire inquiry) where
  request := carries
  settings := by
    change visit.takingReferrer.settings = _
    unfold takingReferrer
    split <;> rfl
  taken := by
    change visit.takingReferrer.storage.referrerView? = _
    unfold takingReferrer
    split
    · exact visit.storage.referrerView?_removeText
    · rfl

end Visit

namespace Errand

variable {β : Type} {law : Law β} {cue : Cue} {first visit : Visit}

/-- Taking the first referrer goes on with what was found, in the visit that it was taken out of. -/
theorem observesFrom_takeReferrer_bind (rest : Option String → Errand β) :
    ObservesFrom law cue first (takeReferrer >>= rest) visit ↔
      ObservesFrom law cue first (rest (visit.foundReferrer?.filter (· != "")))
        visit.takingReferrer := by
  unfold takeReferrer Visit.takingReferrer Visit.foundReferrer?
  rw [bind_assoc, observesFrom_visit_bind, ← Storage.getText_referrer]
  by_cases keeps : visit.settings.keepsReferrer = true
  · have gets : (StorageM.get .cookies referrerKey).on visit.storage =
        (visit.storage.getText .cookies referrerKey, visit.storage) := rfl
    rw [if_pos keeps, if_neg (by simp [keeps]), bind_assoc, observesFrom_slots_bind, gets]
    rcases visit.storage.getText .cookies referrerKey with error | _ | referrer
    · exact Iff.rfl
    · exact Iff.rfl
    · have same : (if referrer = "" then none else some referrer) =
          (some referrer).filter (· != "") := by
        by_cases blank : referrer = "" <;> simp [Option.filter_some, blank]
      dsimp only
      rw [bind_assoc, observesFrom_slots_bind, observesFrom_pure_bind, same]
      exact Iff.rfl
  · rw [if_neg keeps, if_pos (by simp [keeps]), observesFrom_pure_bind]
    exact Iff.rfl

end Errand

/-! ## The law -/

/-- Whether a call starts a session or ends one. -/
def Call.isTurn : Call → Bool
  | .service (.startSession _ _) | .service (.endSession _) => true
  | _ => false

/-- Whether a cue is the answer to a request to start a session. -/
def Cue.answersStart : Cue → Bool
  | .go => false
  | .answer call _ => call.isStart

namespace Operation

/-- Whether an operation is there to stop the heartbeat or to end the session. -/
def isStop : Operation → Bool
  | .stopHeartbeat | .endTracking | .shutDown => true
  | _ => false

/-- Whether an operation may stop the heartbeat or end the session. -/
def mayStop : Operation → Bool
  | .leave => true
  | operation => operation.isStop

/-- That a cue has an operation stop the heartbeat or end the session: the operation is there for
that, or it is a log-out that the service accepts. -/
inductive Stops : Operation → Cue → Prop
  | own {operation : Operation} (stop : operation.isStop = true) : Stops operation .go
  | logOut (id : String) (visitor : Visitor) :
      Stops .leave (.answer (.service (.logOut id)) (.ok visitor))

/-- Whether what is left of an operation waits for a call of a kind. -/
def asks (kind : Call → Bool) : Errand.Paused Outcome → Bool
  | .calling call _ => kind call
  | _ => false

/-- What a piece of an operation does about the session. -/
structure Tends (operation : Operation) (cue : Cue) (before : Visit)
    (piece : Errand.Paused Outcome × Visit) : Prop where
  ambles : ¬ operation.Stops cue → cue.answersStart = false → asks Call.isTurn piece.1 = false →
    before.Ambles piece.2
  halts : operation.Stops cue → before.tracker.ended = false → piece.2.tracker.heartbeat = none
  spares : asks Call.isStart piece.1 = false → before.SparesReferrer piece.2
  gives : ∀ id request next, piece.1 = .calling (.service (.startSession id request)) next →
    ∃ context, operation.pageContext? = some context ∧
      before.GivesReferrer context request piece.2

/-- That a piece has come to a visit in keeping with that, without a request to start a session. -/
structure Underway (operation : Operation) (cue : Cue) (first visit : Visit) : Prop where
  spares : first.SparesReferrer visit
  ambles : ¬ operation.Stops cue → cue.answersStart = false → first.Ambles visit
  halts : operation.Stops cue → first.tracker.ended = false → visit.tracker.heartbeat = none

variable {operation : Operation} {cue : Cue} {first visit : Visit} {context : PageContext}

/-- What waits for a start of a session is a request to start one. -/
theorem exists_start_of_asks {paused : Errand.Paused Outcome}
    (start : asks Call.isStart paused = true) :
    ∃ id request next, paused = .calling (.service (.startSession id request)) next := by
  cases paused with
  | calling call next =>
      cases call with
      | provider call => cases start
      | service call => cases call <;> first | exact ⟨_, _, next, rfl⟩ | cases start
  | finished outcome => cases start
  | sleeping wakeUp next => cases start

/-- Where no start is under way, none is asked for. -/
theorem not_asksStart_of_stands {paused : Errand.Paused Outcome}
    (stands : (∃ outcome, paused = .finished outcome) ∨ operation.StandsAt .aside paused) :
    asks Call.isStart paused = false := by
  rcases stands with ⟨outcome, rfl⟩ | stands
  · rfl
  · cases stands with
    | calling other leads => exact other
    | sleeping leads => rfl

namespace Underway

/-- A piece that has ambled is underway if it does not stop. -/
theorem of_ambles (ambles : first.Ambles visit) (goesOn : ¬ operation.Stops cue) :
    operation.Underway cue first visit where
  spares := ambles.toSparesReferrer
  ambles _ _ := ambles
  halts stops := absurd stops goesOn

/-- The tracker may change in any way when the start of a session is answered. -/
theorem of_answersStart (spares : first.SparesReferrer visit) (answers : cue.answersStart = true)
    (goesOn : ¬ operation.Stops cue) : operation.Underway cue first visit where
  spares := spares
  ambles _ other := by cases answers.symm.trans other
  halts stops := absurd stops goesOn

/-- So it may when the heartbeat is stopped. -/
theorem of_stops (spares : first.SparesReferrer visit) (stops : operation.Stops cue)
    (still : first.tracker.ended = false → visit.tracker.heartbeat = none) :
    operation.Underway cue first visit where
  spares := spares
  ambles goesOn := absurd stops goesOn
  halts _ := still

/-- A piece that is underway stays so while it ambles. -/
theorem trans {later : Visit} (underway : operation.Underway cue first visit)
    (ambles : visit.Ambles later) : operation.Underway cue first later where
  spares := underway.spares.trans ambles.toSparesReferrer
  ambles goesOn other := (underway.ambles goesOn other).trans ambles
  halts stops goesOn := by
    rw [ambles.tracker]
    exact underway.halts stops goesOn

/-- A piece that is underway may stop anywhere but at a start of a session. -/
theorem tends (underway : operation.Underway cue first visit) {paused : Errand.Paused Outcome}
    (other : asks Call.isStart paused = false) : operation.Tends cue first (paused, visit) where
  ambles goesOn quiet _ := underway.ambles goesOn quiet
  halts := underway.halts
  spares _ := underway.spares
  gives id request next stops := by
    cases stops
    cases other

end Underway

/-- An operation that may not stop is stopped by no cue. -/
theorem not_stops (other : operation.mayStop = false) (cue : Cue) : ¬ operation.Stops cue := by
  rintro (stop | ⟨id, visitor⟩)
  · cases operation <;> cases stop <;> cases other
  · cases other

/-- What ambles from somewhere in a piece on, with whatever follows. -/
theorem observes_bind {α : Type} (goesOn : ∀ cue, ¬ operation.Stops cue) {errand : Errand α}
    {rest : α → Errand Outcome} {middle : Visit}
    (keeps : KeepsFrom Visit.Ambles (fun call => call.isStart = false) (fun _ => True) middle errand
      visit)
    (underway : operation.Underway cue first middle)
    (after : ∀ result {cue : Cue} {first visit : Visit}, operation.Underway cue first visit →
      ObservesFrom operation.Tends cue first (rest result) visit) :
    ObservesFrom operation.Tends cue first (errand >>= rest) visit := by
  induction errand generalizing cue first middle visit with
  | done result => exact after result (underway.trans keeps.1)
  | look next ih => exact ih visit keeps underway
  | set changed next ih => exact ih keeps underway
  | call asked next ih =>
      refine ⟨(underway.trans keeps.1).tends keeps.2.1, fun answer later => ?_⟩
      exact ih answer (keeps.2.2 answer later) (.of_ambles (.refl later) (goesOn _))
  | sleep wakeUp next ih =>
      refine ⟨(underway.trans keeps.1).tends rfl, ih keeps.2.1 underway, fun later => ?_⟩
      exact ih (keeps.2.2 later) (.of_ambles (.refl later) (goesOn _))

/-! ## The tracking of pages -/

/-- An answer about the session stops no operation. -/
theorem not_stops_of_isSession {call : Call} (session : call.isSession = true)
    (answer : call.Answer) : ¬ operation.Stops (.answer call answer) := by
  rintro ⟨⟩
  cases session

section EndsWith

variable {rest : Bool → Errand Outcome} (ends : EndsWith rest)

include ends

/-- What comes after the tracker's own calls ends the operation. -/
theorem EndsWith.observes (underway : operation.Underway cue first visit) (result : Bool) :
    ObservesFrom operation.Tends cue first (rest result) visit := by
  obtain ⟨outcome, same⟩ := ends result
  rw [same]
  exact underway.tends rfl

/-- A call about the session that nothing depends on. -/
theorem EndsWith.observes_asked (underway : operation.Underway cue first visit) {call : Call}
    (other : call.isStart = false) (goesOn : ∀ answer, ¬ operation.Stops (.answer call answer))
    (result : Bool) :
    ObservesFrom operation.Tends cue first (ask call >>= fun _ => rest result) visit :=
  ⟨(underway.trans (.inquire visit _)).tends other, fun answer later =>
    ends.observes (.of_ambles (.refl later) (goesOn answer)) result⟩

/-- Recording a page leaves the piece underway. -/
theorem EndsWith.observes_recordPage (underway : operation.Underway cue first visit)
    (path : String) :
    ObservesFrom operation.Tends cue first (Errand.recordPage path >>= rest) visit := by
  unfold Errand.recordPage
  rw [bind_assoc, observesFrom_visit_bind]
  dsimp only
  cases visit.tracker.visitor with
  | none => exact ends.observes underway false
  | some id =>
      dsimp only
      split
      · exact ends.observes underway false
      · exact ends.observes_asked (underway.trans (.view visit path)) rfl
          (not_stops_of_isSession rfl) true

/-- Sending a heartbeat leaves the piece underway. -/
theorem EndsWith.observes_sendHeartbeat (underway : operation.Underway cue first visit) :
    ObservesFrom operation.Tends cue first (Errand.sendHeartbeat >>= rest) visit := by
  unfold Errand.sendHeartbeat
  rw [bind_assoc, observesFrom_visit_bind]
  dsimp only
  cases visit.tracker.visitor with
  | none => exact ends.observes underway false
  | some id =>
      dsimp only
      split
      · exact ends.observes underway false
      · exact ends.observes_asked underway rfl (not_stops_of_isSession rfl) true

/-- Hiding a page leaves the piece underway. -/
theorem EndsWith.observes_hidePage (underway : operation.Underway cue first visit) :
    ObservesFrom operation.Tends cue first (Errand.hidePage >>= rest) visit := by
  unfold Errand.hidePage
  rw [bind_assoc, observesFrom_visit_bind]
  split
  · exact ends.observes underway false
  · exact ends.observes_sendHeartbeat underway

/-- Whoever ends a session that goes on stops its heartbeat first. -/
theorem EndsWith.observes_endTracking (stop : operation.isStop = true) (visit : Visit) :
    ObservesFrom operation.Tends .go visit (Errand.endTracking >>= rest) visit := by
  unfold Errand.endTracking
  rw [bind_assoc, observesFrom_visit_bind]
  dsimp only
  split
  case isTrue ended =>
    refine ends.observes (.of_stops (Visit.Ambles.refl visit).toSparesReferrer (.own stop) ?_) false
    exact fun goesOn => nomatch ended.symm.trans goesOn
  case isFalse goesOn =>
    have underway {tracker : Tracker} (still : tracker.heartbeat = none) :
        operation.Underway .go visit { visit with tracker := tracker } :=
      .of_stops ((Visit.Ambles.refl visit).toSparesReferrer.retrack tracker) (.own stop)
        fun _ => still
    rw [bind_assoc, observesFrom_track_bind]
    cases visit.tracker.visitor with
    | none => exact ends.observes (underway rfl) false
    | some id =>
        dsimp only
        unfold close
        rw [bind_assoc, bind_assoc, observesFrom_visit_bind]
        split
        · exact ends.observes ((underway rfl).trans (.inquire _ _)) true
        · exact ends.observes_asked (underway rfl) rfl (not_stops_of_isSession rfl) true

end EndsWith

/-! ## The start of a session -/

section AfterStart

variable {rest : Bool → Errand Outcome} (after : operation.AfterStart context rest)
  (goesOn : ∀ cue, ¬ operation.Stops cue)

include after goesOn

/-- The answer to a start may open the session, and then the page is recorded. -/
theorem AfterStart.observes_receiveStart (id : String) (request : StartRequest)
    (answer : Except ApiError SessionReport) (visit : Visit) :
    ObservesFrom operation.Tends (.answer (.service (.startSession id request)) answer) visit
      (receiveStart id context answer >>= rest) visit := by
  have underway (tracker : Tracker) :
      operation.Underway (.answer (.service (.startSession id request)) answer) visit
        { visit with tracker := tracker } :=
    .of_answersStart ((Visit.Ambles.refl visit).toSparesReferrer.retrack tracker) rfl (goesOn _)
  cases answer with
  | error error => exact after.ends.observes (underway _) false
  | ok report =>
      unfold receiveStart startHeartbeat
      rw [bind_assoc, bind_assoc, observesFrom_visit_bind, observesFrom_track_bind, bind_assoc]
      have ends : EndsWith fun _ : Bool => rest true := fun _ => after.ends true
      exact ends.observes_recordPage (underway _) context.path

/-- Requesting a start gives the first referrer to it. -/
theorem AfterStart.observes_requestStart (spares : first.SparesReferrer visit) (id : String) :
    ObservesFrom operation.Tends cue first (requestStart id context >>= rest) visit := by
  rw [requestStart_eq, bind_assoc, observesFrom_takeReferrer_bind]
  refine ⟨⟨nofun, fun stops => absurd stops (goesOn cue), nofun, ?_⟩, fun answer later => ?_⟩
  · rintro _ _ _ ⟨⟩
    exact ⟨context, after.context,
      spares.gives (visit.givesReferrer_takingReferrer context rfl _)⟩
  · exact after.observes_receiveStart goesOn id _ answer later

/-- Reopening the tracker comes down to a request to start a session. -/
theorem AfterStart.observes_reopen (spares : first.SparesReferrer visit) (id : String) :
    ObservesFrom operation.Tends cue first (reopen id context >>= rest) visit := by
  unfold reopen
  rw [bind_assoc, observesFrom_track_bind]
  exact after.observes_requestStart goesOn (spares.retrack _) id

/-- The session of another visitor is ended first, if it goes on. -/
theorem AfterStart.observes_startTracking (underway : operation.Underway cue first visit)
    (id : String) :
    ObservesFrom operation.Tends cue first (Errand.startTracking id context >>= rest) visit := by
  have reopens {middle : Visit} (spares : visit.SparesReferrer middle) :
      ObservesFrom operation.Tends cue first (reopen id context >>= rest) middle :=
    after.observes_reopen goesOn (underway.spares.trans spares) id
  unfold Errand.startTracking
  rw [bind_assoc, observesFrom_visit_bind]
  dsimp only
  split
  · exact after.ends.observes underway false
  · rw [bind_assoc, observesFrom_track_bind]
    cases visit.tracker.visitor with
    | none => exact reopens ⟨rfl, rfl, rfl⟩
    | some previous =>
        dsimp only
        rw [bind_assoc, observesFrom_track_bind]
        split
        · unfold close
          rw [bind_assoc, bind_assoc, observesFrom_visit_bind]
          split
          · exact reopens ⟨rfl, rfl, rfl⟩
          · refine ⟨⟨nofun, fun stops => absurd stops (goesOn cue), fun _ => ?_, nofun⟩,
              fun answer later => ?_⟩
            · exact ⟨underway.spares.settings, underway.spares.outside, underway.spares.referrer⟩
            · exact after.observes_reopen goesOn (Visit.Ambles.refl later).toSparesReferrer id
        · exact reopens ⟨rfl, rfl, rfl⟩

end AfterStart

/-! ## Beside the session -/

/-- An operation that has nothing to do with the session only ambles. -/
theorem observes_of_keeps (goesOn : ∀ cue, ¬ operation.Stops cue) {errand : Errand Outcome}
    (keeps : Keeps Visit.Ambles (fun call => call.isStart = false) (fun _ => True) errand)
    (visit : Visit) : ObservesFrom operation.Tends .go visit errand visit := by
  rw [← bind_pure errand]
  exact observes_bind goesOn (keeps visit) (.of_ambles (.refl visit) (goesOn .go))
    fun _ _ _ _ underway => underway.tends rfl

/-- Calls off the session are no starts of one. -/
theorem keeps_of_offSession {α : Type} {errand : Errand α}
    (keeps : Keeps Visit.Ambles (fun call => call.isSession = false) (fun _ => True) errand) :
    Keeps Visit.Ambles (fun call => call.isStart = false) (fun _ => True) errand :=
  keeps.mono (fun _ _ ambles => ambles) (fun _ => Call.not_isStart) fun _ ends => ends

/-- The session follows a verification if the visit goes on as another visitor. -/
theorem observes_followSwap (context : PageContext) (result : Except LinkError VerifyOutcome)
    (underway : (verifyAndFollow context).Underway cue first visit) :
    ObservesFrom (verifyAndFollow context).Tends cue first
      (.verify <$> Errand.followSwap context result) visit := by
  have stays (result : Except LinkError VerifyOutcome) :
      ObservesFrom (verifyAndFollow context).Tends cue first (.verify <$> pure result) visit :=
    underway.tends rfl
  cases result with
  | error error => exact stays _
  | ok outcome =>
      cases outcome with
      | swapped previous current =>
          unfold Errand.followSwap
          rw [map_bind, observesFrom_visit_bind]
          split
          · have after : (verifyAndFollow context).AfterStart context fun _ =>
              pure (.verify (.ok (.swapped previous current))) := ⟨rfl, endsWith_pure _⟩
            rw [map_bind]
            exact after.observes_startTracking (not_stops rfl) underway current
          · exact stays _
      | _ => exact stays _

/-- The heartbeat is stopped by a log-out that the service accepts. -/
theorem observes_leave (visit : Visit) :
    ObservesFrom leave.Tends .go visit (errand .leave) visit := by
  have go : ¬ leave.Stops .go := by
    rintro ⟨stop⟩
    cases stop
  have start : leave.Underway .go visit visit := .of_ambles (.refl visit) go
  rw [errand_leave]
  unfold Errand.logOut
  rw [bind_assoc, observesFrom_visit_bind]
  split
  · exact start.tends rfl
  case h_2 id known =>
    refine ⟨(start.trans (.inquire visit _)).tends rfl, fun answer later => ?_⟩
    change ObservesFrom leave.Tends _ _
      (receiveLogOut id answer >>= fun outcome => Outcome.account <$> followLogOut outcome) _
    cases answer with
    | error error =>
        have refused : ¬ leave.Stops (.answer (.service (.logOut id)) (.error error)) := nofun
        exact (Underway.of_ambles (.emit later _) refused).tends rfl
    | ok visitor =>
        unfold receiveLogOut
        rw [bind_assoc, observesFrom_isVisitor_bind]
        have halted {after : Visit} (spares : later.SparesReferrer after)
            (still : after.tracker.heartbeat = none) :
            leave.Tends (.answer (.service (.logOut id)) (.ok visitor)) later
              (.finished (.account (.ok ())), after) :=
          Underway.tends (.of_stops spares (.logOut id visitor) fun _ => still) rfl
        split <;> exact halted ⟨rfl, rfl, rfl⟩ rfl

/-! ## All operations -/

/-- Every piece of every operation does with the session what its law allows. -/
theorem observes_tends (operation : Operation) (visit : Visit) :
    ObservesFrom operation.Tends .go visit operation.errand visit := by
  cases stops : operation.mayStop with
  | true =>
      cases operation with
      | stopHeartbeat =>
          have halted : stopHeartbeat.Underway .go visit { visit with tracker.heartbeat := none } :=
            .of_stops ⟨rfl, rfl, rfl⟩ (.own rfl) fun _ => rfl
          exact halted.tends rfl
      | endTracking => exact EndsWith.observes_endTracking (endsWith_pure .flag) rfl visit
      | shutDown => exact EndsWith.observes_endTracking (endsWith_pure fun _ => .nothing) rfl visit
      | leave => exact observes_leave visit
      | _ => cases stops
  | false =>
      have goesOn := not_stops stops
      have start : operation.Underway .go visit visit := .of_ambles (.refl visit) (goesOn .go)
      have flag : EndsWith fun value => pure (.flag value) := endsWith_pure Outcome.flag
      cases connects : operation.connects with
      | true =>
          have keeps := Visit.Ambles.frame.keeps_errand connects
          exact observes_of_keeps goesOn (keeps_of_offSession keeps) visit
      | false =>
          cases operation with
          | startSession context =>
              rw [errand, Errand.startSession, map_bind, observesFrom_visit_bind]
              split
              · exact AfterStart.observes_startTracking ⟨rfl, flag⟩ goesOn start _
              · exact start.tends rfl
          | startTracking id context =>
              exact AfterStart.observes_startTracking ⟨rfl, flag⟩ goesOn start id
          | recordPage path => exact flag.observes_recordPage start path
          | sendHeartbeat => exact flag.observes_sendHeartbeat start
          | hidePage => exact flag.observes_hidePage start
          | verifyAndFollow context =>
              rw [errand_verifyAndFollow]
              have within := keeps_of_offSession Visit.Ambles.frame.within_verify.offSession
              exact observes_bind goesOn (within visit) start fun result _ _ _ underway =>
                observes_followSwap context result underway
          | stopHeartbeat | endTracking | shutDown | leave => cases stops
          | _ =>
              have within := Visit.Ambles.frame.within_errand connects rfl rfl
              exact observes_of_keeps goesOn (keeps_of_offSession within.offSession) visit

end Operation

end VisitorLink
