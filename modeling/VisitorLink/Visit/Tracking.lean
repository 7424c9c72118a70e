import VisitorLink.Visit.Errand

/-!
# Tracking the pages of a session

A session starts with a request to the service, which is followed by the first page, a heartbeat,
and further pages. It is ended once. None of this concerns the wallet, and what the service refuses
has no effect on the visit.
-/

namespace VisitorLink

/-- Where a session starts. -/
structure PageContext where
  path : String := ""
  referrer : Option String := none
  screenWidth : Option UInt32 := none
deriving DecidableEq, Repr

/-- The key of the page that the visitor came from at first. -/
def referrerKey : String := "original_referrer"

namespace Errand

/-! ## The heartbeat -/

/-- Stops the heartbeat. -/
def stopHeartbeat : Errand Unit :=
  track fun tracker => { tracker with heartbeat := none }

/-- Starts a heartbeat for a visitor, in place of any other. -/
def startHeartbeat (id : String) : Errand Unit := do
  let before ← visit
  let period := before.settings.heartbeatPeriod
  track fun tracker =>
    { tracker with
      heartbeat := some { visitor := id, due := before.clock + period, period := period }
      heartbeats := tracker.heartbeats + 1 }

/-! ## Pages -/

/-- Records that a page is viewed, unless it is the one recorded last. -/
def recordPage (path : String) : Errand Bool := do
  let tracker := (← visit).tracker
  match tracker.visitor with
  | none => return false
  | some id =>
      if tracker.ended || tracker.lastPath == some path then return false
      track fun tracker => { tracker with lastPath := some path }
      let _ ← askService (.recordPage id path)
      return true

/-- Sends a heartbeat out of turn. -/
def sendHeartbeat : Errand Bool := do
  let tracker := (← visit).tracker
  match tracker.visitor with
  | none => return false
  | some id =>
      if tracker.ended then return false
      let _ ← askService (.heartbeat id)
      return true

/-- Sends a heartbeat when the page is hidden, unless heartbeats have been stopped. -/
def hidePage : Errand Bool := do
  if !(← visit).tracker.isBeating then return false
  sendHeartbeat

/-! ## Start and end -/

/-- Tells the service that the session of a visitor ends, without waiting if that is possible. -/
def close (id : String) : Errand Unit := do
  if (← visit).outside.sendsBeacons then
    modify fun visit => visit.inquire (.endBeacon id)
  else
    let _ ← askService (.endSession id)

/-- Takes the page that the visitor came from at first out of the cookies. -/
def takeReferrer : Errand (Option String) := do
  if !(← visit).settings.keepsReferrer then return none
  match ← slots (StorageM.get .cookies referrerKey) with
  | .ok (some referrer) =>
      let _ ← slots (StorageM.remove .cookies referrerKey)
      return if referrer = "" then none else some referrer
  | _ => return none

/-- Asks the service to start a session, and then starts the heartbeat and records the first page.
A start that is refused may be tried again. -/
def requestStart (id : String) (context : PageContext) : Errand Bool := do
  let referrer ← takeReferrer
  let request : StartRequest :=
    { referrer := referrer.or context.referrer
      screenWidth := context.screenWidth
      device := context.screenWidth.map Device.ofWidth }
  match ← askService (.startSession id request) with
  | .error _ =>
      track fun tracker =>
        if tracker.visitor == some id then { tracker with visitor := none } else tracker
      return false
  | .ok _ =>
      startHeartbeat id
      let _ ← recordPage context.path
      return true

/-- Starts the session of a visitor, once. The session of another visitor is ended before. -/
def startTracking (id : String) (context : PageContext) : Errand Bool := do
  let tracker := (← visit).tracker
  if tracker.visitor == some id then return false
  track fun tracker => { tracker with heartbeat := none, lastPath := none, visitor := some id }
  match tracker.visitor with
  | some previous =>
      track fun tracker => { tracker with ended := true }
      if !tracker.ended then close previous
  | none => pure ()
  track fun tracker => { tracker with ended := false }
  requestStart id context

/-- Ends the session. Whoever does so first ends it; after that there is nothing to end. -/
def endTracking : Errand Bool := do
  let tracker := (← visit).tracker
  if tracker.ended then return false
  track fun tracker => { tracker with ended := true, heartbeat := none }
  match tracker.visitor with
  | none => return false
  | some id =>
      close id
      return true

end Errand

/-! ## The heartbeat in the background -/

namespace Visit

/-- The visit after a heartbeat that cannot be timed was given up. It counts as going on until
then. -/
def giveUpHeartbeat (visit : Visit) : Visit :=
  { visit with
    tracker.heartbeat :=
      visit.tracker.heartbeat.filter fun heartbeat => heartbeat.canBeTimed visit.settings.uptime }

/-- The heartbeat that is to be sent now, if there is one. -/
def dueHeartbeat? (visit : Visit) : Option Heartbeat :=
  visit.tracker.heartbeat.filter fun heartbeat =>
    heartbeat.canBeTimed visit.settings.uptime && !heartbeat.unanswered &&
      decide (heartbeat.due ≤ visit.clock)

/-- The visit after a heartbeat was sent. The next one is due a period later, counted from when this
one was. -/
def sendHeartbeat (visit : Visit) (heartbeat : Heartbeat) : Visit :=
  let due := heartbeat.due + heartbeat.period
  { visit.inquire (.call (.service (.heartbeat heartbeat.visitor))) with
    tracker.heartbeat := some { heartbeat with due := due, unanswered := true } }

/-- The visit after a heartbeat was answered. An answer to an earlier heartbeat than the present
one has no effect. -/
def answerHeartbeat (visit : Visit) (number : Nat) : Visit :=
  if visit.tracker.heartbeats = number then
    { visit with
      tracker.heartbeat := visit.tracker.heartbeat.map fun heartbeat =>
        { heartbeat with unanswered := false } }
  else visit

end Visit

end VisitorLink
