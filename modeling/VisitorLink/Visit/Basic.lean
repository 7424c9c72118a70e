import VisitorLink.Storage.Slots
import VisitorLink.Visit.Call
import VisitorLink.Visit.State

/-!
# Visits

All that there is to a visit at one moment: its settings, what it can see of the outside at once,
its state, the two slots, the tracking of pages, and what it has told and asked so far.
-/

namespace VisitorLink

/-- How important a notice is. -/
inductive NoticeLevel
  | info
  | success
  | warning
  | error
deriving DecidableEq, Repr

/-- Something that the visitor is told. -/
inductive Event
  | notice (level : NoticeLevel) (message : String)
  /-- The visit goes on as another visitor, the owner of a verified wallet. -/
  | swapped (previous current : String)
  /-- The connected wallet belongs to another visitor. -/
  | loginRequired (address owner : String)
deriving DecidableEq, Repr

/-- The settings of a visit, and what it finds. Durations are in milliseconds. -/
structure VisitSettings where
  heartbeatPeriod : Nat := 30000
  detectInterval : Nat := 500
  detectAttempts : Nat := 12
  /-- Whether the id of a visitor that the visit goes on as is remembered. -/
  remembersSwap : Bool := true
  /-- Whether the cookies may hold the page that the visitor came from at first. -/
  keepsReferrer : Bool := true
  /-- How long the machine had run when the visit was opened. -/
  uptime : Nat := 0
deriving DecidableEq, Repr

/-- What a visit can see of the outside without waiting. -/
structure Outside where
  providerPresent : Bool := true
  /-- The address that the provider reports, well formed or not. -/
  providerAddress : Option String := none
  providerSigns : Bool := true
  /-- Whether the end of a session can be sent without waiting for an answer. -/
  sendsBeacons : Bool := false
  /-- Milliseconds since the visit was opened. -/
  clock : Nat := 0
  /-- Milliseconds since the start of 1970. -/
  time : Int64 := 0
  /-- Bytes that nobody can foresee. -/
  random : Vector UInt8 16

/-- The heartbeat of a session. It is sent at `due` and every period from there, for as long as
nobody stops it, and not before the one sent last has been answered. -/
structure Heartbeat where
  visitor : String
  due : Nat
  period : Nat
  /-- Whether the last one sent has not been answered yet. -/
  unanswered : Bool := false
deriving DecidableEq, Repr

namespace Heartbeat

/-- Seconds that a deadline may not reach, counted from the start of the machine. -/
def deadlineLimit : Nat := Nat.pow 2 63

/-- Whether there can be a timer for the heartbeat of a visit on a machine that had run for so many
milliseconds: it has a period, and its deadline is within reach. -/
def canBeTimed (uptime : Nat) (heartbeat : Heartbeat) : Bool :=
  heartbeat.period != 0 && decide ((uptime + heartbeat.due) / 1000 < deadlineLimit)

end Heartbeat

/-- The tracking of the pages that a visitor views. -/
structure Tracker where
  /-- The visitor whose session was started last. -/
  visitor : Option String := none
  lastPath : Option String := none
  heartbeat : Option Heartbeat := none
  /-- The number of heartbeats started so far, which tells the present one from earlier ones. -/
  heartbeats : Nat := 0
  ended : Bool := false
deriving DecidableEq, Repr

/-- Whether a session goes on. -/
def Tracker.isActive (tracker : Tracker) : Bool :=
  !tracker.ended && tracker.visitor.isSome

/-- Whether heartbeats are going to be sent. -/
def Tracker.isBeating (tracker : Tracker) : Bool :=
  tracker.heartbeat.isSome

/-- An inquiry with the time on the clock. -/
structure JournalEntry where
  clock : Nat
  inquiry : Inquiry
deriving DecidableEq

/-- A visit at one moment. -/
structure Visit where
  settings : VisitSettings := {}
  outside : Outside
  state : State := {}
  /-- The addresses that the service has been asked to link and need not be asked for again. -/
  attempted : List String := []
  /-- Whether a connection to the provider is being made. -/
  connecting : Bool := false
  storage : Storage := .memory {} {}
  tracker : Tracker := {}
  /-- Whether anybody listens to the events. -/
  listening : Bool := true
  /-- The events so far, oldest first. -/
  events : List Event := []
  /-- The inquiries so far, oldest first. -/
  journal : List JournalEntry := []

namespace Visit

/-- The time on the clock. -/
def clock (visit : Visit) : Nat :=
  visit.outside.clock

/-- The visit with its state changed. -/
def apply (visit : Visit) (change : Change) : Visit :=
  { visit with state := visit.state.apply change }

/-- The visit after telling an event, which is lost if nobody listens. -/
def emit (visit : Visit) (event : Event) : Visit :=
  if visit.listening then { visit with events := visit.events ++ [event] } else visit

/-- The visit after an inquiry. -/
def inquire (visit : Visit) (inquiry : Inquiry) : Visit :=
  { visit with journal := visit.journal ++ [⟨visit.clock, inquiry⟩] }

/-- The address that the provider shows. -/
def shownAddress? (visit : Visit) : Option String :=
  Address.shown? visit.outside.providerAddress

end Visit

end VisitorLink
