import VisitorLink.Proofs.Conduct.Sessions
import VisitorLink.Proofs.Course.Progress
import VisitorLink.Proofs.Course.Reports
import VisitorLink.Proofs.Course.StoredId
import VisitorLink.Proofs.Visit.Polling

/-!
# The schedule of heartbeats

A session whose start is accepted has its heartbeats sent one, two, three periods later and so on.
The times follow from the moment of the acceptance alone: they do not depend on what else is done in
the meantime, or on how long anybody waits at once, as long as the session is neither ended nor
followed by another one, and the clock stops for the heartbeats.

Main statement: the heartbeats are sent at these times and at no others, and none is sent once they
have been stopped (`heartbeats_keep_schedule`).
-/

namespace VisitorLink

open Errand

/-! ## Times -/

/-- A heartbeat that was sent in the background. -/
structure Beat where
  time : Nat
  visitor : String
deriving DecidableEq

namespace Heartbeat

/-- That a timer can be set for a time of a visit, on a machine that had run for so many
milliseconds when the visit was opened. -/
def WithinReach (uptime time : Nat) : Prop :=
  (uptime + time) / 1000 < deadlineLimit

/-- The time of the heartbeat with an index, counted from zero, where the heart begins to beat at a
given time. -/
def timeOf (begun period index : Nat) : Nat :=
  begun + (index + 1) * period

/-- The heartbeats of a visitor up to a number. -/
def schedule (id : String) (begun period count : Nat) : List Beat :=
  (List.range count).map fun index => ⟨timeOf begun period index, id⟩

variable {uptime begun period : Nat}

/-- A heartbeat can be timed if it has a period and its next deadline is within reach. -/
theorem canBeTimed_iff {heartbeat : Heartbeat} :
    heartbeat.canBeTimed uptime = true ↔
      0 < heartbeat.period ∧ WithinReach uptime heartbeat.due := by
  simp [canBeTimed, WithinReach, Nat.pos_iff_ne_zero]

/-- What is due before something within reach is within reach. -/
theorem WithinReach.of_le {early late : Nat} (reach : WithinReach uptime late) (le : early ≤ late) :
    WithinReach uptime early :=
  (Nat.div_le_div_right (Nat.add_le_add_left le uptime)).trans_lt reach

theorem timeOf_succ (begun period index : Nat) :
    timeOf begun period (index + 1) = timeOf begun period index + period := by
  unfold timeOf
  rw [Nat.succ_mul, ← Nat.add_assoc]

/-- Heartbeats come in the order of their indices. -/
theorem timeOf_le {index later : Nat} (le : index ≤ later) :
    timeOf begun period index ≤ timeOf begun period later :=
  Nat.add_le_add_left (Nat.mul_le_mul_right _ (Nat.succ_le_succ le)) _

theorem schedule_succ (id : String) (begun period count : Nat) :
    schedule id begun period (count + 1) =
      schedule id begun period count ++ [⟨timeOf begun period count, id⟩] := by
  simp [schedule, List.range_succ]

end Heartbeat

open Heartbeat (WithinReach timeOf schedule)

/-! ## Waiting for a heartbeat -/

/-- The answer to a heartbeat takes no time. -/
theorem Visit.answerHeartbeat_clock (visit : Visit) (number : Nat) :
    (visit.answerHeartbeat number).clock = visit.clock := by
  unfold answerHeartbeat
  split <;> rfl

/-- That the next heartbeat of a visitor is set for a time, which the clock has not passed, or was
given up because no timer can be set for it. -/
inductive Visit.Awaits (visit : Visit) (id : String) (due period : Nat) : Prop
  | beating (unanswered : Bool)
      (runs : visit.tracker.heartbeat = some ⟨id, due, period, unanswered⟩)
      (early : WithinReach visit.settings.uptime due → visit.clock ≤ due)
      (rested : WithinReach visit.settings.uptime due → unanswered = true → visit.clock < due) :
      Awaits visit id due period
  | givenUp (still : visit.tracker.heartbeat = none)
      (beyond : ¬ WithinReach visit.settings.uptime due) : Awaits visit id due period

namespace Visit.Awaits

variable {before after visit : Visit} {id : String} {due period : Nat}

/-- What leaves the tracker alone leaves the next heartbeat waited for. -/
theorem ambles (awaits : before.Awaits id due period) (ambles : before.Ambles after) :
    after.Awaits id due period := by
  have clock := ambles.clock
  have settings := ambles.settings
  cases awaits with
  | beating unanswered runs early rested =>
      rw [← clock, ← settings] at early rested
      exact .beating unanswered (ambles.heartbeat.trans runs) early rested
  | givenUp still beyond =>
      rw [← settings] at beyond
      exact .givenUp (ambles.heartbeat.trans still) beyond

/-- What is due is the heartbeat waited for, and it is due at this very time. -/
theorem of_due (awaits : visit.Awaits id due period) {heartbeat : Heartbeat}
    (sends : visit.dueHeartbeat? = some heartbeat) :
    heartbeat.visitor = id ∧ heartbeat.due = due ∧ heartbeat.period = period ∧
      0 < period ∧ visit.clock = due := by
  obtain ⟨running, ready⟩ := Option.filter_eq_some_iff.1 sends
  cases awaits with
  | beating unanswered runs early rested =>
      cases running.symm.trans runs
      rw [Bool.and_eq_true, Bool.and_eq_true, Heartbeat.canBeTimed_iff] at ready
      obtain ⟨⟨⟨positive, reach⟩, _⟩, due⟩ := ready
      exact ⟨rfl, rfl, rfl, positive, Nat.le_antisymm (early reach) (of_decide_eq_true due)⟩
  | givenUp still => cases running.symm.trans still

/-- Once a heartbeat is sent, the next one is waited for a period later. -/
theorem beat (awaits : visit.Awaits id due period) {heartbeat : Heartbeat}
    (sends : visit.dueHeartbeat? = some heartbeat) :
    (visit.sendHeartbeat heartbeat).Awaits id (due + period) period := by
  obtain ⟨rfl, rfl, rfl, positive, now⟩ := awaits.of_due sends
  have later : visit.clock < heartbeat.due + heartbeat.period := by omega
  exact .beating true rfl (fun _ => Nat.le_of_lt later) fun _ _ => later

/-- The answer to a heartbeat leaves the deadline of the next one. -/
theorem answer (awaits : visit.Awaits id due period) (number : Nat) :
    (visit.answerHeartbeat number).Awaits id due period := by
  unfold answerHeartbeat
  split
  · cases awaits with
    | beating unanswered runs early rested =>
        refine .beating false ?_ early nofun
        dsimp only
        rw [runs]
        rfl
    | givenUp still beyond =>
        refine .givenUp ?_ beyond
        dsimp only
        rw [still]
        rfl
  · exact awaits

/-- A heartbeat is given up only if no timer reaches its deadline. -/
theorem giveUp (awaits : visit.Awaits id due period) (positive : 0 < period) :
    visit.giveUpHeartbeat.Awaits id due period := by
  unfold giveUpHeartbeat
  cases awaits with
  | beating unanswered runs early rested =>
      by_cases reach : WithinReach visit.settings.uptime due
      · refine .beating unanswered ?_ early rested
        dsimp only
        rw [runs, Option.filter_some, if_pos (Heartbeat.canBeTimed_iff.2 ⟨positive, reach⟩)]
      · refine .givenUp ?_ reach
        dsimp only
        rw [runs, Option.filter_some,
          if_neg fun timed => reach (Heartbeat.canBeTimed_iff.1 timed).2]
  | givenUp still beyond =>
      refine .givenUp ?_ beyond
      dsimp only
      rw [still]
      rfl

/-- The clock moves on to a time for which the heartbeat need not be sent before. -/
theorem changeOutside (awaits : visit.Awaits id due period) (positive : 0 < period)
    {outside : Outside} (later : visit.clock ≤ outside.clock)
    (punctual : ∀ heartbeat, visit.tracker.heartbeat = some heartbeat →
      heartbeat.canBeTimed visit.settings.uptime = true → visit.clock < outside.clock →
        heartbeat.unanswered = false ∧ outside.clock ≤ heartbeat.due) :
    ({ visit with outside := outside } : Visit).Awaits id due period := by
  cases awaits with
  | beating unanswered runs early rested =>
      have soon (reach : WithinReach visit.settings.uptime due) : outside.clock = visit.clock ∨
          unanswered = false ∧ outside.clock ≤ due := by
        rcases Nat.eq_or_lt_of_le later with same | moves
        · exact .inl same.symm
        · exact .inr (punctual _ runs (Heartbeat.canBeTimed_iff.2 ⟨positive, reach⟩) moves)
      refine .beating unanswered runs (fun reach => ?_) fun reach waits => ?_
      · change outside.clock ≤ due
        rcases soon reach with same | ⟨_, within⟩
        · exact same ▸ early reach
        · exact within
      · change outside.clock < due
        rcases soon reach with same | ⟨answered, _⟩
        · exact same ▸ rested reach waits
        · cases waits.symm.trans answered
  | givenUp still beyond => exact .givenUp still beyond

/-- If no heartbeat is due at a time for which timers can be set, the next one is to come. -/
theorem lt_due (awaits : visit.Awaits id due period) (positive : 0 < period)
    (reach : WithinReach visit.settings.uptime visit.clock) (sent : visit.dueHeartbeat? = none) :
    visit.clock < due := by
  by_contra passed
  have passed : due ≤ visit.clock := Nat.le_of_not_lt passed
  have within := reach.of_le passed
  cases awaits with
  | beating unanswered runs early rested =>
      have now : visit.clock = due := Nat.le_antisymm (early within) passed
      have answered : unanswered = false := by
        refine eq_false_of_ne_true fun waits => ?_
        exact Nat.lt_irrefl _ (now ▸ rested within waits)
      subst answered
      have timed : Heartbeat.canBeTimed visit.settings.uptime ⟨id, due, period, false⟩ = true :=
        Heartbeat.canBeTimed_iff.2 ⟨positive, within⟩
      rw [dueHeartbeat?, runs, Option.filter_some, if_pos (by simp [timed, passed])] at sent
      cases sent
  | givenUp still beyond => exact beyond within

end Visit.Awaits

/-- The heartbeat that something was, at a time on the clock. -/
def Happening.beat? (clock : Nat) : Happening → Option Beat
  | .beat visitor => some ⟨clock, visitor⟩
  | _ => none

/-! ## Standing still -/

namespace Tracker

variable {outside : Outside} {before after : Tracker} {spur : Spur} {told : List Inquiry}
  {phase : Phase}

/-- Without a heartbeat, the tracker starts one only where a start of a session is accepted. -/
theorem Acts.staysStill (acts : before.Acts outside spur told after phase)
    (still : before.heartbeat = none)
    (unaccepted : ∀ id context, spur ≠ .answered id context true) : after.heartbeat = none := by
  cases acts with
  | rest | pulse | begin | refuse => exact still
  | still | conclude | takeUp => rfl
  | view path => exact (viewing_heartbeat before path).trans still
  | accept context => exact absurd rfl (unaccepted _ context)

/-- No heartbeat starts unless the start of a session is accepted. -/
theorem Goes.staysStill (goes : before.Goes outside spur told after phase)
    (still : before.heartbeat = none)
    (unaccepted : ∀ id context, spur ≠ .answered id context true) : after.heartbeat = none := by
  cases goes with
  | once acts => exact acts.staysStill still unaccepted
  | twice acts goesOn => exact goesOn.staysStill (acts.staysStill still unaccepted) nofun

end Tracker

namespace Course

/-! ## What steps send in the background -/

/-- The heartbeats that a step sends in the background. -/
def beaten (before after : Course) : List Beat :=
  (after.history.drop before.history.length).filterMap (Happening.beat? before.visit.clock)

variable {before after : Course} {number : Nat} {operation : Operation} {cue : Cue}
  {resumed : Course} {piece : Errand.Paused Outcome × Visit}

/-- The heartbeats of a step can be read off what it adds to the history. -/
theorem beaten_of_history {added : List Happening}
    (history : after.history = before.history ++ added) :
    before.beaten after = added.filterMap (Happening.beat? before.visit.clock) := by
  unfold beaten
  rw [history, List.drop_left]

/-- A step that is no heartbeat sends none. -/
theorem beaten_of_silent {happening : Happening}
    (history : after.history = before.history ++ [happening])
    (silent : happening.beat? before.visit.clock = none) : before.beaten after = [] := by
  rw [beaten_of_history history, List.filterMap_cons_none silent, List.filterMap_nil]

/-- A piece of an operation is no heartbeat of the background. -/
theorem Resumes.beaten_eq (resumes : Resumes before number operation cue resumed) :
    before.beaten (resumed.pause number operation piece) = [] := by
  obtain ⟨happening, foreground, history⟩ := resumes.history_turn
  have turn := pause_history resumed number operation piece
  rw [history, List.append_assoc] at turn
  have silent : (pauseNote number piece.1).filterMap (Happening.beat? before.visit.clock) = [] := by
    cases piece.1 <;> rfl
  rw [beaten_of_history turn]
  cases happening <;> first | exact silent | cases foreground

/-! ## Steps that leave the heartbeat alone -/

/-- That a step stops the heartbeat or ends the session. -/
def Halts (before after : Course) : Prop :=
  ∃ number operation cue, Cues before after number operation cue ∧ operation.Stops cue

/-- That a step belongs to the start of a session: it asks for the start or for the end of the
former session, or the start is answered. -/
def Turns (before after : Course) : Prop :=
  (∃ number call, after.Sends number call ∧ call.isTurn = true) ∨
    ∃ number operation cue, Cues before after number operation cue ∧ cue.answersStart = true

/-- That a step neither stops the heartbeat nor belongs to the start of a session. -/
structure Unbroken (before after : Course) : Prop where
  goesOn : ¬ Halts before after
  same : ¬ Turns before after

/-- That a step leaves the heartbeat to its timer as well: the clock does not move before the last
heartbeat has been answered, or on past the next one. -/
structure Regular (before after : Course) : Prop extends Unbroken before after where
  punctual : ∀ heartbeat, before.visit.tracker.heartbeat = some heartbeat →
    heartbeat.canBeTimed before.visit.settings.uptime = true →
      before.visit.clock < after.visit.clock →
      heartbeat.unanswered = false ∧ after.visit.clock ≤ heartbeat.due

variable {settings : VisitSettings} {outside : Outside} {storage : Storage} {state : State}

/-- What becomes of the heartbeat in a step that lets it be: an operation leaves it alone, or it is
sent, answered or given up, or the outside changes. -/
inductive Continues (before : Course) : Course → Prop
  | turn {after : Course} (ambles : before.visit.Ambles after.visit)
      (silent : before.beaten after = []) : Continues before after
  | beat {heartbeat : Heartbeat} (due : before.visit.dueHeartbeat? = some heartbeat) :
      Continues before (before.beat heartbeat)
  | answerBeat (number : Nat) : Continues before (before.answerBeat number)
  | giveUpBeat : Continues before before.giveUpBeat
  | changeOutside {outside : Outside} (later : before.visit.clock ≤ outside.clock) :
      Continues before (before.changeOutside outside)

/-- An unbroken piece of an operation leaves the heartbeat alone. -/
theorem Unbroken.continues_turn (unbroken : Unbroken before (resumed.pause number operation piece))
    (reaches : Reaches (opening settings outside storage state) before)
    (proceeds : before.Proceeds number operation cue piece)
    (resumes : Resumes before number operation cue resumed) :
    Continues before (resumed.pause number operation piece) := by
  have cues : Cues before (resumed.pause number operation piece) number operation cue :=
    ⟨resumed, piece, resumes, rfl⟩
  have ambles : before.visit.Ambles piece.2 := by
    refine (reaches.lawful Operation.observes_tends proceeds).ambles (fun stops => ?_) ?_ ?_
    · exact unbroken.goesOn ⟨number, operation, cue, cues, stops⟩
    · exact eq_false_of_ne_true fun answers => unbroken.same (.inr ⟨_, _, cue, cues, answers⟩)
    · refine eq_false_of_ne_true fun turns => unbroken.same (.inl ?_)
      obtain ⟨paused, visit⟩ := piece
      cases paused with
      | calling call next => exact ⟨number, call, sends_pause _ _ _ _ _ _, turns⟩
      | finished outcome => cases turns
      | sleeping wakeUp next => cases turns
  refine .turn ?_ resumes.beaten_eq
  rw [pause_visit]
  exact ambles

/-- An unbroken step does with the heartbeat what its timer says, if it does anything. -/
theorem Unbroken.continues (unbroken : Unbroken before after) (step : Step before after)
    (reaches : Reaches (opening settings outside storage state) before) :
    Continues before after := by
  cases step with
  | start operation => exact unbroken.continues_turn reaches (.start operation) (.start operation)
  | answer waits answer =>
      exact unbroken.continues_turn reaches (.answer waits answer) (.answer waits answer)
  | wake waits due => exact unbroken.continues_turn reaches (.wake waits) (.wake waits)
  | beat due => exact .beat due
  | answerBeat sent => exact .answerBeat _
  | giveUpBeat => exact .giveUpBeat
  | changeOutside later => exact .changeOutside later

/-- That so many heartbeats have been sent on time, and the next one is waited for. -/
structure OnTime (course : Course) (id : String) (begun period count : Nat) : Prop where
  awaits : course.visit.Awaits id (timeOf begun period count) period
  sent : ∀ index < count, timeOf begun period index ≤ course.visit.clock
  goesOn : course.visit.tracker.ended = false

variable {id : String} {begun period count : Nat}

/-- A step that leaves the heartbeat to its timer sends nothing, or the heartbeat that is next, at
its time. -/
theorem OnTime.step (onTime : before.OnTime id begun period count) (positive : 0 < period)
    (reaches : Reaches (opening settings outside storage state) before) (step : Step before after)
    (regular : Regular before after) :
    (before.beaten after = [] ∧ after.OnTime id begun period count) ∨
      before.beaten after = [⟨timeOf begun period count, id⟩] ∧
        after.OnTime id begun period (count + 1) := by
  obtain ⟨awaits, sent, goesOn⟩ := onTime
  cases regular.toUnbroken.continues step reaches with
  | turn ambles silent =>
      refine .inl ⟨silent, awaits.ambles ambles, fun index lt => ?_, ambles.ended.trans goesOn⟩
      rw [ambles.clock]
      exact sent index lt
  | @beat heartbeat due =>
      obtain ⟨rfl, _, _, _, now⟩ := awaits.of_due due
      refine .inr ⟨?_, ?_, fun index lt => ?_, goesOn⟩
      · rw [beaten_of_history rfl, ← now]
        rfl
      · rw [Heartbeat.timeOf_succ]
        exact awaits.beat due
      · exact (Heartbeat.timeOf_le (Nat.le_of_lt_succ lt)).trans (Nat.le_of_eq now.symm)
  | answerBeat number =>
      have clock := before.visit.answerHeartbeat_clock number
      have ended : (before.visit.answerHeartbeat number).tracker.ended = false := by
        unfold Visit.answerHeartbeat
        split <;> exact goesOn
      exact .inl ⟨beaten_of_silent rfl rfl, awaits.answer number,
        fun index lt => (sent index lt).trans (Nat.le_of_eq clock.symm), ended⟩
  | giveUpBeat => exact .inl ⟨beaten_of_silent rfl rfl, awaits.giveUp positive, sent, goesOn⟩
  | changeOutside later =>
      exact .inl ⟨beaten_of_silent rfl rfl, awaits.changeOutside positive later regular.punctual,
        fun index lt => (sent index lt).trans later, goesOn⟩

/-! ## Runs -/

/-- That a course goes on to another one by steps that are all allowed, with what they send in the
background. -/
inductive Logs (Allowed : Course → Course → Prop) (first : Course) : List Beat → Course → Prop
  | refl : Logs Allowed first [] first
  | step {log : List Beat} {middle last : Course} (before : Logs Allowed first log middle)
      (next : Step middle last) (allowed : Allowed middle last) :
      Logs Allowed first (log ++ middle.beaten last) last

variable {Allowed : Course → Course → Prop} {first last : Course} {log : List Beat}

/-- A course that is logged goes on by steps. -/
theorem Logs.reaches (logs : Logs Allowed first log last) : Reaches first last := by
  induction logs with
  | refl => exact .refl
  | step before next allowed ih => exact .step ih next

/-- What happens without any operation stops no heartbeat and starts none. -/
theorem unbroken_of_background {happening : Happening} (background : happening.isBackground = true)
    (history : after.history = before.history ++ [happening]) : Unbroken before after where
  goesOn := by
    rintro ⟨number, operation, cue, cues, _⟩
    exact not_cues_of_background background history cues
  same := by
    rintro (⟨number, call, sends, _⟩ | ⟨number, operation, cue, cues, _⟩)
    · exact not_sends_of_background background history number call sends
    · exact not_cues_of_background background history cues

/-- A step of the background goes into the log with the heartbeat that it sends. -/
theorem Logs.background (logs : Logs Regular first log last) (next : Step last after)
    {happening : Happening} (background : happening.isBackground = true)
    (history : after.history = last.history ++ [happening])
    (punctual : ∀ heartbeat, last.visit.tracker.heartbeat = some heartbeat →
      last.visit.clock < after.visit.clock →
        heartbeat.unanswered = false ∧ after.visit.clock ≤ heartbeat.due) :
    Logs Regular first (log ++ (happening.beat? last.visit.clock).toList) after := by
  have regular : Regular last after :=
    ⟨unbroken_of_background background history, fun heartbeat runs _ => punctual heartbeat runs⟩
  have goesOn := logs.step next regular
  rw [beaten_of_history history] at goesOn
  cases happening <;> exact goesOn

/-- The heartbeat waited for can be sent on time, and answered at once. -/
theorem Logs.beat (logs : Logs Regular first log last) {heartbeat : Heartbeat}
    (runs : last.visit.tracker.heartbeat = some heartbeat)
    (timed : heartbeat.canBeTimed last.visit.settings.uptime = true)
    (answered : heartbeat.unanswered = false) (early : last.visit.clock ≤ heartbeat.due) :
    ∃ next, Logs Regular first (log ++ [⟨heartbeat.due, heartbeat.visitor⟩]) next ∧
      next.visit.clock = heartbeat.due ∧
      next.visit.tracker.heartbeat =
        some { heartbeat with due := heartbeat.due + heartbeat.period } := by
  let waits := last.changeOutside { last.visit.outside with clock := heartbeat.due }
  have passes : Step last waits := .changeOutside early
  have waited : Logs Regular first (log ++ []) waits := by
    refine logs.background passes rfl rfl fun other beats _ => ?_
    cases runs.symm.trans beats
    exact ⟨answered, Nat.le_refl _⟩
  have due : waits.visit.dueHeartbeat? = some heartbeat := by
    have timed : heartbeat.canBeTimed waits.visit.settings.uptime = true := timed
    have ready : decide (heartbeat.due ≤ waits.visit.clock) = true := decide_eq_true (Nat.le_refl _)
    unfold Visit.dueHeartbeat?
    rw [show waits.visit.tracker.heartbeat = some heartbeat from runs, Option.filter_some,
      if_pos (by rw [timed, answered, ready]; rfl)]
  have beaten : Logs Regular first (log ++ [] ++ [⟨heartbeat.due, heartbeat.visitor⟩])
      (waits.beat heartbeat) :=
    waited.background (.beat due) rfl rfl fun _ _ moves => absurd moves (Nat.lt_irrefl _)
  have number : waits.visit.tracker.heartbeats ∈ (waits.beat heartbeat).beats := .head _
  have counted : (waits.beat heartbeat).visit.tracker.heartbeats =
    waits.visit.tracker.heartbeats := rfl
  have visit : ((waits.beat heartbeat).answerBeat waits.visit.tracker.heartbeats).visit =
      _ := if_pos counted
  have answers := beaten.background (.answerBeat number) rfl rfl fun _ _ moves =>
    absurd moves (by rw [visit]; exact Nat.lt_irrefl _)
  refine ⟨_, by simpa [Happening.beat?] using answers, ?_, ?_⟩
  · rw [visit]
    rfl
  · rw [visit]
    change some { heartbeat with due := _, unanswered := false } = _
    rw [← answered]

/-- Whatever the steps are, the log is the schedule up to the last heartbeat, by induction on them.
-/
theorem Logs.onTime (logs : Logs Regular first log last)
    (reaches : Reaches (opening settings outside storage state) first) (positive : 0 < period)
    (onTime : first.OnTime id begun period 0) :
    ∃ count, log = schedule id begun period count ∧ last.OnTime id begun period count := by
  induction logs with
  | refl => exact ⟨0, rfl, onTime⟩
  | @step log middle last before next regular ih =>
      obtain ⟨count, rfl, onTime⟩ := ih
      rcases onTime.step positive (reaches.trans before.reaches) next regular with
        ⟨silent, onTime'⟩ | ⟨beats, onTime'⟩
      · exact ⟨count, by rw [silent, List.append_nil], onTime'⟩
      · exact ⟨count + 1, by rw [beats, Heartbeat.schedule_succ], onTime'⟩

/-- At a time for which timers can be set, with no heartbeat overdue, those sent are all whose times
have come. -/
theorem OnTime.lt_iff (onTime : last.OnTime id begun period count) (positive : 0 < period)
    (reach : WithinReach last.visit.settings.uptime last.visit.clock)
    (sent : last.visit.dueHeartbeat? = none) (index : Nat) :
    index < count ↔ timeOf begun period index ≤ last.visit.clock := by
  refine ⟨onTime.sent index, fun come => ?_⟩
  by_contra further
  have next := onTime.awaits.lt_due positive reach sent
  have later : timeOf begun period count ≤ timeOf begun period index :=
    Heartbeat.timeOf_le (Nat.le_of_not_lt further)
  omega

/-! ## The start -/

/-- That a step accepts the start of a visitor's session. -/
inductive Accepts (before : Course) (id : String) : Course → Prop
  | answer {number : Nat} {operation : Operation} {request : StartRequest}
      {next : Except ApiError SessionReport → Errand Outcome}
      (waits : ⟨number, operation, .calling (.service (.startSession id request)) next⟩ ∈
        before.waiting)
      (report : SessionReport) :
      Accepts before id
        (before.answer number operation (.service (.startSession id request)) next (.ok report))

/-- Accepting the start of a session is a step. -/
theorem Accepts.step (accepts : Accepts before id after) : Step before after := by
  cases accepts with
  | answer waits report => exact .answer waits _

/-- The heart begins to beat with the acceptance. -/
theorem Accepts.runs (accepts : Accepts before id after)
    (reaches : Reaches (opening settings outside storage state) before) :
    after.visit.tracker.heartbeat =
        some ⟨id, after.visit.clock + settings.heartbeatPeriod, settings.heartbeatPeriod, false⟩ ∧
      after.visit.tracker.ended = before.visit.tracker.ended := by
  cases accepts with
  | @answer number operation request next waits report =>
      have spares := (reaches.lawful Operation.observes_tends (.answer waits (.ok report))).spares
      have visit := answer_visit before number operation (.service (.startSession id request)) next
        (.ok report)
      generalize before.answer number operation (.service (.startSession id request)) next
        (.ok report) = begun at visit ⊢
      obtain ⟨phase, stands⟩ := reaches.poised _ waits
      cases stands with
      | calling other => cases other
      | @starting _ context _ rest after =>
          obtain ⟨views, _, stands⟩ := after.leaves_receiveStart_ok id report before.visit
          have tracker : begun.visit.tracker =
              (before.visit.beating id).tracker.viewing context.path := by
            rw [visit]
            exact views
          have clock : begun.visit.clock = before.visit.clock := by
            rw [visit]
            exact congrArg Outside.clock (spares (Operation.not_asksStart_of_stands stands)).outside
          constructor
          · rw [tracker, Tracker.viewing_heartbeat, Visit.beating, reaches.settings_eq, clock]
          · rw [tracker, Tracker.viewing_ended]
            rfl

/-- The accepted start of a session sets the first heartbeat a period later. -/
theorem Accepts.onTime (accepts : Accepts before id after)
    (reaches : Reaches (opening settings outside storage state) before)
    (goesOn : before.visit.tracker.ongoing? = some id) :
    after.OnTime id after.visit.clock settings.heartbeatPeriod 0 := by
  obtain ⟨runs, ended⟩ := accepts.runs reaches
  refine ⟨.beating false ?_ (fun _ => ?_) nofun, nofun, ?_⟩
  · simpa [timeOf] using runs
  · unfold timeOf
    omega
  · exact ended.trans (Tracker.ongoing?_eq_some_iff.1 goesOn).2

/-! ## The end -/

/-- A step that stops the heartbeat of a session leaves none. -/
theorem Halts.still (halts : Halts before after)
    (reaches : Reaches (opening settings outside storage state) before) (step : Step before after)
    (goesOn : before.visit.tracker.ended = false) : after.visit.tracker.heartbeat = none := by
  obtain ⟨number, operation, cue, cues, stops⟩ := halts
  cases step.progress with
  | piece proceeds resumes =>
      obtain ⟨rfl, rfl, rfl⟩ := cues.unique ⟨_, _, resumes, rfl⟩ reaches.numbered
      rw [pause_visit]
      exact (reaches.lawful Operation.observes_tends proceeds).halts stops goesOn
  | aside apart waiting background history =>
      exact absurd cues (not_cues_of_background background history)

/-- Where no heartbeat runs, none is sent, and none runs afterwards unless a start is accepted. -/
theorem Step.still (step : Step before after) (poised : before.Poised)
    (still : before.visit.tracker.heartbeat = none)
    (unaccepted : ∀ id, ¬ before.Accepts id after) :
    before.beaten after = [] ∧ after.visit.tracker.heartbeat = none := by
  cases step with
  | start operation =>
      obtain ⟨told, phase, tells⟩ := operation.tells_start before.visit
      refine ⟨Resumes.beaten_eq (.start operation), ?_⟩
      rw [Course.start, pause_visit]
      exact tells.goes.staysStill still nofun
  | @answer number operation call next waits answer =>
      obtain ⟨phase, stands⟩ := poised _ waits
      obtain ⟨told, phase', tells⟩ := Operation.tells_answer stands answer before.visit
      refine ⟨Resumes.beaten_eq (.answer waits answer), ?_⟩
      rw [answer_visit]
      refine tells.goes.staysStill still fun id context same => ?_
      cases stands with
      | calling | closing => cases same
      | starting after =>
          cases answer with
          | ok report => exact unaccepted _ (.answer waits report)
          | error error => cases same
  | wake waits due =>
      obtain ⟨phase, stands⟩ := poised _ waits
      obtain ⟨told, phase', tells⟩ := Operation.tells_wake stands before.visit
      refine ⟨Resumes.beaten_eq (.wake waits), ?_⟩
      rw [Course.wake, pause_visit]
      exact tells.goes.staysStill still nofun
  | beat due =>
      rw [Visit.dueHeartbeat?, still] at due
      cases due
  | answerBeat sent =>
      exact ⟨beaten_of_silent rfl rfl, (Visit.Idles.of_still (.answerBeat _) still).2⟩
  | giveUpBeat => exact ⟨beaten_of_silent rfl rfl, (Visit.Idles.of_still .giveUpBeat still).2⟩
  | changeOutside later => exact ⟨beaten_of_silent rfl rfl, still⟩

/-- Without an accepted start, a course without a heartbeat goes on without one. -/
theorem Logs.still
    (logs : Logs (fun before after => ∀ id, ¬ before.Accepts id after) first log last)
    (reaches : Reaches (opening settings outside storage state) first)
    (still : first.visit.tracker.heartbeat = none) :
    log = [] ∧ last.visit.tracker.heartbeat = none := by
  induction logs with
  | refl => exact ⟨rfl, still⟩
  | step before next unaccepted ih =>
      obtain ⟨rfl, still⟩ := ih
      obtain ⟨silent, still'⟩ := next.still (reaches.trans before.reaches).poised still unaccepted
      exact ⟨by rw [silent]; rfl, still'⟩

/-! ## The schedule -/

/-- When the start of a session is accepted that goes on, then its heartbeats are sent in the
background at the times of the schedule that have come, all for its visitor, and at no other times.
It does not matter what else is done in the meantime, or how the clock gets there, if it stops for
each heartbeat until that has been answered. Once the heartbeat is stopped or the session ended,
none is sent until another start is accepted. -/
theorem heartbeats_keep_schedule {first before begun : Course} {id : String}
    (begins : first = opening settings outside storage state)
    (positive : 0 < settings.heartbeatPeriod) (reaches : Reaches first before)
    (accepts : before.Accepts id begun) (goesOn : before.visit.tracker.ongoing? = some id) :
    (∀ log last, Logs Regular begun log last → WithinReach settings.uptime last.visit.clock →
      last.visit.dueHeartbeat? = none →
        ∃ count, log = schedule id begun.visit.clock settings.heartbeatPeriod count ∧
          ∀ index, index < count ↔
            timeOf begun.visit.clock settings.heartbeatPeriod index ≤ last.visit.clock) ∧
      ∀ log last halted later log', Logs Regular begun log last → Step last halted →
        Halts last halted → Logs (fun before after => ∀ id, ¬ before.Accepts id after) halted log'
          later → log' = [] := by
  subst begins
  have onTime := accepts.onTime reaches goesOn
  have reaches := reaches.step accepts.step
  constructor
  · intro log last logs reach sent
    obtain ⟨count, rfl, onTime⟩ := logs.onTime reaches positive onTime
    rw [← (reaches.trans logs.reaches).settings_eq] at reach
    exact ⟨count, rfl, onTime.lt_iff positive reach sent⟩
  · intro log last halted later log' logs next halts goesOn
    obtain ⟨count, rfl, onTime⟩ := logs.onTime reaches positive onTime
    have reaches := reaches.trans logs.reaches
    exact (goesOn.still (reaches.step next) (halts.still reaches next onTime.goesOn)).1

/-! ### A session that starts with the visit -/

/-- A visit that asks for the start of a session, with heartbeats at a distance. -/
def starting (period : Nat) : Course :=
  (opening { heartbeatPeriod := period } { random := Vector.replicate 16 0 } (.memory {} {})).start
    (.startTracking "visitor" {})

/-- A visit that asks for the start of a session is reached from its opening. -/
theorem reaches_starting (period : Nat) :
    Reaches
      (opening { heartbeatPeriod := period } { random := Vector.replicate 16 0 } (.memory {} {}))
      (starting period) :=
  .step .refl (.start _ _)

/-- The service accepts that start at once, and the heart begins to beat. -/
theorem exists_accepted (period : Nat) :
    ∃ begun, (starting period).Accepts "visitor" begun ∧ begun.visit.clock = 0 ∧
      begun.visit.tracker.heartbeat = some ⟨"visitor", 0 + period, period, false⟩ :=
  ⟨_, .answer (.head _) {}, rfl, rfl⟩

/-- One heartbeat is sent on time, and none after the heartbeat was stopped. -/
theorem heartbeat_is_sent_until_stopped :
    ∃ (begun last : Course),
      (starting 30000).Accepts "visitor" begun ∧
      (starting 30000).visit.tracker.ongoing? = some "visitor" ∧
      Logs Regular begun [⟨30000, "visitor"⟩] last ∧ WithinReach 0 last.visit.clock ∧
      last.visit.dueHeartbeat? = none ∧
      (∃ count, [⟨30000, "visitor"⟩] = schedule "visitor" begun.visit.clock 30000 count ∧
        ∀ index, index < count ↔ timeOf begun.visit.clock 30000 index ≤ last.visit.clock) ∧
      Halts last (last.start .stopHeartbeat) ∧
      ∀ log later, Logs (fun before after => ∀ id, ¬ before.Accepts id after)
        (last.start .stopHeartbeat) log later → log = [] := by
  obtain ⟨begun, accepts, clock, runs⟩ := exists_accepted 30000
  have goesOn : (starting 30000).visit.tracker.ongoing? = some "visitor" := by decide +kernel
  have reaches := (reaches_starting 30000).step accepts.step
  obtain ⟨last, logs, clock', runs'⟩ :=
    Logs.beat .refl runs (by rw [reaches.settings_eq]; decide +kernel) rfl (by omega)
  have reach : WithinReach 0 last.visit.clock := by
    rw [clock']
    unfold WithinReach
    decide +kernel
  have sent : last.visit.dueHeartbeat? = none := by
    unfold Visit.dueHeartbeat?
    rw [runs', clock', (reaches.trans logs.reaches).settings_eq]
    decide +kernel
  have halts : Halts last (last.start .stopHeartbeat) :=
    ⟨_, .stopHeartbeat, .go, ⟨_, _, .start _, rfl⟩, .own rfl⟩
  obtain ⟨keeps, stops⟩ :=
    heartbeats_keep_schedule rfl (by decide) (reaches_starting 30000) accepts goesOn
  exact ⟨begun, last, accepts, goesOn, logs, reach, sent, keeps _ _ logs reach sent, halts,
    fun log later goesOn => stops _ _ _ _ _ logs (.start _ _) halts goesOn⟩

end Course

end VisitorLink
