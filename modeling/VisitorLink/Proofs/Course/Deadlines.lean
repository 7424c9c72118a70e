import VisitorLink.Proofs.Course.Polling
import VisitorLink.Proofs.Course.Schedule
import VisitorLink.Proofs.Settings.Sources

/-!
# Deadlines within reach

Deadlines are counted from the start of the machine, and there is a limit that none may reach. The
settings that are accepted keep a request and the looks for the provider far from it. The distance
of the heartbeats is not bounded from above, and the first one may be set for a time beyond the
limit, where no timer goes off. Then the heartbeat is given up, although nobody has stopped it.

Main statement: however long the machine has run, in every course the heartbeat runs on until it is
stopped or another session starts exactly if the first one is set for a time below the limit
(`heartbeat_runs_on_iff`).
-/

namespace VisitorLink

open Errand
open Heartbeat (WithinReach)

/-! ## Times that settings bound -/

namespace Heartbeat

/-- That the machine has run for less than half of the time that a deadline may not reach. -/
def Early (uptime time : Nat) : Prop :=
  (uptime + time) / 1000 < deadlineLimit / 2

variable {uptime : Nat}

theorem Early.of_le {early late : Nat} (half : Early uptime late) (le : early ≤ late) :
    Early uptime early :=
  (Nat.div_le_div_right (Nat.add_le_add_left le uptime)).trans_lt half

/-- What lies ahead by less than the other half is within reach. -/
theorem Early.withinReach {time ahead : Nat} (early : Early uptime time)
    (short : ahead / 1000 + 1 < deadlineLimit / 2) : WithinReach uptime (time + ahead) := by
  unfold Early at early
  unfold WithinReach
  have seconds : (uptime + (time + ahead)) / 1000 ≤
      (uptime + time) / 1000 + ahead / 1000 + 1 := by omega
  omega

/-- So is what lies ahead by no more than the time so far. -/
theorem Early.withinReach_double {time late : Nat} (early : Early uptime time)
    (le : late ≤ 2 * time) : WithinReach uptime late := by
  unfold Early at early
  unfold WithinReach
  have seconds : (uptime + late) / 1000 ≤ 2 * ((uptime + time) / 1000) + 1 := by omega
  omega

theorem withinReach_add_seconds_iff (uptime time seconds : Nat) :
    WithinReach uptime (time + seconds * 1000) ↔
      (uptime + time) / 1000 + seconds < deadlineLimit := by
  unfold WithinReach
  rw [← Nat.add_assoc, Nat.add_mul_div_right _ _ (by decide)]

end Heartbeat

open Heartbeat (Early)

namespace ClientSettings

/-- That settings are accepted from an environment or from a document. -/
def IsAccepted (settings : ClientSettings) : Prop :=
  (∃ env, ofEnvironment env = .ok settings) ∨ ∃ document, ofDocument document = .ok settings

theorem inRange_of_check {settings accepted : ClientSettings} (ok : check settings = .ok accepted) :
    accepted.InRange := by
  unfold check at ok
  unfold InRange
  grind

theorem IsAccepted.inRange {settings : ClientSettings} (accepted : settings.IsAccepted) :
    settings.InRange := by
  rcases accepted with ⟨env, ok⟩ | ⟨document, ok⟩
  · simp only [ofEnvironment, bind, Except.bind] at ok
    repeat
      split at ok
      · cases ok
    exact inRange_of_check ok
  · unfold ofDocument at ok
    split at ok
    · exact inRange_of_check ok
    · cases ok

variable {uptime : Nat}

/-- A request that is made early ends within reach. -/
theorem InRange.withinReach_request {settings : ClientSettings} (range : settings.InRange)
    {now : Nat} (early : Early uptime now) :
    WithinReach uptime (now + settings.requestTimeout) := by
  have short : settings.requestTimeoutSecs.toNat ≤ 120 := UInt64.le_iff_toNat_le.1 range.2.1
  have all : WithinReach uptime (now + 120 * 1000) := early.withinReach (by decide +kernel)
  exact all.of_le (Nat.add_le_add_left (Nat.mul_le_mul_right 1000 short) now)

/-- The look that follows an early one is within reach. -/
theorem withinReach_detect (settings : ClientSettings) {now : Nat} (early : Early uptime now) :
    WithinReach uptime (now + settings.detectInterval) := by
  have short : settings.detectInterval < 2 ^ 64 := settings.detectIntervalMs.toNat_lt
  have all : WithinReach uptime (now + 2 ^ 64) := early.withinReach (by decide +kernel)
  exact all.of_le (Nat.add_le_add_left short.le now)

end ClientSettings

/-! ## A heartbeat that runs on -/

/-- That a heartbeat is going to be sent, at a first time or no further ahead than the clock has
come so far. -/
def Visit.BeatsFrom (visit : Visit) (first : Nat) : Prop :=
  ∃ heartbeat, visit.tracker.heartbeat = some heartbeat ∧ 0 < heartbeat.period ∧
    heartbeat.period ≤ heartbeat.due ∧ (heartbeat.due = first ∨ heartbeat.due ≤ 2 * visit.clock)

namespace Visit.BeatsFrom

variable {before after visit : Visit} {first : Nat}

theorem isBeating (beats : visit.BeatsFrom first) : visit.tracker.isBeating = true := by
  obtain ⟨heartbeat, runs, _⟩ := beats
  simp [Tracker.isBeating, runs]

/-- The clock may move on. -/
theorem later (beats : before.BeatsFrom first)
    (same : after.tracker.heartbeat = before.tracker.heartbeat)
    (later : before.clock ≤ after.clock) : after.BeatsFrom first := by
  obtain ⟨heartbeat, runs, positive, ahead, near⟩ := beats
  refine ⟨heartbeat, same.trans runs, positive, ahead, near.imp_right fun near => ?_⟩
  exact near.trans (Nat.mul_le_mul_left 2 later)

/-- A heartbeat that is sent is due, and the next one is not further ahead than it was. -/
theorem beat (beats : visit.BeatsFrom first) {heartbeat : Heartbeat}
    (sends : visit.dueHeartbeat? = some heartbeat) :
    (visit.sendHeartbeat heartbeat).BeatsFrom first := by
  obtain ⟨_, runs, positive, ahead, _⟩ := beats
  obtain ⟨running, ready⟩ := Option.filter_eq_some_iff.1 sends
  cases runs.symm.trans running
  have due : heartbeat.due ≤ visit.clock := of_decide_eq_true (Bool.and_eq_true_iff.1 ready).2
  have near : heartbeat.due + heartbeat.period ≤ 2 * visit.clock := by omega
  exact ⟨_, rfl, positive, Nat.le_add_left _ _, .inr near⟩

theorem answer (beats : visit.BeatsFrom first) (number : Nat) :
    (visit.answerHeartbeat number).BeatsFrom first := by
  unfold answerHeartbeat
  split
  · obtain ⟨heartbeat, runs, timed⟩ := beats
    refine ⟨{ heartbeat with unanswered := false }, ?_, timed⟩
    dsimp only
    rw [runs]
    rfl
  · exact beats

/-- A heartbeat within reach is not given up. -/
theorem giveUp (beats : visit.BeatsFrom first) (reach : WithinReach visit.settings.uptime first)
    (early : Early visit.settings.uptime visit.clock) : visit.giveUpHeartbeat.BeatsFrom first := by
  obtain ⟨heartbeat, runs, positive, ahead, near⟩ := beats
  have within : WithinReach visit.settings.uptime heartbeat.due := by
    rcases near with rfl | near
    · exact reach
    · exact early.withinReach_double near
  refine ⟨heartbeat, ?_, positive, ahead, near⟩
  unfold giveUpHeartbeat
  dsimp only
  rw [runs, Option.filter_some, if_pos (Heartbeat.canBeTimed_iff.2 ⟨positive, within⟩)]

end Visit.BeatsFrom

namespace Course

variable {settings : VisitSettings} {outside : Outside} {storage : Storage} {state : State}
  {before after begun last : Course} {first : Nat} {id : String}

theorem Continues.clock_le (continues : before.Continues after) :
    before.visit.clock ≤ after.visit.clock := by
  cases continues with
  | turn ambles => exact ambles.clock.ge
  | beat due => exact Nat.le_refl _
  | answerBeat number => exact (before.visit.answerHeartbeat_clock number).ge
  | giveUpBeat => exact Nat.le_refl _
  | changeOutside later => exact later

/-- A heartbeat whose first time is within reach is neither stopped nor given up by a step that does
not end the session or start another one. -/
theorem Continues.beatsFrom (continues : before.Continues after)
    (reach : WithinReach before.visit.settings.uptime first)
    (early : Early before.visit.settings.uptime before.visit.clock)
    (beats : before.visit.BeatsFrom first) : after.visit.BeatsFrom first := by
  cases continues with
  | turn ambles => exact beats.later ambles.heartbeat ambles.clock.ge
  | beat due => exact beats.beat due
  | answerBeat number => exact beats.answer number
  | giveUpBeat => exact beats.giveUp reach early
  | changeOutside later => exact beats.later rfl later

theorem Runs.beatsFrom (runs : Runs Unbroken begun last)
    (reaches : Reaches (opening settings outside storage state) begun)
    (reach : WithinReach settings.uptime first) (beats : begun.visit.BeatsFrom first)
    (early : Early settings.uptime last.visit.clock) : last.visit.BeatsFrom first := by
  induction runs with
  | refl => exact beats
  | @step middle last before next unbroken ih =>
      have reaches := reaches.trans before.reaches
      have continues := unbroken.continues next reaches
      have early := early.of_le continues.clock_le
      have beats := ih early
      rw [← reaches.settings_eq] at reach early
      exact continues.beatsFrom reach early beats

/-- A session that was accepted early has its heartbeat until the session is over, if the first
heartbeat is within reach; otherwise no timer is set for it. -/
theorem Accepts.beats_iff (accepts : Accepts before id begun)
    (reaches : Reaches (opening settings outside storage state) before)
    (positive : 0 < settings.heartbeatPeriod) (early : Early settings.uptime begun.visit.clock) :
    (∀ last, Runs Unbroken begun last → Early settings.uptime last.visit.clock →
      last.visit.tracker.isBeating = true) ↔
        WithinReach settings.uptime (begun.visit.clock + settings.heartbeatPeriod) := by
  obtain ⟨runs, _⟩ := accepts.runs reaches
  have reaches := reaches.step accepts.step
  constructor
  · intro goesOn
    by_contra beyond
    have uptime : settings.uptime = begun.visit.settings.uptime := by rw [reaches.settings_eq]
    rw [uptime] at beyond
    -- the heartbeat is given up at once
    have gone : begun.giveUpBeat.visit.tracker.heartbeat = none := by
      refine (congrArg (Option.filter _) runs).trans ?_
      rw [Option.filter_some, if_neg fun timed => beyond (Heartbeat.canBeTimed_iff.1 timed).2]
    have beats := goesOn _ (.step .refl (.giveUpBeat begun) (unbroken_of_background rfl rfl)) early
    rw [Tracker.isBeating, gone] at beats
    cases beats
  · intro reach last goesOn early
    have beats : begun.visit.BeatsFrom (begun.visit.clock + settings.heartbeatPeriod) :=
      ⟨_, runs, positive, Nat.le_add_left _ _, .inl rfl⟩
    exact (goesOn.beatsFrom reaches reach beats early).isBeating

/-- Polling sleeps until the next look, an interval after the last one. -/
theorem Polling.exists_wakeUp_eq {attempts interval : Nat} {looks : List Look} {first : Course}
    (polling : first.Polling attempts interval looks last)
    (reaches : Reaches (opening settings outside storage state) first) (some : 0 < attempts)
    (positive : 0 < interval) {wakeUp : Nat} {next : Errand Outcome}
    (waits : ⟨first.started, .poll attempts interval, .sleeping wakeUp next⟩ ∈ last.waiting) :
    ∃ look ∈ looks, wakeUp = look.before.clock + interval := by
  obtain ⟨paused, stands, paced⟩ := polling.paced reaches.numbered reaches.settled some positive
  obtain ⟨_, rfl, _⟩ := stands.waits_iff.1 waits
  obtain ⟨look, _, final, _, rests⟩ := paced.rests
  have mem := List.mem_of_getLast? final
  have more := List.length_pos_of_mem mem
  rw [List.getLast?_eq_getElem?] at final
  refine ⟨look, mem, ?_⟩
  cases rests with
  | sleeps left =>
      rw [paced.onTime _ _ final, Nat.add_assoc, ← Nat.succ_mul, Nat.succ_eq_add_one,
        Nat.sub_add_cancel more]

/-! ## Accepted settings -/

/-- However long the machine has run, every deadline that comes from accepted settings can be
reached, of a request as well as of the looks of polling, save that of the first heartbeat. After
the start of a session is accepted, the heartbeat runs on until it is stopped or another session
starts exactly if that one can be reached too. -/
theorem heartbeat_runs_on_iff {client : ClientSettings} (accepted : client.IsAccepted) :
    (∀ uptime now, Early uptime now → WithinReach uptime (now + client.requestTimeout)) ∧
      (∀ {settings outside storage state first looks last},
        Reaches (opening settings outside storage state) first →
        first.Polling client.detectAttempts.toNat client.detectInterval looks last →
        ∀ uptime wakeUp next, (∀ look ∈ looks, Early uptime look.before.clock) →
          ⟨first.started, .poll client.detectAttempts.toNat client.detectInterval,
            .sleeping wakeUp next⟩ ∈ last.waiting →
          WithinReach uptime wakeUp) ∧
      ∀ {settings outside storage state before id begun},
        settings.heartbeatPeriod = client.heartbeatPeriod →
        Reaches (opening settings outside storage state) before → before.Accepts id begun →
        Early settings.uptime begun.visit.clock →
          ((∀ last, Runs Unbroken begun last → Early settings.uptime last.visit.clock →
            last.visit.tracker.isBeating = true) ↔
              (settings.uptime + begun.visit.clock) / 1000 + client.heartbeatSecs.toNat <
                Heartbeat.deadlineLimit) := by
  obtain ⟨_, _, heartbeat, interval, attempts⟩ := accepted.inRange
  refine ⟨fun uptime now early => accepted.inRange.withinReach_request early, ?_, ?_⟩
  · intro settings outside storage state first looks last reaches polling uptime wakeUp next early
      waits
    have more : 0 < client.detectAttempts.toNat :=
      Nat.pos_of_ne_zero fun none => attempts (UInt32.toNat_inj.1 none)
    have positive : 0 < client.detectInterval :=
      Nat.pos_of_ne_zero fun none => interval (UInt64.toNat_inj.1 none)
    obtain ⟨look, mem, rfl⟩ := polling.exists_wakeUp_eq reaches more positive waits
    exact client.withinReach_detect (early look mem)
  · intro settings outside storage state before id begun same reaches accepts early
    have positive : 0 < client.heartbeatSecs.toNat :=
      Nat.pos_of_ne_zero fun none => heartbeat (UInt64.toNat_inj.1 none)
    have period : settings.heartbeatPeriod = client.heartbeatSecs.toNat * 1000 := same
    rw [accepts.beats_iff reaches (by omega) early, period,
      Heartbeat.withinReach_add_seconds_iff]

/-- The longest distance between heartbeats is accepted, and then the first one is beyond reach. -/
theorem heartbeat_is_given_up_for_longest_distance :
    ∃ (client : ClientSettings) (begun last : Course), client.IsAccepted ∧
      client.heartbeatSecs.toNat = 18446744073709551615 ∧
      (starting client.heartbeatPeriod).Accepts "visitor" begun ∧ Early 0 begun.visit.clock ∧
      ¬ (0 + begun.visit.clock) / 1000 + client.heartbeatSecs.toNat < Heartbeat.deadlineLimit ∧
      Runs Unbroken begun last ∧ Early 0 last.visit.clock ∧
      last.visit.tracker.isBeating = false := by
  let client : ClientSettings := { heartbeatSecs := 18446744073709551615 }
  have accepted : client.IsAccepted := by
    refine .inr ⟨client.toJson.compact, ?_⟩
    rw [ClientSettings.ofDocument_compact]
    decide +kernel
  obtain ⟨begun, accepts, clock, _⟩ := exists_accepted client.heartbeatPeriod
  have early : Early 0 begun.visit.clock := by
    rw [clock]
    unfold Early
    decide +kernel
  have beyond : ¬ (0 + begun.visit.clock) / 1000 + client.heartbeatSecs.toNat <
      Heartbeat.deadlineLimit := by
    rw [clock]
    decide +kernel
  obtain ⟨_, _, runsOn⟩ := heartbeat_runs_on_iff accepted
  have stops := mt (runsOn rfl (reaches_starting _) accepts early).1 beyond
  push Not at stops
  obtain ⟨last, runs, early', still⟩ := stops
  exact ⟨client, begun, last, accepted, rfl, accepts, early, beyond, runs, early',
    eq_false_of_ne_true still⟩

end Course

end VisitorLink
