import VisitorLink.Proofs.Course.Progress
import VisitorLink.Proofs.Visit.Polling

/-!
# Polling in the course of a visit

An operation that polls is followed through a course in which other operations go on, the outside
changes, and the visit may even become any other while polling sleeps (`Course.Polling`). All that
is asked of the course is that timers go off on time.

Main statement: polling looks so many times at most, each time on time, asks for nothing but the
presence of the provider, and ends with the first look that comes upon a wallet or with the last one
(`polling_ends_with_first_wallet`).
-/

namespace VisitorLink

/-- What comes of a look is told by the visits before and after it. -/
theorem Look.Brings.unique {look : Look} {outcome other : PollOutcome}
    (brings : look.Brings outcome) (brings' : look.Brings other) : outcome = other := by
  have clash {connected : Option String} (isSome : connected.isSome = true)
      (isNone : connected = none) : False := by
    rw [isNone] at isSome
    cases isSome
  cases brings with
  | spared spared =>
      cases brings' with
      | spared => rfl
      | found finds => exact (clash spared.connected finds.unconnected).elim
      | vain vain => exact (clash spared.connected vain.unconnected).elim
  | found finds =>
      cases brings' with
      | spared spared => exact (clash spared.connected finds.unconnected).elim
      | found finds' =>
          cases finds.found.reported.symm.trans finds'.found.reported
          rfl
      | vain vain => exact absurd finds.found (vain.hidden _)
  | vain vain =>
      cases brings' with
      | spared spared => exact (clash spared.connected vain.unconnected).elim
      | found finds => exact absurd finds.found (vain.hidden _)
      | vain => rfl

namespace Course

variable {first course after last : Course} {number other attempts interval : Nat}
  {operation : Operation} {paused : Errand.Paused Outcome} {looks : List Look}

/-! ## Where an operation stands -/

/-- Where one operation of a course stands: the operation waits like this, or it has ended so. -/
structure StandsAt (course : Course) (number : Nat) (operation : Operation)
    (paused : Errand.Paused Outcome) : Prop where
  numbered : course.Numbered
  lt_started : number < course.started
  waits_iff : ∀ {other : Operation} {paused' : Errand.Paused Outcome},
    ⟨number, other, paused'⟩ ∈ course.waiting ↔
      other = operation ∧ paused' = paused ∧ ∀ outcome, paused ≠ .finished outcome
  ended_iff : ∀ {outcome : Outcome},
    .ended number outcome ∈ course.history ↔ paused = .finished outcome

theorem StandsAt.waits (stands : course.StandsAt number operation paused)
    (goesOn : ∀ outcome, paused ≠ .finished outcome) :
    ⟨number, operation, paused⟩ ∈ course.waiting :=
  stands.waits_iff.2 ⟨rfl, rfl, goesOn⟩

/-- After its turn, an operation that has not ended before stands where the piece left it. -/
theorem Resumes.standsAt {resumed : Course} {cue : Cue}
    (resumes : Resumes course number operation cue resumed) (numbered : course.Numbered)
    (going : ∀ outcome, .ended number outcome ∉ course.history)
    (piece : Errand.Paused Outcome × Visit) :
    (resumed.pause number operation piece).StandsAt number operation piece.1 where
  numbered := by
    refine Numbered.pause ?_ (resumes.lt_started numbered) (resumes.fresh numbered) _ _
    cases resumes with
    | start operation =>
        exact ⟨numbered.1, fun number mem => Nat.lt_succ_of_lt (numbered.2 number mem)⟩
    | answer waits answer => exact ⟨(numbered.without _).1, (numbered.without _).2⟩
    | wake waits => exact ⟨(numbered.without _).1, (numbered.without _).2⟩
  lt_started := (pause_started _ _ _ _).symm ▸ resumes.lt_started numbered
  waits_iff {other paused'} := by
    constructor
    · intro mem
      rcases mem_waiting_pause mem with mem | ⟨same, goesOn⟩
      · exact absurd (List.mem_map_of_mem mem) (resumes.fresh numbered)
      · cases same
        exact ⟨rfl, rfl, goesOn⟩
    · rintro ⟨rfl, rfl, goesOn⟩
      exact mem_waiting_pause_self _ _ _ goesOn
  ended_iff {outcome} := by
    rw [resumes.mem_pause_history_iff rfl]
    constructor
    · rintro (mem | mem)
      · exact absurd mem (going outcome)
      · exact (eq_of_ended_mem_pauseNote mem).2
    · intro ends
      rw [ends]
      exact .inr (List.mem_singleton.2 rfl)

/-- The turn of another operation leaves an operation where it stands. -/
theorem StandsAt.turn (stands : course.StandsAt number operation paused) {operation' : Operation}
    {resumed : Course} {cue : Cue} (resumes : Resumes course other operation' cue resumed)
    (distinct : other ≠ number) (piece : Errand.Paused Outcome × Visit)
    (numbered : (resumed.pause other operation' piece).Numbered) :
    (resumed.pause other operation' piece).StandsAt number operation paused where
  numbered := numbered
  lt_started := by
    rw [pause_started]
    exact Nat.lt_of_lt_of_le stands.lt_started resumes.started_le
  waits_iff {_ _} := by
    rw [← stands.waits_iff]
    constructor
    · intro mem
      rcases mem_waiting_pause mem with mem | ⟨same, _⟩
      · exact resumes.mem_waiting mem
      · exact absurd (congrArg Waiting.number same).symm distinct
    · intro mem
      exact mem_waiting_pause_of_mem (resumes.mem_waiting_of_ne mem distinct.symm) _ _ _
  ended_iff {outcome} := by
    rw [← stands.ended_iff, resumes.mem_pause_history_iff rfl]
    refine ⟨?_, .inl⟩
    rintro (mem | mem)
    · exact mem
    · exact absurd (eq_of_ended_mem_pauseNote mem).1.symm distinct

theorem StandsAt.aside (stands : course.StandsAt number operation paused)
    {happening : Happening} (waiting : after.waiting = course.waiting)
    (started : after.started = course.started) (aside : happening.isAside = true)
    (history : after.history = course.history ++ [happening]) :
    after.StandsAt number operation paused where
  numbered := by
    refine ⟨?_, ?_⟩
    · rw [numbers, waiting]
      exact stands.numbered.nodup
    · rw [numbers, waiting, started]
      exact stands.numbered.lt_started
  lt_started := started.symm ▸ stands.lt_started
  waits_iff := by
    rw [waiting]
    exact stands.waits_iff
  ended_iff := (mem_history_iff_of_aside aside history rfl).trans stands.ended_iff

/-- A step leaves an operation where it stands unless it sets it going. -/
theorem StandsAt.step (stands : course.StandsAt number operation paused)
    (step : Step course after)
    (distinct : ∀ operation cue, ¬ Cues course after number operation cue) :
    after.StandsAt number operation paused := by
  have numbered := stands.numbered.step step
  have others {other : Nat} {operation' : Operation} {cue : Cue} {resumed : Course}
      {piece : Errand.Paused Outcome × Visit}
      (resumes : Resumes course other operation' cue resumed)
      (same : after = resumed.pause other operation' piece) : other ≠ number := by
    rintro rfl
    exact distinct _ _ ⟨_, _, resumes, same⟩
  cases step with
  | start operation' => exact stands.turn (.start operation') (others (.start _) rfl) _ numbered
  | answer waits answer =>
      exact stands.turn (.answer waits answer) (others (.answer waits answer) rfl) _ numbered
  | wake waits due => exact stands.turn (.wake waits) (others (.wake waits) rfl) _ numbered
  | beat due => exact stands.aside rfl rfl rfl rfl
  | answerBeat sent => exact stands.aside rfl rfl rfl rfl
  | giveUpBeat => exact stands.aside rfl rfl rfl rfl
  | changeOutside later => exact stands.aside rfl rfl rfl rfl

/-! ## Polling -/

/-- The course of a visit from the moment an operation starts to poll, with the looks that it has
made. It is woken at the times that it sets. Anything else may happen meanwhile, also to the visit
without any step of the course. -/
inductive Polling (first : Course) (attempts interval : Nat) : List Look → Course → Prop
  | start : Polling first attempts interval
      [⟨first.visit, (first.start (.poll attempts interval)).visit⟩]
      (first.start (.poll attempts interval))
  | wake {looks : List Look} {course : Course} {wakeUp : Nat} {next : Errand Outcome}
      (before : Polling first attempts interval looks course)
      (waits : ⟨first.started, .poll attempts interval, .sleeping wakeUp next⟩ ∈ course.waiting)
      (onTime : course.visit.clock = wakeUp) :
      Polling first attempts interval
        (looks ++ [⟨course.visit,
          (course.wake first.started (.poll attempts interval) next).visit⟩])
        (course.wake first.started (.poll attempts interval) next)
  | other {looks : List Look} {course after : Course}
      (before : Polling first attempts interval looks course) (step : Step course after)
      (other : ∀ operation cue, ¬ Cues course after first.started operation cue) :
      Polling first attempts interval looks after
  | change {looks : List Look} {course : Course}
      (before : Polling first attempts interval looks course) (visit : Visit) :
      Polling first attempts interval looks { course with visit := visit }

/-- Polling keeps its pace, and stands in the course where its last look left it. -/
theorem Polling.paced (numbered : first.Numbered) (settled : first.Settled) (some : 0 < attempts)
    (positive : 0 < interval) (polling : first.Polling attempts interval looks last) :
    ∃ paused, last.StandsAt first.started (.poll attempts interval) paused ∧
      Errand.Paced first.visit.clock interval attempts looks paused := by
  induction polling with
  | start =>
      have going (outcome : Outcome) : .ended first.started outcome ∉ first.history :=
        fun mem => Nat.lt_irrefl _ (settled _ _ mem).1
      refine ⟨_, (Resumes.start _).standsAt numbered going _, ?_⟩
      rw [Course.start, pause_visit]
      exact .start positive some rfl
  | @wake looks course wakeUp next before waits onTime ih =>
      obtain ⟨paused, stands, paced⟩ := ih
      obtain ⟨_, rfl, _⟩ := stands.waits_iff.1 waits
      have going (outcome : Outcome) : .ended first.started outcome ∉ course.history :=
        fun mem => nomatch stands.ended_iff.1 mem
      refine ⟨_, (Resumes.wake waits).standsAt stands.numbered going _, ?_⟩
      rw [Course.wake, pause_visit]
      exact paced.wake positive onTime rfl
  | other before step other ih =>
      obtain ⟨paused, stands, paced⟩ := ih
      exact ⟨paused, stands.step step other, paced⟩
  | change before visit ih =>
      obtain ⟨paused, ⟨numbered, lt_started, waits_iff, ended_iff⟩, paced⟩ := ih
      exact ⟨paused, ⟨⟨numbered.1, numbered.2⟩, lt_started, waits_iff, ended_iff⟩, paced⟩

/-- No step of the course is left out: one that sets polling going wakes it. -/
theorem Polling.woken (numbered : first.Numbered) (settled : first.Settled) (some : 0 < attempts)
    (positive : 0 < interval) (polling : first.Polling attempts interval looks course)
    (step : Step course after) {cue : Cue} (cues : Cues course after first.started operation cue) :
    ∃ wakeUp next,
      ⟨first.started, .poll attempts interval, .sleeping wakeUp next⟩ ∈ course.waiting ∧
        wakeUp ≤ course.visit.clock ∧
        after = course.wake first.started (.poll attempts interval) next := by
  obtain ⟨paused, stands, paced⟩ := polling.paced numbered settled some positive
  have noted {happening : Happening} (history : after.history = course.history ++ [happening])
      (background : happening.isBackground = true) : False :=
    not_cues_of_background background history cues
  cases step with
  | start operation' =>
      obtain ⟨same, _⟩ := cues.unique ⟨_, _, .start operation', rfl⟩ stands.numbered
      exact absurd stands.lt_started (same ▸ Nat.lt_irrefl _)
  | answer waits answer =>
      obtain ⟨rfl, _⟩ := cues.unique ⟨_, _, .answer waits answer, rfl⟩ stands.numbered
      obtain ⟨_, rfl, _⟩ := stands.waits_iff.1 waits
      obtain ⟨_, _, _, _, rests⟩ := paced.rests
      cases rests
  | wake waits due =>
      obtain ⟨rfl, _⟩ := cues.unique ⟨_, _, .wake waits, rfl⟩ stands.numbered
      obtain ⟨rfl, _, _⟩ := stands.waits_iff.1 waits
      exact ⟨_, _, waits, due, rfl⟩
  | beat due => exact (noted rfl rfl).elim
  | answerBeat sent => exact (noted rfl rfl).elim
  | giveUpBeat => exact (noted rfl rfl).elim
  | changeOutside later => exact (noted rfl rfl).elim

/-- What can be told of polling by the looks that it has made. -/
structure Polled (first : Course) (attempts interval : Nat) (looks : List Look) (last : Course) :
    Prop where
  bounded : looks.length ≤ attempts
  onTime : ∀ tick look, looks[tick]? = some look →
    look.before.clock = first.visit.clock + tick * interval
  discreet : ∀ look ∈ looks, look.IsDiscreet
  /-- Polling has gone on after looks in vain only. -/
  vain : ∀ look ∈ looks.dropLast, look.IsVain
  /-- The last look ends polling, unless it is in vain and attempts are left. -/
  ended : ∃ look, looks.getLast? = some look ∧
    ∀ outcome, .ended first.started outcome ∈ last.history ↔
      ∃ result, look.Brings result ∧ outcome = .poll result ∧
        ∀ present, result = .exhausted present → looks.length = attempts
  /-- Polling that has not ended sleeps until its next time. -/
  sleeps : (∀ outcome, .ended first.started outcome ∉ last.history) →
    ∃ next, ⟨first.started, .poll attempts interval,
      .sleeping (first.visit.clock + looks.length * interval) next⟩ ∈ last.waiting

variable {settings : VisitSettings} {outside : Outside} {storage : Storage} {state : State}

/-- Polling ends with the first look that comes upon a wallet, or with the last of its attempts. -/
theorem polling_ends_with_first_wallet
    (reaches : Reaches (opening settings outside storage state) first) (some : 0 < attempts)
    (positive : 0 < interval) (polling : first.Polling attempts interval looks last) :
    Polled first attempts interval looks last := by
  obtain ⟨paused, stands, paced⟩ :=
    polling.paced reaches.numbered reaches.settled some positive
  obtain ⟨look, outcome, final, brings, rests⟩ := paced.rests
  refine ⟨paced.bounded, paced.onTime, paced.discreet, paced.vain, ⟨look, final, ?_⟩, ?_⟩
  · intro ending
    rw [stands.ended_iff]
    cases rests with
    | ends used =>
        constructor
        · intro same
          cases same
          exact ⟨_, brings, rfl, used⟩
        · rintro ⟨result, brings', rfl, _⟩
          rw [brings.unique brings']
    | sleeps left =>
        refine ⟨nofun, ?_⟩
        rintro ⟨result, brings', rfl, used⟩
        cases brings.unique brings'
        exact absurd (used _ rfl) (Nat.ne_of_lt left)
  · intro going
    cases rests with
    | ends used => exact absurd (stands.ended_iff.2 rfl) (going _)
    | sleeps left => exact ⟨_, stands.waits fun _ => nofun⟩

/-- The provider turns up with a wallet while polling sleeps. -/
theorem wallet_found_by_second_look :
    ∃ first last : Course, ∃ looks : List Look, ∃ outside, ∃ storage,
      Reaches (opening {} outside storage) first ∧ first.Polling 3 500 looks last ∧
        Polled first 3 500 looks last ∧ looks.length = 2 ∧
        .ended first.started (.poll (.addressFound "TAddr1")) ∈ last.history := by
  let outside : Outside := { providerPresent := false, random := Vector.replicate 16 0 }
  let shown : Outside :=
    { outside with providerPresent := true, providerAddress := some "TAddr1", clock := 500 }
  let first := opening {} outside (.memory {} {})
  let asleep := first.start (.poll 3 500)
  let shows := asleep.changeOutside shown
  obtain ⟨next, waits, finds⟩ : ∃ next : Errand Outcome,
      ⟨0, .poll 3 500, .sleeping 500 next⟩ ∈ shows.waiting ∧
        (next.run shows.visit).1 = .finished (.poll (.addressFound "TAddr1")) :=
    ⟨_, List.mem_singleton.2 rfl, rfl⟩
  have appears : first.Polling 3 500 _ shows :=
    .other .start (.changeOutside (by decide)) fun _ _ cues =>
      not_cues_of_background rfl rfl cues
  have polling : first.Polling 3 500 _ (shows.wake 0 (.poll 3 500) next) :=
    .wake appears waits rfl
  have reaches : Reaches (opening {} outside (.memory {} {})) first := .refl
  refine ⟨first, _, _, outside, _, reaches, polling,
    polling_ends_with_first_wallet reaches (by decide) (by decide) polling, rfl, ?_⟩
  rw [Course.wake, pause_history, finds]
  exact List.mem_append_right _ (List.mem_singleton.2 rfl)

end Course

end VisitorLink
