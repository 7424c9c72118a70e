import VisitorLink.Proofs.Conduct.Operations
import VisitorLink.Proofs.Course.Progress

/-!
# One call for each address

The service is asked to link an address once, by whichever operation and on behalf of whichever
visitor, until the address is forgotten. An address counts as tried from the call on, whatever
becomes of the answer.

Main statements: between two calls about an address it was forgotten
(`asked_again_only_after_forgetting`), and an operation ends because the service has been asked
already exactly if there was such a call since the address was last forgotten
(`repeated_iff_asked_since_forgotten`).
-/

namespace VisitorLink

open Errand

/-- Whether an operation asks the service to link an address. -/
def Happening.asksAbout (address : String) : Happening → Bool
  | .asked _ (.service (.connectWallet _ other)) => other == address
  | _ => false

/-- What is no call is about no address. -/
theorem Happening.not_asksAbout_of_aside {happening : Happening} (aside : happening.isAside = true)
    (address : String) : happening.asksAbout address = false := by
  cases happening <;> first | rfl | cases aside

namespace Course

/-! ## Steps -/

/-- That an operation has asked the service to link an address in the last step of a course. -/
def AsksAbout (course : Course) (address : String) : Prop :=
  ∃ number id, course.Sends number (.service (.connectWallet id address))

/-- That a step makes the visit forget that the service was asked to link an address. -/
def Forgets (address : String) (before after : Course) : Prop :=
  ∃ number operation cue, Cues before after number operation cue ∧
    before.visit.Forgets address operation cue

variable {before after : Course} {address : String} {settings : VisitSettings} {outside : Outside}
  {storage : Storage} {state : State}

/-- A turn forgets an address if its cue does. -/
theorem Resumes.forgets_iff {number : Nat} {operation : Operation} {cue : Cue} {resumed : Course}
    (resumes : Resumes before number operation cue resumed) (numbered : before.Numbered)
    (piece : Errand.Paused Outcome × Visit) :
    Forgets address before (resumed.pause number operation piece) ↔
      before.visit.Forgets address operation cue := by
  have cues : Cues before (resumed.pause number operation piece) number operation cue :=
    ⟨resumed, piece, resumes, rfl⟩
  constructor
  · rintro ⟨number', operation', cue', cues', forgets⟩
    obtain ⟨-, rfl, rfl⟩ := cues.unique cues' numbered
    exact forgets
  · intro forgets
    exact ⟨number, operation, cue, cues, forgets⟩

/-- A turn asks about an address if it stops at that request. -/
theorem Resumes.asksAbout_iff {number : Nat} {operation : Operation} {cue : Cue} {resumed : Course}
    (resumes : Resumes before number operation cue resumed)
    (piece : Errand.Paused Outcome × Visit) :
    (resumed.pause number operation piece).AsksAbout address ↔ AsksToLink address piece.1 := by
  rcases piece with ⟨paused, visit⟩
  constructor
  · rintro ⟨other, id, sends⟩
    obtain ⟨rfl, next, stops⟩ := resumes.of_sends sends
    cases stops
    exact rfl
  · intro asks
    cases paused with
    | finished outcome => exact asks.elim
    | sleeping wakeUp next => exact asks.elim
    | calling call next =>
        cases call with
        | provider call => exact asks.elim
        | service call =>
            cases call with
            | connectWallet id other =>
                cases asks
                exact ⟨number, id, sends_pause _ _ _ _ _ _⟩
            | _ => exact asks.elim

/-- In one step, an address counts as tried once it is asked about and until it is forgotten, and
what counts as tried is not asked about. -/
theorem Step.attempts (step : Step before after)
    (reaches : Reaches (opening settings outside storage state) before) (address : String) :
    (address ∈ after.visit.attempted ↔
      (address ∈ before.visit.attempted ∧ ¬ Forgets address before after) ∨
        after.AsksAbout address) ∧
    (after.AsksAbout address → address ∉ before.visit.attempted) := by
  cases step.progress with
  | piece proceeds resumes =>
      have conduct := (reaches.lawful Operation.observes_conduct proceeds).attempts
      rw [pause_visit, resumes.forgets_iff reaches.numbered, resumes.asksAbout_iff]
      exact ⟨conduct.mem_iff address, conduct.fresh address⟩
  | aside apart waiting background history =>
      have silent : ¬ after.AsksAbout address := by
        rintro ⟨number, id, sends⟩
        exact not_sends_of_background background history _ _ sends
      have remembers : ¬ Forgets address before after := by
        rintro ⟨number, operation, cue, cues, _⟩
        exact not_cues_of_background background history cues
      rw [apart.attempted]
      simp [silent, remembers]

/-! ## Runs without forgetting -/

/-- That a course goes on to another one without forgetting an address. -/
abbrev Remembers (address : String) : Course → Course → Prop :=
  Runs fun before after => ¬ Forgets address before after

variable {first last : Course}

/-- While it is not forgotten, an address that was tried stays so. -/
theorem Remembers.mem (remembers : Remembers address first last)
    (reaches : Reaches (opening settings outside storage state) first)
    (tried : address ∈ first.visit.attempted) : address ∈ last.visit.attempted := by
  induction remembers with
  | refl => exact tried
  | step before next kept ih =>
      have reached := reaches.trans before.reaches
      exact ((next.attempts reached address).1).2 (.inl ⟨ih, kept⟩)

/-- What asks about an address waits for the decision. -/
theorem asksToLink_of_asksAbout {number : Nat} {call : Call} {next : call.Answer → Errand Outcome}
    (asks : (Happening.asked number call).asksAbout address = true) :
    AsksToLink address (.calling call next) := by
  cases call with
  | provider call => cases asks
  | service call =>
      cases call with
      | connectWallet id other => exact beq_iff_eq.1 asks
      | _ => cases asks

/-- What a step adds to the history asks about an address once at most. -/
theorem Step.asksAbout_count (step : Step before after) (address : String) :
    ∃ added, after.history = before.history ++ added ∧
      (added.countP (Happening.asksAbout address) = 0 ∨
        added.countP (Happening.asksAbout address) = 1 ∧ after.AsksAbout address) := by
  cases step.progress with
  | @piece number operation cue resumed piece proceeds resumes =>
      obtain ⟨happening, aside, history⟩ := resumes.history_eq
      have silent := Happening.not_asksAbout_of_aside aside address
      refine ⟨happening :: pauseNote number piece.1, ?_, ?_⟩
      · rw [pause_history, history, List.append_assoc]
        rfl
      rw [List.countP_cons_of_neg (by simp [silent])]
      cases stops : piece.1 with
      | finished outcome => exact .inl rfl
      | sleeping wakeUp next => exact .inl rfl
      | calling call next =>
          by_cases asks : (Happening.asked number call).asksAbout address = true
          · refine .inr ⟨by simp [pauseNote, asks], (resumes.asksAbout_iff piece).2 ?_⟩
            rw [stops]
            exact asksToLink_of_asksAbout asks
          · exact .inl (by simp [pauseNote, asks])
  | @aside _ happening apart waiting background history =>
      refine ⟨[happening], history, .inl ?_⟩
      have silent : happening.asksAbout address = false := by
        cases happening <;> first | rfl | cases background
      simp [silent]

/-- While an address is not forgotten, it is asked about once at most, by induction on the steps. -/
theorem Remembers.asks_once (remembers : Remembers address first last)
    (reaches : Reaches (opening settings outside storage state) first) :
    ∃ added, last.history = first.history ++ added ∧
      added.countP (Happening.asksAbout address) ≤
        if address ∈ last.visit.attempted then 1 else 0 := by
  induction remembers with
  | refl => exact ⟨[], (List.append_nil _).symm, Nat.zero_le _⟩
  | @step middle last before next kept ih =>
      obtain ⟨added, history, bound⟩ := ih
      obtain ⟨more, history', asks⟩ := next.asksAbout_count address
      have attempts := next.attempts (reaches.trans before.reaches) address
      refine ⟨added ++ more, by rw [history', history, List.append_assoc], ?_⟩
      rw [List.countP_append]
      rcases asks with none | ⟨one, asks⟩
      · rw [none, Nat.add_zero]
        refine Nat.le_trans bound ?_
        by_cases tried : address ∈ middle.visit.attempted
        · have still := attempts.1.2 (.inl ⟨tried, kept⟩)
          exact Nat.le_of_eq (by rw [if_pos tried, if_pos still])
        · rw [if_neg tried]
          exact Nat.zero_le _
      -- The address was not tried before this call, so none of the earlier steps asked.
      · have untried := attempts.2 asks
        have tried := attempts.1.2 (.inr asks)
        rw [if_neg untried] at bound
        exact Nat.le_of_eq (by rw [if_pos tried, one, Nat.le_zero.1 bound, Nat.zero_add])

/-- Between two calls that ask the service to link an address, the address was forgotten. -/
theorem asked_again_only_after_forgetting (address : String) :
    (∀ before asked middle again,
      Reaches (opening settings outside storage state) before → Step before asked →
      asked.AsksAbout address → Reaches asked middle → Step middle again →
      again.AsksAbout address →
        ∃ earlier later, Reaches asked earlier ∧ Step earlier later ∧
          Forgets address earlier later ∧ Reaches later middle) ∧
    ∀ first last, Reaches (opening settings outside storage state) first →
      Remembers address first last →
        ∃ added, last.history = first.history ++ added ∧
          added.countP (Happening.asksAbout address) ≤ 1 := by
  constructor
  · intro before asked middle again reaches step asks goesOn next asksAgain
    have reached : Reaches (opening settings outside storage state) asked := .step reaches step
    rcases goesOn.avoids_or_does (Forgets address) with remembers | forgets
    · have tried := ((step.attempts reaches address).1).2 (.inr asks)
      have untried := (next.attempts (reached.trans goesOn) address).2 asksAgain
      exact absurd (Remembers.mem remembers reached tried) untried
    · exact forgets
  · intro first last reaches remembers
    obtain ⟨added, history, bound⟩ := remembers.asks_once reaches
    refine ⟨added, history, Nat.le_trans bound ?_⟩
    split <;> omega

/-- The service refuses to link a wallet, and is asked again. -/
theorem asked_again_after_refusal :
    ∃ asked middle : Course, asked.AsksAbout "wallet" ∧ (middle.start .link).AsksAbout "wallet" ∧
      ∃ earlier later, Reaches asked earlier ∧ Step earlier later ∧
        Forgets "wallet" earlier later ∧ Reaches later middle := by
  let first := opening {} { random := Vector.replicate 16 0 } (.memory {} {})
    { visitor := some { id := "visitor" }, connection.address := some "wallet" }
  let asked := first.start .link
  let call : ServiceCall := .connectWallet "visitor" "wallet"
  let next : Except ApiError ConnectAnswer → Errand Outcome := fun answer =>
    .link <$> receiveDecision "visitor" "wallet" answer
  let middle := asked.answer 0 .link (.service call) next (.error (.network "down"))
  have waits : ⟨0, .link, .calling (.service call) next⟩ ∈ asked.waiting :=
    List.mem_singleton.2 rfl
  have asks : asked.AsksAbout "wallet" := ⟨0, "visitor", rfl⟩
  have asksAgain : (middle.start .link).AsksAbout "wallet" := ⟨1, "visitor", rfl⟩
  have goesOn : Reaches asked middle := .step .refl (.answer waits _)
  obtain ⟨between, _⟩ := asked_again_only_after_forgetting "wallet"
  exact ⟨asked, middle, asks, asksAgain,
    between first asked middle _ .refl (.start _ _) asks goesOn (.start _ _) asksAgain⟩

/-! ## What became of a call -/

/-- What has become of a call that asked the service to link an address: the answer is waited for,
it was applied, or it was dropped because it came too late. -/
inductive Fate (asked last : Course) (number : Nat) (id address : String) : Prop
  | outstanding {operation : Operation} {next : Except ApiError ConnectAnswer → Errand Outcome}
      (waits : ⟨number, operation, .calling (.service (.connectWallet id address)) next⟩ ∈
        last.waiting)
  | applied {before : Course} {operation : Operation}
      {next : Except ApiError ConnectAnswer → Errand Outcome}
      {answer : Except ApiError ConnectAnswer} (goesOn : Reaches asked before)
      (onwards : Reaches (before.answer number operation (.service (.connectWallet id address)) next
        answer) last)
      (current : before.visit.state.isCurrent id address = true)
      (accepted : ∀ reason, LinkDecision.ofAnswer answer ≠ .refused reason)
  | dropped {before : Course} {operation : Operation}
      {next : Except ApiError ConnectAnswer → Errand Outcome}
      {answer : Except ApiError ConnectAnswer} (goesOn : Reaches asked before)
      (onwards : Reaches (before.answer number operation (.service (.connectWallet id address)) next
        answer) last)
      (late : before.visit.state.isCurrent id address = false)

variable {asked : Course} {number : Nat} {id : String}

/-- The request to link goes on to its fate in every step that does not forget the address. -/
theorem Fate.step (fate : Fate asked last number id address) (goesOn : Reaches asked last)
    (numbered : last.Numbered) (step : Step last after) (remembers : ¬ Forgets address last after) :
    Fate asked after number id address := by
  cases fate with
  | @outstanding operation next waits =>
      rcases step.waits_on numbered waits with waits | ⟨call, next', answer, calling, rfl⟩ | sleeps
      · exact .outstanding waits
      · cases calling
        cases current : last.visit.state.isCurrent id address with
        | false => exact .dropped goesOn .refl current
        | true =>
            refine .applied goesOn .refl current fun reason refused => remembers ?_
            have resumes : Resumes last number operation (.answer _ answer) _ :=
              .answer waits answer
            exact (resumes.forgets_iff numbered _).2 (.refuse current refused)
      · obtain ⟨wakeUp, next', sleeps⟩ := sleeps
        cases sleeps
  | applied goesOn onwards current accepted =>
      exact .applied goesOn (.step onwards step) current accepted
  | dropped goesOn onwards late => exact .dropped goesOn (.step onwards step) late

/-- That an operation has asked the service to link an address, on behalf of whichever visitor, and
that the address was not forgotten since. -/
def WasAsked (first last : Course) (address : String) : Prop :=
  ∃ before asked number id, Reaches first before ∧ Step before asked ∧
    asked.Sends number (.service (.connectWallet id address)) ∧ Remembers address asked last ∧
    Fate asked last number id address

/-- An address that was asked about stays so until it is forgotten. -/
theorem WasAsked.step (was : WasAsked first last address)
    (opens : first = opening settings outside storage state) (step : Step last after)
    (remembers : ¬ Forgets address last after) : WasAsked first after address := by
  subst opens
  obtain ⟨before, asked, number, id, reaches, asks, sends, kept, fate⟩ := was
  have goesOn := kept.reaches
  have reached : Reaches (opening settings outside storage state) last :=
    (Reaches.step reaches asks).trans goesOn
  exact ⟨before, asked, number, id, reaches, asks, sends, .step kept step remembers,
    fate.step goesOn reached.numbered step remembers⟩

/-- A step that asks about an address has it asked about. -/
theorem Step.wasAsked (step : Step before after) (reaches : Reaches first before)
    (asks : after.AsksAbout address) : WasAsked first after address := by
  obtain ⟨number, id, sends⟩ := asks
  have waits : ∃ operation next,
      ⟨number, operation, .calling (.service (.connectWallet id address)) next⟩ ∈
        after.waiting := by
    cases step.progress with
    | @piece _ operation _ _ piece proceeds resumes =>
        obtain ⟨rfl, next, stops⟩ := resumes.of_sends sends
        rcases piece with ⟨_, visit⟩
        cases stops
        exact ⟨operation, next, mem_waiting_pause_calling _ _ _ _ _ _⟩
    | aside apart waiting background history =>
        exact absurd sends (not_sends_of_background background history _ _)
  obtain ⟨operation, next, waits⟩ := waits
  exact ⟨before, after, number, id, reaches, step, sends, .refl, .outstanding waits⟩

/-- The addresses that were tried are those asked about and not forgotten since. -/
theorem attempted_iff_wasAsked
    (reaches : Reaches (opening settings outside storage state) last) (address : String) :
    address ∈ last.visit.attempted ↔
      WasAsked (opening settings outside storage state) last address := by
  constructor
  · induction reaches with
    | refl => exact fun tried => absurd tried List.not_mem_nil
    | step before next ih =>
        intro tried
        rcases (next.attempts before address).1.1 tried with ⟨tried, remembers⟩ | asks
        · exact (ih tried).step rfl next remembers
        · exact next.wasAsked before asks
  · rintro ⟨before, asked, number, id, reached, asks, sends, remembers, _⟩
    have tried := ((asks.attempts reached address).1).2 (.inr ⟨number, id, sends⟩)
    exact Remembers.mem remembers (.step reached asks) tried

/-- Linking ends because the service has been asked already exactly if it was asked about the
connected address since this was last forgotten, for whichever visitor, and whether the answer is
still waited for, was applied or was dropped. -/
theorem repeated_iff_asked_since_forgotten
    (reaches : Reaches (opening settings outside storage state) last) :
    (∀ number operation cue after,
      last.Proceeds number operation cue (.finished (.link (.ok .attempted)), after) →
        ∃ id address, after.state.Lacks id address ∧
          WasAsked (opening settings outside storage state) last address) ∧
    ∀ id address, last.visit.state.Lacks id address →
      (run Errand.link last.visit = (.finished (.ok .attempted), last.visit) ↔
        WasAsked (opening settings outside storage state) last address) := by
  constructor
  · intro number operation cue after proceeds
    have conduct := (reaches.lawful Operation.observes_conduct proceeds).attempts
    obtain ⟨id, address, lacks, tried⟩ := conduct.repeats rfl
    exact ⟨id, address, lacks, (attempted_iff_wasAsked reaches address).1 tried⟩
  · intro id address lacks
    rw [← attempted_iff_wasAsked reaches address]
    exact run_link_attempted_iff lacks

/-- A wallet is linked again while the answer is waited for. -/
theorem repeated_while_outstanding :
    ∃ first last : Course, run Errand.link last.visit = (.finished (.ok .attempted), last.visit) ∧
      WasAsked first last "wallet" := by
  let first := opening {} { random := Vector.replicate 16 0 } (.memory {} {})
    { visitor := some { id := "visitor" }, connection.address := some "wallet" }
  have reaches : Reaches first (first.start .link) := .step .refl (.start _ _)
  have lacks : (first.start .link).visit.state.Lacks "visitor" "wallet" :=
    ⟨by decide, fun visitor same => by cases same; rfl⟩
  obtain ⟨_, repeated_iff⟩ := repeated_iff_asked_since_forgotten reaches
  have repeats : run Errand.link (first.start .link).visit =
    (.finished (.ok .attempted), (first.start .link).visit) := rfl
  exact ⟨first, _, repeats, (repeated_iff "visitor" "wallet" lacks).1 repeats⟩

/-- That linking would end now because the service has been asked already. -/
structure Repeats (course : Course) (id address : String) : Prop where
  lacks : course.visit.state.Lacks id address
  repeated : run Errand.link course.visit = (.finished (.ok .attempted), course.visit)

/-- A link request for an address that was tried ends as repeated. -/
theorem repeats_of_mem {course : Course} {visitor : Visitor}
    (known : course.visit.state.visitor = some visitor)
    (connected : course.visit.state.address? = some address)
    (missing : visitor.wallet? address = none) (tried : address ∈ course.visit.attempted) :
    course.Repeats visitor.id address := by
  have current := State.isCurrent_iff.2 ⟨congrArg (Option.map Visitor.id) known, connected⟩
  have lacks : course.visit.state.Lacks visitor.id address := by
    refine ⟨current, fun other same => ?_⟩
    cases known.symm.trans same
    exact missing
  exact ⟨lacks, (run_link_attempted_iff lacks).2 tried⟩

/-- Which operation called the service about the address, and for which visitor. -/
def Happening.linkCall? (address : String) : Happening → Option (Nat × String)
  | .asked number (.service (.connectWallet id asked)) =>
      if asked = address then some (number, id) else none
  | _ => none

/-- Which operation that links a wallet has ended well, and with what. -/
def Happening.linkEnd? : Happening → Option (Nat × LinkOutcome)
  | .ended number (.link (.ok outcome)) => some (number, outcome)
  | _ => none

/-- The wallet is switched while the answer is waited for, and switched back after the answer was
dropped. -/
theorem repeats_after_dropped_answer :
    ∃ (visitor : Visitor) (last : Course),
      Reaches (opening {} { random := Vector.replicate 16 0, providerAddress := some "TA" }
        (.memory {} {}) (State.hydrated visitor)) last ∧ last.Repeats "visitor" "TA" ∧
      last.history.filterMap (Happening.linkCall? "TA") = [(1, "visitor")] ∧
      last.history.filterMap Happening.linkEnd? = [(1, .stale)] := by
  let outside : Outside := { random := Vector.replicate 16 0, providerAddress := some "TA" }
  let visitor : Visitor := { id := "visitor" }
  let first := opening {} outside (.memory {} {}) (State.hydrated visitor)
  let call : ServiceCall := .connectWallet "visitor" "TA"
  let next : Except ApiError ConnectAnswer → Errand Outcome := fun answer =>
    .link <$> receiveDecision "visitor" "TA" answer
  let accepted : Except ApiError ConnectAnswer := .ok { success := true }
  let asked := (first.start .checkShown).start .link
  let away := asked.changeOutside { outside with providerAddress := some "TB" }
  let switched := away.start .checkShown
  let dropped := switched.answer 1 .link (.service call) next accepted
  let back := dropped.changeOutside outside
  let last := back.start .checkShown
  have leaves : Step asked away := .changeOutside (Nat.le_refl _)
  have waits : ⟨1, .link, .calling (.service call) next⟩ ∈ switched.waiting :=
    List.mem_singleton.2 rfl
  have returns : Step dropped back := .changeOutside (Nat.le_refl _)
  have switches : Reaches first switched :=
    .step (.step (.step (.step .refl (.start _ _)) (.start _ _)) leaves) (.start _ _)
  have reaches : Reaches first last :=
    .step (.step (.step switches (.answer waits accepted)) returns) (.start _ _)
  have known : last.visit.state.visitor = some visitor := by decide +kernel
  have connected : last.visit.state.address? = some "TA" := by decide +kernel
  have tried : "TA" ∈ last.visit.attempted := by decide +kernel
  have calls : last.history.filterMap (Happening.linkCall? "TA") = [(1, "visitor")] := by
    decide +kernel
  have ends : last.history.filterMap Happening.linkEnd? = [(1, .stale)] := by decide +kernel
  exact ⟨visitor, last, reaches, repeats_of_mem known connected rfl tried, calls, ends⟩

/-- A log-in is answered with the record of another visitor while the wallet is linked. -/
theorem repeats_for_another_visitor :
    ∃ (visitor : Visitor) (last : Course),
      Reaches (opening {} { random := Vector.replicate 16 0, providerAddress := some "TA" }
        (.memory {} {}) (State.hydrated visitor)) last ∧ last.Repeats "other" "TA" ∧
      last.history.filterMap (Happening.linkCall? "TA") = [(1, "visitor")] := by
  let visitor : Visitor := { id := "visitor" }
  let first := opening {} { random := Vector.replicate 16 0, providerAddress := some "TA" }
    (.memory {} {}) (State.hydrated visitor)
  let call : ServiceCall := .logIn "visitor"
  let next : Except ApiError Visitor → Errand Outcome := fun answer =>
    .account <$> receiveLogIn "visitor" answer
  let another : Visitor := { id := "other" }
  let called := ((first.start .checkShown).start .link).start .logIn
  let last := called.answer 2 .logIn (.service call) next (.ok another)
  have waits : ⟨2, .logIn, .calling (.service call) next⟩ ∈ called.waiting := .tail _ (.head _)
  have begins : Reaches first called :=
    .step (.step (.step .refl (.start _ _)) (.start _ _)) (.start _ _)
  have reaches : Reaches first last := .step begins (.answer waits (.ok another))
  have known : last.visit.state.visitor = some another := by decide +kernel
  have connected : last.visit.state.address? = some "TA" := by decide +kernel
  have tried : "TA" ∈ last.visit.attempted := by decide +kernel
  have calls : last.history.filterMap (Happening.linkCall? "TA") = [(1, "visitor")] := by
    decide +kernel
  exact ⟨visitor, last, reaches, repeats_of_mem known connected rfl tried, calls⟩

/-- Linking may end because the service has been asked already although the answer to the only call
was dropped, and although the only call was made for another visitor. -/
theorem repeats_after_dropped_answer_and_for_another_visitor :
    (∃ (visitor : Visitor) (last : Course),
      Reaches (opening {} { random := Vector.replicate 16 0, providerAddress := some "TA" }
        (.memory {} {}) (State.hydrated visitor)) last ∧ last.Repeats "visitor" "TA" ∧
      last.history.filterMap (Happening.linkCall? "TA") = [(1, "visitor")] ∧
      last.history.filterMap Happening.linkEnd? = [(1, .stale)]) ∧
    ∃ (visitor : Visitor) (last : Course),
      Reaches (opening {} { random := Vector.replicate 16 0, providerAddress := some "TA" }
        (.memory {} {}) (State.hydrated visitor)) last ∧ last.Repeats "other" "TA" ∧
      last.history.filterMap (Happening.linkCall? "TA") = [(1, "visitor")] :=
  ⟨repeats_after_dropped_answer, repeats_for_another_visitor⟩

end Course

end VisitorLink
