import VisitorLink.Proofs.Course.Alone
import VisitorLink.Proofs.Course.Signatures
import VisitorLink.Proofs.Visit.Addresses
import VisitorLink.Proofs.Wallet.Challenge

/-!
# Well-formed addresses

The provider may report any text as its address, and the service may answer with any record. An
address is checked when it is read off the provider, and from there on it is handed down: what is
asked of the service and of the visitor is about an address that was the connected one at some
moment.

Main statement: every address that is connected, awaits a log-in or is named in a call is well
formed (`only_wellFormed_addresses_used`).
-/

namespace VisitorLink

open Errand

/-- That a call names an address as the one to link, to prove or to log in with: as an argument, or
within a challenge. A challenge for the removal of a wallet is about a wallet of the record. -/
inductive Call.Names : Call → String → Prop
  | link (id address : String) : Names (.service (.connectWallet id address)) address
  | prove (id : String) (request : LinkRequest) :
      Names (.service (.linkWallet id request)) request.address
  | prompt {purpose : Purpose} (aims : purpose ≠ .unlink) (address : String) (time : Int64) :
      Names (.provider (.signMessage (challenge purpose address time))) address
  | submit {purpose : Purpose} (aims : purpose ≠ .unlink) (address : String) (time : Int64)
      {request : LinkRequest} (written : request.message = challenge purpose address time)
      (id : String) : Names (.service (.linkWallet id request)) address

namespace Course

variable {settings : VisitSettings} {outside : Outside} {storage : Storage}
  {before after course : Course} {number : Nat} {call : Call} {address : String}

/-! ## Calls -/

/-- What was asked in the course of a visit was asked in some step. -/
theorem Reaches.exists_sends {first : Course} (reaches : Reaches first course)
    (asked : .asked number call ∈ course.history) (fresh : .asked number call ∉ first.history) :
    ∃ before after, Reaches first before ∧ Step before after ∧ after.Sends number call := by
  induction reaches with
  | refl => exact absurd asked fresh
  | @step before after earlier step ih =>
      cases step.progress with
      | piece proceeds resumes =>
          rcases (resumes.mem_pause_history_iff rfl).1 asked with asked | asked
          · exact ih asked
          · obtain ⟨rfl, next, calls⟩ := eq_of_asked_mem_pauseNote asked
            refine ⟨before, _, earlier, step, ?_⟩
            rw [Sends, pause_history, calls]
            exact List.getLast?_concat
      | aside apart waiting background history =>
          rw [history, List.mem_append, List.mem_singleton] at asked
          rcases asked with asked | rfl
          · exact ih asked
          · cases background

/-! ## The connected address -/

/-- Only well-formed addresses are connected in a step. -/
theorem Step.admits (step : Step before after) {state : State}
    (reaches : Reaches (opening settings outside storage state) before) :
    before.visit.state.Admits after.visit.state := by
  have keeps := reaches.persists Operation.stillKeeps_persists fun operation visit =>
    operation.admits_errand.stillKeeps visit
  cases step.progress with
  | @piece number operation cue resumed piece proceeds resumes =>
      rw [pause_visit]
      cases proceeds with
      | start => exact operation.admits_errand.moves before.visit
      | answer waits answer => exact ((keeps _ waits).1 answer).moves before.visit
      | wake waits => exact Keeps.moves (keeps _ waits).1 before.visit
  | aside apart => exact State.admits_of_eq (congrArg State.address? apart.state)

theorem Reaches.wellFormed_of_connected
    (reaches : Reaches (opening settings outside storage) course)
    (connected : course.visit.state.address? = some address) : Address.WellFormed address := by
  induction reaches with
  | refl => cases connected
  | step before next ih =>
      rcases next.admits before address connected with earlier | wellFormed
      · exact ih earlier
      · exact wellFormed

theorem Reaches.wellFormed_of_current (reaches : Reaches (opening settings outside storage) course)
    {id : String} (current : course.visit.state.isCurrent id address = true) :
    Address.WellFormed address :=
  reaches.wellFormed_of_connected (State.isCurrent_iff.1 current).2

/-! ## Where addresses are used -/

/-- A wallet is linked in the step that has it as the connected one. -/
theorem Step.wellFormed_of_linking (step : Step before after)
    (reaches : Reaches (opening settings outside storage) before) {id : String}
    (sends : after.Sends number (.service (.connectWallet id address))) :
    Address.WellFormed address := by
  obtain ⟨operation, cue, resumed, piece, next, resumes, turn, stops, rfl⟩ :=
    (step.moves reaches.staged).of_sends sends
  have reached := Reaches.step reaches step
  cases turn with
  | rest effect rests =>
      rw [stops] at rests
      cases rests with
      | waits waits opens =>
          cases waits with
          | link after =>
              -- The address is the connected one after the piece, not only before it.
              refine reached.wellFormed_of_connected ?_
              rw [pause_visit]
              exact (State.isCurrent_iff.1 opens).2
          | track session => cases session
  | prompt current idle waits =>
      rw [stops] at waits
      cases waits
  | submit waits => cases stops
  | remove waits => cases stops

/-- A challenge that is signed was written when the operation was started, about the wallet that was
the connected one then. -/
theorem Reaches.wellFormed_of_prompt
    (reaches : Reaches (opening settings outside storage) course) {operation : Operation}
    {purpose : Purpose} {time : Int64} {next : Except String String → Errand Outcome}
    (waits : ⟨number, operation,
      .calling (.provider (.signMessage (challenge purpose address time))) next⟩ ∈ course.waiting)
    (aims : purpose ≠ .unlink) : Address.WellFormed address := by
  obtain ⟨begun, prompted⟩ := reaches.promptedAtStart waits
  cases prompted.prompts with
  | verification after current written =>
      obtain ⟨_, rfl, _⟩ := challenge_injective written
      exact prompted.reaches.wellFormed_of_current current
  | removal loaded written => exact absurd (challenge_injective written).1 aims

/-- A proof names the wallet that was the connected one when the verification was started. -/
theorem Step.wellFormed_of_proof (step : Step before after)
    (reaches : Reaches (opening settings outside storage) before) {id : String}
    {request : LinkRequest} (sends : after.Sends number (.service (.linkWallet id request)))
    (names : (Call.service (.linkWallet id request)).Names address) :
    Address.WellFormed address := by
  obtain ⟨operation, message, next, signature, waits, rfl⟩ :=
    step.of_sends reaches.staged sends rfl
  obtain ⟨begun, prompted⟩ := reaches.promptedAtStart waits
  rcases prompted.prompts.signed signature before.visit with
    ⟨_, wallet, rest, onwards, later, after, current, written, stops⟩ |
    ⟨_, _, onwards, later, _, _, _, stops⟩
  · cases ((signature_sends stops number message).1.unique sends).2
    have wellFormed : Address.WellFormed wallet := prompted.reaches.wellFormed_of_current current
    cases names with
    | prove => exact wellFormed
    | submit aims address time names =>
        obtain ⟨_, rfl, _⟩ := challenge_injective (written.symm.trans names)
        exact wellFormed
  · cases ((signature_sends stops number message).1.unique sends).2

theorem Step.wellFormed_of_names (step : Step before after)
    (reaches : Reaches (opening settings outside storage) before) (sends : after.Sends number call)
    (names : call.Names address) : Address.WellFormed address := by
  cases names with
  | link id => exact step.wellFormed_of_linking reaches sends
  | prove id request => exact step.wellFormed_of_proof reaches sends (.prove id request)
  | submit aims _ time written id =>
      exact step.wellFormed_of_proof reaches sends (.submit aims address time written id)
  | prompt aims _ time =>
      obtain ⟨operation, cue, resumed, ⟨paused, visit⟩, next, resumes, turn, stops, rfl⟩ :=
        (step.moves reaches.staged).of_sends sends
      cases stops
      exact (Reaches.step reaches step).wellFormed_of_prompt
        (mem_waiting_pause_calling _ _ _ _ _ _) aims

/-- That an address is in use: it is connected, a log-in with it is pending, or it was named in a
call. -/
inductive Uses (course : Course) (address : String) : Prop
  | connected (connected : course.visit.state.address? = some address)
  | pending {owner : String}
      (pending : course.visit.state.connection.pendingLogin = some ⟨address, owner⟩)
  | named {number : Nat} {call : Call} (asked : .asked number call ∈ course.history)
      (names : call.Names address)

/-- Whatever the provider reports and the service answers, and however operations are interleaved,
every address in use is well formed. -/
theorem only_wellFormed_addresses_used (reaches : Reaches (opening settings outside storage) course)
    (uses : course.Uses address) :
    Address.WellFormed address ∧ address ≠ "" ∧ address.utf8ByteSize ≤ Address.maxBytes ∧
      ∀ c ∈ address.toList, Address.isBase58 c = true := by
  have wellFormed : Address.WellFormed address := by
    cases uses with
    | connected connected => exact reaches.wellFormed_of_connected connected
    | pending pending =>
        -- A log-in is pending for the connected wallet only.
        have connected := (reaches.pendsAtWallet .unknown _ pending).2
        exact reaches.wellFormed_of_connected connected
    | named asked names =>
        obtain ⟨before, after, earlier, step, sends⟩ := reaches.exists_sends asked List.not_mem_nil
        exact step.wellFormed_of_names earlier sends names
  exact ⟨wellFormed, (Address.wellFormed_iff address).1 wellFormed⟩

/-- A visit is opened while the provider shows an address, which is connected as soon as the visitor
is known. -/
theorem shown_address_is_connected_at_opening :
    ∃ course : Course,
      Reaches (opening {} { random := Vector.replicate 16 0, providerAddress := some "wa11et" }
        (.memory {} {})) course ∧
      course.Uses "wa11et" ∧ Address.WellFormed "wa11et" := by
  let first := opening {} { random := Vector.replicate 16 0, providerAddress := some "wa11et" }
    (.memory {} {})
  let asked := first.start .bootstrap
  let id := (Uuid.ofRandom first.visit.outside.random).hyphenated
  let next : Except ApiError Visitor → Errand Outcome := fun answer =>
    .visitor <$> (receiveVisitor id answer >>= pickUpWallet)
  have waits : ⟨0, .bootstrap, .calling (.service (.fetchVisitor id)) next⟩ ∈ asked.waiting :=
    List.mem_singleton.2 rfl
  let visitor : Visitor := { id := "visitor" }
  let course := asked.answer 0 .bootstrap (.service (.fetchVisitor id)) next (.ok visitor)
  have reaches : Reaches first course := .step (.step .refl (.start _ _)) (.answer waits _)
  have connected : course.visit.state.address? = some "wa11et" := by decide +kernel
  have uses : course.Uses "wa11et" := .connected connected
  exact ⟨course, reaches, uses, (only_wellFormed_addresses_used reaches uses).1⟩

end Course

end VisitorLink
