import VisitorLink.Proofs.Course.Alone
import VisitorLink.Proofs.Course.Submissions
import VisitorLink.Proofs.Service.Routes
import VisitorLink.Proofs.Visit.Addresses
import VisitorLink.Service.Request

/-!
# Routes of requests about a wallet

Removing a wallet and marking one as primary take any text for an address, and make it a part of the
URL that the service is asked at.

Main statement: such a request keeps to the way through the visitor and the address exactly if the
address is one segment of a path (`wallet_request_keeps_to_route_iff`). A well-formed address is
one, but nothing sees to it that the address is well formed.
-/

namespace VisitorLink

open Errand

/-! ## URLs of requests -/

/-- A well-formed address is one segment. -/
theorem Address.WellFormed.isSegment {address : String} (wellFormed : WellFormed address) :
    Url.IsSegment address.toList := by
  obtain ⟨_, _, base58⟩ := (wellFormed_iff address).1 wellFormed
  exact .of_isAlphanum (List.all_eq_true.2 fun c mem => (Bool.and_eq_true_iff.1 (base58 c mem)).1)

namespace Request

variable {host? : List Char → Option String}

/-- That the way to a wallet of a visitor can be taken: the base is a folder, and the visitor and
the address are one segment each. -/
structure IsPassable (host? : List Char → Option String) (baseUrl id address : String) : Prop where
  folder : Url.IsFolder host? (base baseUrl)
  visitor : Url.IsSegment id.toList
  wallet : Url.IsSegment address.toList

/-- On a passable way, every piece of the path is one segment. -/
theorem IsPassable.isSegment {baseUrl id address : String}
    (passable : IsPassable host? baseUrl id address) :
    ∀ text ∈ ["user", id, "wallet", address, "primary"], Url.IsSegment text.toList := by
  simp only [List.forall_mem_cons]
  exact ⟨.of_isAlphanum (by decide), passable.visitor, .of_isAlphanum (by decide), passable.wallet,
    .of_isAlphanum (by decide), fun _ mem => absurd mem List.not_mem_nil⟩

/-- The request for the removal of a wallet keeps to the way to the wallet if the way can be taken
and the address, which comes last, does not end in a blank. -/
theorem leadsThrough_unlinkWallet_iff (baseUrl id address : String) (request : UnlinkRequest) :
    Url.LeadsThrough host? (base baseUrl) ["user", id, "wallet", address]
        (ofCall baseUrl (.unlinkWallet id address request)).url ↔
      IsPassable host? baseUrl id address ∧
        ∀ c ∈ address.toList.getLast?, Url.isOuter c = false := by
  refine (leadsThrough_ofCall_iff host? baseUrl (.unlinkWallet id address request)).trans ?_
  constructor
  · rintro ⟨folder, segment, last⟩
    simp only [route, steps, List.forall_mem_cons] at segment
    obtain ⟨_, visitor, _, wallet, _⟩ := segment
    exact ⟨⟨folder, visitor, wallet⟩, last address rfl⟩
  · rintro ⟨passable, last⟩
    refine ⟨passable.folder, fun text mem => passable.isSegment text ?_, ?_⟩
    · exact List.mem_append_left ["primary"] mem
    · exact fun _ same => Option.some.inj same ▸ last

/-- The request for the marking of a wallet keeps to the way to the wallet if the way can be
taken. -/
theorem leadsThrough_setPrimaryWallet_iff (baseUrl id address : String) :
    Url.LeadsThrough host? (base baseUrl) ["user", id, "wallet", address, "primary"]
        (ofCall baseUrl (.setPrimaryWallet id address)).url ↔
      IsPassable host? baseUrl id address := by
  refine (leadsThrough_ofCall_iff host? baseUrl (.setPrimaryWallet id address)).trans ?_
  constructor
  · rintro ⟨folder, segment, _⟩
    simp only [route, steps, List.forall_mem_cons] at segment
    obtain ⟨_, visitor, _, wallet, _⟩ := segment
    exact ⟨folder, visitor, wallet⟩
  · have letters : "primary".toList.all Char.isAlphanum = true := by decide
    have visible : ∀ c ∈ "primary".toList.getLast?, Url.isOuter c = false := fun c last =>
      (Url.IsPlain.of_isAlphanum (List.all_eq_true.1 letters c (List.mem_of_getLast? last))).visible
    refine fun passable => ⟨passable.folder, passable.isSegment, ?_⟩
    exact fun _ same => Option.some.inj same ▸ visible

end Request

/-! ## What is asked about a wallet -/

namespace Operation

variable {address : String} {paused : Errand.Paused Outcome}

/-- How the marking of a wallet stands. -/
inductive Marks (address : String) : Errand.Paused Outcome → Prop
  | ended (outcome : Outcome) : Marks address (.finished outcome)
  | asks (id : String) :
      Marks address (.calling (.service (.setPrimaryWallet id address)) fun answer =>
        .account <$> receivePrimary id answer)

/-- Unlinking starts by asking for a signature for the address, or ends. -/
theorem removes_start (address : String) (visit : Visit) :
    ∃ id, Removes id address (.unlink address) (run (errand (.unlink address)) visit).1 := by
  have runs := run_unlink address visit
  rw [errand, map_eq_bind]
  cases loaded : visit.state.visitorId? with
  | none =>
      simp only [loaded] at runs
      rw [run_bind_of_finished runs]
      exact ⟨"", .finished _⟩
  | some id =>
      simp only [loaded] at runs
      refine ⟨id, ?_⟩
      split at runs
      · rw [run_bind_of_calling runs]
        exact .prompts (.unlink id address _)
      · rw [run_bind_of_finished runs]
        exact .finished _

/-- The only request for the removal of a wallet is the one about its address. -/
theorem Removes.eq_of_service {id : String} {operation : Operation} {call : ServiceCall}
    {next : (Call.service call).Answer → Errand Outcome}
    (removes : operation.Removes id address (.calling (.service call) next)) :
    ∃ request, call = .unlinkWallet id address request := by
  cases removes with
  | prompts waits => cases waits
  | submits waits =>
      cases waits with
      | remove id address request => exact ⟨request, rfl⟩

/-- Marking a wallet starts by asking the service about the address, or ends. -/
theorem marks_start (address : String) (visit : Visit) :
    Marks address (run (errand (.setPrimary address)) visit).1 := by
  have runs := run_setPrimary address visit
  rw [errand, map_eq_bind]
  cases loaded : visit.state.visitorId? with
  | none =>
      simp only [loaded] at runs
      rw [run_bind_of_finished runs]
      exact .ended _
  | some id =>
      simp only [loaded] at runs
      rw [run_bind_of_calling runs]
      exact .asks id

/-- The answer ends the marking. -/
theorem Marks.answered {call : Call} {next : call.Answer → Errand Outcome}
    (marks : Marks address (.calling call next)) (answer : call.Answer) (visit : Visit) :
    Marks address (run (next answer) visit).1 := by
  cases marks with
  | asks id =>
      obtain ⟨outcome, after, stops, _⟩ :=
        (receivePrimary_endsQuietly id answer visit).map Outcome.account
      rw [stops]
      exact .ended outcome

/-- How an operation stands that manages a wallet. -/
structure Manages (operation : Operation) (paused : Errand.Paused Outcome) : Prop where
  removes : ∀ {address : String}, operation = .unlink address →
    ∃ id, operation.Removes id address paused
  marks : ∀ {address : String}, operation = .setPrimary address → Marks address paused

/-- Every operation starts as one that manages its wallet. -/
theorem manages_start (operation : Operation) (visit : Visit) :
    operation.Manages (run operation.errand visit).1 where
  removes {address} same := by
    subst same
    exact removes_start address visit
  marks same := same ▸ marks_start _ visit

/-- It goes on as such. -/
theorem manages_persists : Operation.Persists Manages where
  answered {operation _ _} manages answer visit := by
    refine ⟨fun same => ?_, fun same => (manages.marks same).answered answer visit⟩
    obtain ⟨id, removes⟩ := manages.removes same
    exact ⟨id, (removes_persists id _).answered removes answer visit⟩
  woken manages visit := by
    refine ⟨fun same => ?_, fun same => (nomatch manages.marks same)⟩
    obtain ⟨id, removes⟩ := manages.removes same
    exact ⟨id, (removes_persists id _).woken removes visit⟩

end Operation

namespace Course

variable {settings : VisitSettings} {outside : Outside} {storage : Storage} {state : State}
  {course : Course} {number : Nat} {operation : Operation} {call : ServiceCall}
  {next : (Call.service call).Answer → Errand Outcome}

/-- Whatever the address, the only request for the removal of a wallet or for its marking is the one
about this address. It keeps to the way from the base through the visitor and the address exactly if
the way can be taken, and the address does not end in a blank where it comes last. -/
theorem wallet_request_keeps_to_route_iff
    (reaches : Reaches (opening settings outside storage state) course)
    (waits : ⟨number, operation, .calling (.service call) next⟩ ∈ course.waiting)
    (host? : List Char → Option String) (baseUrl address : String) :
    (operation = .unlink address →
      (∃ request, call = .unlinkWallet call.visitor address request) ∧
        (Url.LeadsThrough host? (Request.base baseUrl) ["user", call.visitor, "wallet", address]
            (Request.ofCall baseUrl call).url ↔
          Request.IsPassable host? baseUrl call.visitor address ∧
            ∀ c ∈ address.toList.getLast?, Url.isOuter c = false)) ∧
      (operation = .setPrimary address →
        call = .setPrimaryWallet call.visitor address ∧
          (Url.LeadsThrough host? (Request.base baseUrl)
              ["user", call.visitor, "wallet", address, "primary"]
              (Request.ofCall baseUrl call).url ↔
            Request.IsPassable host? baseUrl call.visitor address)) := by
  obtain ⟨manages, _⟩ := reaches.persists Operation.manages_persists Operation.manages_start _ waits
  constructor
  · intro same
    obtain ⟨id, removes⟩ := manages.removes same
    obtain ⟨request, rfl⟩ := removes.eq_of_service
    exact ⟨⟨request, rfl⟩, Request.leadsThrough_unlinkWallet_iff baseUrl id address request⟩
  · intro same
    cases manages.marks same with
    | asks id => exact ⟨rfl, Request.leadsThrough_setPrimaryWallet_iff baseUrl id address⟩

namespace StrayAddress

/-- A visitor asks for a wallet to be marked as primary as soon as the visit is opened. -/
def asked (address : String) : Course :=
  (opening {} { random := Vector.replicate 16 0 } (.memory {} {})
    { visitor := some { id := "visitor" } }).start (.setPrimary address)

/-- The request of the visit waits. -/
theorem waits (address : String) : ∃ next,
    ⟨0, .setPrimary address, .calling (.service (.setPrimaryWallet "visitor" address)) next⟩ ∈
      (asked address).waiting :=
  ⟨_, List.mem_singleton.2 rfl⟩

/-- The base of the example is a folder. -/
theorem isFolder : Url.IsFolder Url.asciiHost? (Request.base "http://host/api") := by
  have base : Request.base "http://host/api" = "http://host/api" := rfl
  have reads : Url.read? Url.asciiHost? ("http://host/api" ++ "/") =
      some ⟨false, "host", 80, ["api", ""], none⟩ := by decide +kernel
  rw [base]
  exact ⟨by rw [reads]; rfl, by decide, by decide⟩

end StrayAddress

open StrayAddress in
/-- A plain address keeps to the way to the wallet, and one with a way of its own makes the request
about another route. -/
theorem primary_request_strays_to_log_in :
    (∃ next,
      ⟨0, .setPrimary "TAddr1", .calling (.service (.setPrimaryWallet "visitor" "TAddr1")) next⟩ ∈
          (asked "TAddr1").waiting ∧
        Url.LeadsThrough Url.asciiHost? (Request.base "http://host/api")
          ["user", "visitor", "wallet", "TAddr1", "primary"]
          (Request.ofCall "http://host/api" (.setPrimaryWallet "visitor" "TAddr1")).url) ∧
      ∃ next,
        ⟨0, .setPrimary "../login?",
            .calling (.service (.setPrimaryWallet "visitor" "../login?")) next⟩ ∈
          (asked "../login?").waiting ∧
        ¬ Url.LeadsThrough Url.asciiHost? (Request.base "http://host/api")
          ["user", "visitor", "wallet", "../login?", "primary"]
          (Request.ofCall "http://host/api" (.setPrimaryWallet "visitor" "../login?")).url ∧
        Url.read? Url.asciiHost?
          (Request.ofCall "http://host/api" (.setPrimaryWallet "visitor" "../login?")).url =
            some ⟨false, "host", 80, ["api", "user", "visitor", "login"], some "/primary"⟩ := by
  have reaches (address : String) : Reaches _ (asked address) := .step .refl (.start _ _)
  have visitor : Url.IsSegment "visitor".toList := .of_isAlphanum (by decide)
  constructor
  · obtain ⟨next, waits⟩ := waits "TAddr1"
    have keeps := (wallet_request_keeps_to_route_iff (reaches "TAddr1") waits Url.asciiHost?
      "http://host/api"
      "TAddr1").2 rfl
    have wellFormed : Address.WellFormed "TAddr1" := by decide
    exact ⟨next, waits, keeps.2.2 ⟨isFolder, visitor, wellFormed.isSegment⟩⟩
  · obtain ⟨next, waits⟩ := waits "../login?"
    have keeps := (wallet_request_keeps_to_route_iff (reaches "../login?") waits Url.asciiHost?
      "http://host/api"
      "../login?").2 rfl
    refine ⟨next, waits, fun leads => ?_, by decide +kernel⟩
    have slash := ((keeps.2.1 leads).wallet.whole '/' (by decide)).1
    cases slash

end Course

end VisitorLink
