import VisitorLink.Proofs.Json.Members
import VisitorLink.Proofs.Json.Records
import VisitorLink.Service.Reply

/-!
# Reasons in the service's own words

A service that refuses a request gives its reason as a text in the member `error` or in the member
`message`. The reason reaches the caller if it is the only one; where both members are there, none
does, not even if they agree. A request to link an address overlooks `error` where the body has the
form of an answer otherwise.

Main statement: `Reply.reason_told_or_replaced`.
-/

namespace VisitorLink

open Json

/-! ## Reasons in a body -/

namespace Refusal

/-- Whether a member may hold a reason. -/
def mayGive (member : Option String × Json) : Bool :=
  member.1 == some "error" || member.1 == some "message"

/-- The values of the members that may hold a reason. -/
def reasons (members : List (Option String × Json)) : List Json :=
  (members.filter mayGive).map Prod.snd

/-- A reason is the text of one of these members. -/
def Gives (members : List (Option String × Json)) (reason : String) : Prop :=
  (some "error", .text reason) ∈ members ∨ (some "message", .text reason) ∈ members

/-- A reason is the only one, and every key beside it denotes characters. -/
def GivesOnly (members : List (Option String × Json)) (reason : String) : Prop :=
  none ∉ members.map Prod.fst ∧ reasons members = [.text reason]

theorem GivesOnly.gives {members : List (Option String × Json)} {reason : String}
    (only : GivesOnly members reason) : Gives members reason := by
  have mem : Json.text reason ∈ reasons members := only.2 ▸ List.mem_singleton_self _
  obtain ⟨⟨key, _⟩, mem, rfl⟩ := List.mem_map.1 mem
  obtain ⟨mem, key⟩ := List.mem_filter.1 mem
  simp only [mayGive, Bool.or_eq_true, beq_iff_eq] at key
  obtain rfl | rfl := key
  · exact .inl mem
  · exact .inr mem

/-- Where both members are there, neither gives the only reason. -/
theorem not_givesOnly_of_both {members : List (Option String × Json)} {error message : Json}
    (first : (some "error", error) ∈ members) (second : (some "message", message) ∈ members)
    (reason : String) : ¬GivesOnly members reason := by
  rintro ⟨-, only⟩
  obtain ⟨member, single, -⟩ := List.map_eq_singleton_iff.1 only
  have error : (some "error", error) = member :=
    List.mem_singleton.1 (single ▸ List.mem_filter.2 ⟨first, rfl⟩)
  have message : (some "message", message) = member :=
    List.mem_singleton.1 (single ▸ List.mem_filter.2 ⟨second, rfl⟩)
  have same : some "error" = some "message" := congrArg Prod.fst (error.trans message.symm)
  exact absurd same (by decide)

theorem given?_eq (member : Option String × Json) :
    schema.given? member = if mayGive member then some ("error", member.2) else none := by
  obtain ⟨_ | key, value⟩ := member
  · rfl
  · by_cases error : key = "error"
    · subst error
      rfl
    · by_cases message : key = "message"
      · subst message
        rfl
      · have none : schema.resolve key = none :=
          schema.resolve_eq_none (by simpa [schema] using error) (by simpa [schema] using message)
        simp [Schema.given?, none, mayGive, error, message]

/-- The fields that are found are the members that may hold a reason. -/
theorem entries_eq (members : List (Option String × Json)) :
    members.filterMap schema.given? = (reasons members).map ("error", ·) := by
  unfold reasons
  induction members with
  | nil => rfl
  | cons member members ih =>
      rw [List.filterMap_cons, List.filter_cons, given?_eq member, ih]
      cases mayGive member <;> rfl

/-- A reason is read from an object exactly if it is the only one there. -/
theorem read?_obj_iff {members : List (Option String × Json)} {refusal : Refusal} :
    read? (.obj members) = some refusal ↔ GivesOnly members refusal.error := by
  unfold read?
  simp only [Option.bind_eq_bind, Option.bind_eq_some_iff, schema.fields?_obj_iff rfl, entries_eq]
  constructor
  · rintro ⟨_, ⟨denoted, rfl, distinct⟩, reason, found, told⟩
    cases told
    refine ⟨denoted, ?_⟩
    match given : reasons members, found, distinct with
    | [value], found, _ => rw [text?_eq_some_iff.1 found]
    | value :: other :: values, _, distinct =>
        -- the field would be named twice
        exact absurd (List.mem_cons_self ..) (List.nodup_cons.1 distinct).1
  · rintro ⟨denoted, only⟩
    rw [only]
    exact ⟨_, ⟨denoted, rfl, List.pairwise_singleton _ _⟩, refusal.error, rfl, rfl⟩

end Refusal

/-- An answer has the message and the demand to log in that its members have. -/
theorem ConnectAnswer.members_of_read? {members : List (Option String × Json)}
    {answer : ConnectAnswer} (found : read? (.obj members) = some answer) :
    (∀ reason, answer.message = some reason ↔ (some "message", .text reason) ∈ members) ∧
      (answer.loginRequired = true ↔ (some "loginRequired", .bool true) ∈ members) := by
  simp only [read?, Option.bind_eq_bind, Option.bind_eq_some_iff] at found
  obtain ⟨fields, found, _, _, _, _, loginRequired, login, _, _, message, told, made⟩ := found
  cases made
  constructor
  · intro reason
    rw [← schema.lookup_eq_some_iff rfl rfl found (by decide), ← optional?_text_eq_some_iff, told,
      Option.some_inj]
  · rw [← schema.lookup_eq_some_iff rfl rfl found (by decide), ← defaulted?_bool_eq_some_iff, login,
      Option.some_inj]

/-! ## Reasons told -/

/-- The reason in a body that a call tells: the only one there, or the message of an answer. -/
def ServiceCall.Tells (call : ServiceCall) (members : List (Option String × Json))
    (reason : String) : Prop :=
  match call with
  | .connectWallet _ _ =>
      if (ConnectAnswer.read? (.obj members)).isSome then (some "message", .text reason) ∈ members
      else Refusal.GivesOnly members reason
  | _ => Refusal.GivesOnly members reason

/-- What a call tells in place of a reason. -/
def ServiceCall.unexplained (call : ServiceCall) (status : UInt16)
    (members : List (Option String × Json)) : String :=
  match call with
  | .connectWallet _ _ =>
      if (ConnectAnswer.read? (.obj members)).isSome then "Wallet connect rejected"
      else "Wallet connect failed with status " ++ Status.shown status
  | _ => (Status.phrase? status).getD "Request failed"

theorem ServiceCall.Tells.gives {call : ServiceCall} {members : List (Option String × Json)}
    {reason : String} (tells : call.Tells members reason) : Refusal.Gives members reason := by
  unfold Tells at tells
  split at tells
  · split at tells
    · exact .inr tells
    · exact tells.gives
  · exact tells.gives

theorem Refusal.told_iff {members : List (Option String × Json)} {reason : String} :
    (read? (.obj members)).map Refusal.error = some reason ↔ GivesOnly members reason := by
  rw [Option.map_eq_some_iff]
  constructor
  · rintro ⟨refusal, found, rfl⟩
    exact read?_obj_iff.1 found
  · exact fun only => ⟨⟨reason⟩, read?_obj_iff.2 only, rfl⟩

/-- A reply that refuses a call that is no request to link an address. -/
theorem Reply.refusal_eq {status : UInt16} {body : String} {value : Json}
    (document : Json.read? body = some value) :
    refusal status body = .status status
      (((Refusal.read? value).map Refusal.error).getD
        ((Status.phrase? status).getD "Request failed")) := by
  rw [refusal, read?, document, Option.bind_some]
  cases Refusal.read? value <;> rfl

/-- A reply that refuses a request to link an address. -/
theorem Reply.connectAnswer_eq {status : UInt16} {body : String}
    {members : List (Option String × Json)} (refused : Status.isSuccess status = false)
    (object : Json.read? body = some (.obj members))
    (closed : (some "loginRequired", .bool true) ∉ members) :
    connectAnswer (.received status body) = .error (.status status (
      match ConnectAnswer.read? (.obj members) with
      | some answer => answer.message.getD "Wallet connect rejected"
      | none => ((Refusal.read? (.obj members)).map Refusal.error).getD
          ("Wallet connect failed with status " ++ Status.shown status))) := by
  rw [connectAnswer, read?, read?, object, Option.bind_some, Option.bind_some]
  cases found : ConnectAnswer.read? (.obj members) with
  | some answer =>
      have demand : answer.loginRequired = false := by
        rw [← Bool.not_eq_true, (ConnectAnswer.members_of_read? found).2]
        exact closed
      simp only [refused, demand, Bool.or_self, Bool.false_eq_true, if_false]
  | none =>
      simp only [refused, Bool.false_eq_true, if_false]
      cases Refusal.read? (.obj members) <;> rfl

/-- A call that is refused is answered with the reason that it tells, or else in other words. -/
theorem Reply.answer_refused {call : ServiceCall} {status : UInt16} {body : String}
    {members : List (Option String × Json)} (refused : Status.isSuccess status = false)
    (object : Json.read? body = some (.obj members))
    (closed : ∀ id address, call = .connectWallet id address →
      (some "loginRequired", .bool true) ∉ members) :
    ∃ told : Option String, (∀ reason, told = some reason ↔ call.Tells members reason) ∧
      (received status body).answer call =
        .error (.status status (told.getD (call.unexplained status members))) := by
  cases call with
  | connectWallet id address =>
      have answer := connectAnswer_eq refused object (closed id address rfl)
      simp only [ServiceCall.Tells, ServiceCall.unexplained]
      cases found : ConnectAnswer.read? (.obj members) with
      | some message =>
          rw [found] at answer
          exact ⟨message.message, (ConnectAnswer.members_of_read? found).1, answer⟩
      | none =>
          rw [found] at answer
          exact ⟨_, fun reason => Refusal.told_iff, answer⟩
  | _ =>
      refine ⟨_, fun reason => Refusal.told_iff, ?_⟩
      simp only [answer, value, done, visitor, refused, refusal_eq object]
      rfl

/-- A call whose request is refused tells a reason in the service's own words if it is the only one
in the body, and a request to link an address tells the message of a body in the form of an answer.
In all other cases the call tells none of the reasons there are. -/
theorem Reply.reason_told_or_replaced (call : ServiceCall) (status : UInt16) (body : String)
    (members : List (Option String × Json)) (refused : Status.isSuccess status = false)
    (object : Json.read? body = some (.obj members))
    (closed : ∀ id address, call = .connectWallet id address →
      (some "loginRequired", .bool true) ∉ members) :
    (∀ reason, call.Tells members reason → Refusal.Gives members reason ∧
        (received status body).answer call = .error (.status status reason)) ∧
      ((∀ reason, ¬call.Tells members reason) → (received status body).answer call =
        .error (.status status (call.unexplained status members))) := by
  obtain ⟨told, iff, answer⟩ := answer_refused refused object closed
  constructor
  · intro reason tells
    rw [(iff reason).2 tells] at answer
    exact ⟨tells.gives, answer⟩
  · intro silent
    have nothing : told = none :=
      Option.eq_none_iff_forall_ne_some.2 fun reason same => silent reason ((iff reason).1 same)
    rw [nothing] at answer
    exact answer

/-- A login that is refused with the same reason in both members tells neither of them, and a
request to link an address overlooks the reason of an answer that is no success. -/
theorem Reply.reason_lost_beside_another :
    (received 401 "\x7b\"error\": \"E\", \"message\": \"E\"\x7d").answer (.logIn "U") =
        .error (.status 401 "Unauthorized") ∧
      (received 400 "\x7b\"success\": false, \"error\": \"E\"\x7d").answer
        (.connectWallet "U" "A") = .error (.status 400 "Wallet connect rejected") := by
  constructor
  · refine (reason_told_or_replaced _ 401 _
      [(some "error", .text "E"), (some "message", .text "E")] rfl (by cbv) ?_).2 ?_
    · intro id address connect
      exact ServiceCall.noConfusion connect
    · exact Refusal.not_givesOnly_of_both (.head _) (.tail _ (.head _))
  · refine (reason_told_or_replaced _ 400 _
      [(some "success", .bool false), (some "error", .text "E")] rfl (by cbv) ?_).2 ?_
    · simp
    · intro reason tells
      have message : (some "message", Json.text reason) ∈
          [(some "success", .bool false), (some "error", .text "E")] := tells
      simp at message

end VisitorLink
