import VisitorLink.Service.Reply
import VisitorLink.Visit.Linking

/-!
# What a reply decides about an address

The service replies to a request to link an address with an answer in the body. An owner that the
answer names counts whatever the status is and whatever else the answer says. A wallet is linked
only by a status of success, together with an answer that says so and asks for no log-in. In all
other cases the request is refused.

Main statements: `Reply.decides_loginRequired_iff` and `Reply.decides_linked_iff`.
-/

namespace VisitorLink

namespace LinkDecision

variable {answer : Except ApiError ConnectAnswer}

theorem ofAnswer_eq_loginRequired_iff {owner : String} :
    ofAnswer answer = .loginRequired owner ↔
      ∃ held, answer = .ok held ∧ held.loginRequired = true ∧ held.owner = some owner := by
  constructor
  · intro decided
    unfold ofAnswer at decided
    split at decided
    · cases decided
    case h_2 held =>
      split at decided
      case isTrue required =>
        split at decided
        case h_1 named =>
          cases decided
          exact ⟨held, rfl, required, named⟩
        case h_2 => cases decided
      case isFalse => split at decided <;> cases decided
  · rintro ⟨held, rfl, required, named⟩
    rw [ofAnswer, if_pos required, named]

theorem ofAnswer_eq_linked_iff {visitor : Option Visitor} :
    ofAnswer answer = .linked visitor ↔
      ∃ held, answer = .ok held ∧ held.loginRequired = false ∧ held.success = true ∧
        held.visitor = visitor := by
  constructor
  · intro decided
    unfold ofAnswer at decided
    split at decided
    · cases decided
    case h_2 held =>
      split at decided
      case isTrue => split at decided <;> cases decided
      case isFalse free =>
        split at decided
        case isTrue success =>
          cases decided
          exact ⟨held, rfl, eq_false_of_ne_true free, success, rfl⟩
        case isFalse => cases decided
  · rintro ⟨held, rfl, free, success, rfl⟩
    rw [ofAnswer, if_neg (ne_true_of_eq_false free), if_pos success]

end LinkDecision

namespace Reply

/-- That the body of a reply holds an answer to a request to link an address. -/
def Answers (reply : Reply) (status : UInt16) (answer : ConnectAnswer) : Prop :=
  ∃ body, reply = .received status body ∧ read? ConnectAnswer.read? body = some answer

/-- That a reply asks for a log-in as the owner of an address. -/
def NamesOwner (reply : Reply) (owner : String) : Prop :=
  ∃ status answer, reply.Answers status answer ∧ answer.loginRequired = true ∧
    answer.owner = some owner

/-- That a reply links an address, with the record that it puts in place, if there is one. -/
def Links (reply : Reply) (visitor : Option Visitor) : Prop :=
  ∃ status answer, reply.Answers status answer ∧ Status.isSuccess status = true ∧
    answer.loginRequired = false ∧ answer.success = true ∧ answer.visitor = visitor

variable {reply : Reply}

/-- An answer reaches the visit if the status is one of success or the answer asks for a log-in. -/
theorem connectAnswer_eq_ok_iff {answer : ConnectAnswer} :
    reply.connectAnswer = .ok answer ↔
      ∃ status, reply.Answers status answer ∧
        (Status.isSuccess status = true ∨ answer.loginRequired = true) := by
  constructor
  · intro reaches
    unfold connectAnswer at reaches
    split at reaches
    · cases reaches
    case h_2 status body =>
      split at reaches
      case h_1 held found =>
        split at reaches
        case isTrue counts =>
          cases reaches
          exact ⟨status, ⟨body, rfl, found⟩, Bool.or_eq_true_iff.1 counts⟩
        case isFalse => cases reaches
      case h_2 =>
        split at reaches
        · cases reaches
        · split at reaches <;> cases reaches
  · rintro ⟨status, ⟨body, rfl, found⟩, counts⟩
    rw [connectAnswer, found]
    exact if_pos (Bool.or_eq_true_iff.2 counts)

theorem decides_loginRequired_iff {owner : String} :
    LinkDecision.ofAnswer reply.connectAnswer = .loginRequired owner ↔ reply.NamesOwner owner := by
  simp only [LinkDecision.ofAnswer_eq_loginRequired_iff, connectAnswer_eq_ok_iff, NamesOwner]
  constructor
  · rintro ⟨answer, ⟨status, answers, _⟩, required, named⟩
    exact ⟨status, answer, answers, required, named⟩
  · rintro ⟨status, answer, answers, required, named⟩
    exact ⟨answer, ⟨status, answers, .inr required⟩, required, named⟩

theorem decides_linked_iff {visitor : Option Visitor} :
    LinkDecision.ofAnswer reply.connectAnswer = .linked visitor ↔ reply.Links visitor := by
  simp only [LinkDecision.ofAnswer_eq_linked_iff, connectAnswer_eq_ok_iff, Links]
  constructor
  · rintro ⟨answer, ⟨status, answers, counts⟩, free, success, record⟩
    have carriedOut := counts.resolve_right (ne_true_of_eq_false free)
    exact ⟨status, answer, answers, carriedOut, free, success, record⟩
  · rintro ⟨status, answer, answers, carriedOut, free, success, record⟩
    exact ⟨answer, ⟨status, answers, .inl carriedOut⟩, free, success, record⟩

end Reply

end VisitorLink
