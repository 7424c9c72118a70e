import VisitorLink.Json.Reader
import VisitorLink.Service.Status
import VisitorLink.Visit.Call

/-!
# Replies of the service

What the reply to a request means for the call. A reply with a status other than success is an
error in the service's own words if it gives any, and else in those of the status. A request to
link an address has rules of its own, because the reply that an address belongs to somebody else
counts whatever its status is.
-/

namespace VisitorLink

/-- What comes back from a request: a status with a text, or nothing. -/
inductive Reply
  | missing (reason : String)
  | received (status : UInt16) (body : String)
deriving DecidableEq, Repr

namespace Reply

/-- Reads the text of a reply. -/
def read? {α : Type} (read? : Json → Option α) (body : String) : Option α :=
  (Json.read? body).bind read?

/-- The wording of a text that cannot be read. -/
def unreadable : String := "error decoding response body"

/-- The error that a status other than success stands for. -/
def refusal (status : UInt16) (body : String) : ApiError :=
  match read? Refusal.read? body with
  | some refusal => .status status refusal.error
  | none => .status status ((Status.phrase? status).getD "Request failed")

/-- The value of a call whose reply holds one. -/
def value {α : Type} (readValue? : Json → Option α) : Reply → Except ApiError α
  | .missing reason => .error (.network reason)
  | .received status body =>
      if Status.isSuccess status then
        match read? readValue? body with
        | some value => .ok value
        | none => .error (.parse unreadable)
      else .error (refusal status body)

/-- The outcome of a call whose reply holds no value. -/
def done : Reply → Except ApiError Unit
  | .missing reason => .error (.network reason)
  | .received status body =>
      if Status.isSuccess status then .ok () else .error (refusal status body)

/-- The visitor in an answer. -/
def visitor (reply : Reply) : Except ApiError Visitor :=
  (reply.value VisitorAnswer.read?).map VisitorAnswer.visitor

/-- The answer to a request to link an address. -/
def connectAnswer : Reply → Except ApiError ConnectAnswer
  | .missing reason => .error (.network reason)
  | .received status body =>
      match read? ConnectAnswer.read? body with
      | some answer =>
          if Status.isSuccess status || answer.loginRequired then .ok answer
          else .error (.status status (answer.message.getD "Wallet connect rejected"))
      | none =>
          if Status.isSuccess status then .error (.parse unreadable)
          else
            match read? Refusal.read? body with
            | some refusal => .error (.status status refusal.error)
            | none =>
                .error (.status status
                  ("Wallet connect failed with status " ++ Status.shown status))

/-- The answer that the reply to a call's request gives. -/
def answer (reply : Reply) : (call : ServiceCall) → call.Answer
  | .fetchVisitor _ => reply.visitor
  | .connectWallet _ _ => reply.connectAnswer
  | .linkWallet _ _ => reply.value LinkAnswer.read?
  | .unlinkWallet _ _ _ => reply.visitor
  | .setPrimaryWallet _ _ => reply.visitor
  | .logIn _ => reply.visitor
  | .logOut _ => reply.visitor
  | .startSession _ _ => reply.value SessionReport.read?
  | .recordPage _ _ => reply.done
  | .heartbeat _ => reply.done
  | .endSession _ => reply.done

end Reply

end VisitorLink
