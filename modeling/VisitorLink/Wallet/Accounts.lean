import VisitorLink.Error
import VisitorLink.Wallet.Address

/-!
# Answers to a request for accounts

A provider answers a request for accounts with a code. Which error a code stands for is decided
here once: `AccountsAnswer.outcome`.
-/

namespace VisitorLink

/-- What a provider answers to a request for accounts. A locked provider answers without a code. -/
structure AccountsAnswer where
  code : Option Int64
  message : Option String := none
deriving DecidableEq, Repr

namespace AccountsAnswer

/-- The code of a granted request. -/
def granted : Int64 := 200

/-- The code of a request that came while another one waited for the visitor. -/
def pending : Int64 := 4000

/-- The code of a request that the visitor rejected. -/
def rejected : Int64 := 4001

/-- The wording for a code that no rule knows. -/
def unexpected (code : Int64) : String :=
  "unexpected response code " ++ toString code.toInt

/-- Whether the request was granted, and the error if not. -/
def outcome (answer : AccountsAnswer) : Except ConnectionError Unit :=
  match answer.code with
  | none => .error .providerLocked
  | some code =>
      if code = granted then .ok ()
      else if code = pending then .error .requestPending
      else if code = rejected then .error .userRejected
      else .error (.unknownProvider (answer.message.getD (unexpected code)))

end AccountsAnswer

/-- The address that a provider shows, if it is well formed. -/
def Address.shown? (reported : Option String) : Option String :=
  reported.filter fun address => decide (WellFormed address)

theorem Address.wellFormed_of_shown? {reported : Option String} {address : String}
    (shown : shown? reported = some address) : WellFormed address := by
  simpa using (Option.filter_eq_some_iff.mp shown).2

end VisitorLink
