import VisitorLink.Text.Decimal

/-!
# Challenges

The text that a visitor signs to prove the ownership of a wallet. It names what the signature is
for, the address, and the time in milliseconds.
-/

namespace VisitorLink

/-- What a signature is asked for. -/
inductive Purpose
  | link
  | login
  | unlink
deriving DecidableEq, Repr

namespace Purpose

/-- The name of a purpose. -/
def name : Purpose → String
  | .link => "link"
  | .login => "login"
  | .unlink => "unlink"

/-- The sentence that the visitor reads. -/
def prompt : Purpose → String
  | .link => "Sign this message to link your wallet to your account."
  | .login => "Sign this message to log in with your wallet."
  | .unlink => "Sign this message to remove this wallet from your account."

end Purpose

/-- The text to sign, as far as the timestamp. -/
def challengeHead (purpose : Purpose) (address : String) : String :=
  purpose.prompt ++ "\n\nWallet: " ++ address ++ "\nPurpose: " ++ purpose.name ++ "\nTimestamp: "

/-- The text to sign. -/
def challenge (purpose : Purpose) (address : String) (time : Int64) : String :=
  challengeHead purpose address ++ String.ofList (Text.Decimal.ofInt time.toInt)

end VisitorLink
