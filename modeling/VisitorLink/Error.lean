/-!
# Errors

What can go wrong, by the part of the client that meets it, and the wording of each. None of these
ends a visit: after each of them the visitor may try again.
-/

namespace VisitorLink

/-- Why the wallet provider could not be connected. -/
inductive ConnectionError
  | providerNotDetected
  | requestPending
  | userRejected
  | providerLocked
  | unknownProvider (reason : String)
  | addressUnavailable
  | inProgress
deriving DecidableEq, Repr

/-- The wording of an error. -/
def ConnectionError.message : ConnectionError → String
  | .providerNotDetected =>
      "TronLink wallet not detected. Please install the TronLink extension and refresh the page."
  | .requestPending =>
      "A connection request is already pending in TronLink. Please check the extension."
  | .userRejected => "Connection request was rejected in TronLink"
  | .providerLocked => "TronLink is locked. Please unlock your wallet and try again."
  | .unknownProvider reason => "TronLink error: " ++ reason
  | .addressUnavailable => "Connected to TronLink but no wallet address is available"
  | .inProgress => "A connection attempt is already in progress"

/-- Why a wallet could not be linked, verified, changed or used to log in or out. -/
inductive LinkError
  | connectFailed (reason : String)
  | verifyFailed (reason : String)
  | signatureUnavailable
  | loginFailed (reason : String)
  | logoutFailed (reason : String)
  | walletUpdateFailed (reason : String)
  | noIdentity
  | noConnectedWallet
deriving DecidableEq, Repr

/-- The wording of an error. -/
def LinkError.message : LinkError → String
  | .connectFailed reason => "Failed to connect wallet: " ++ reason
  | .verifyFailed reason => "Failed to verify wallet: " ++ reason
  | .signatureUnavailable => "Wallet does not support message signing"
  | .loginFailed reason => "Login failed: " ++ reason
  | .logoutFailed reason => "Logout failed: " ++ reason
  | .walletUpdateFailed reason => "Failed to update wallet: " ++ reason
  | .noIdentity => "No user identity is loaded"
  | .noConnectedWallet => "No wallet is connected"

/-- Whether the visit can go on after an error, which it always can. -/
def LinkError.isRecoverable (_ : LinkError) : Bool :=
  true

/-- Why the service gave no usable answer. -/
inductive ApiError
  | network (reason : String)
  | status (code : UInt16) (reason : String)
  | parse (reason : String)
deriving DecidableEq, Repr

/-- The wording of an error. -/
def ApiError.message : ApiError → String
  | .network reason => "Network error: " ++ reason
  | .status code reason => "HTTP " ++ toString code.toNat ++ ": " ++ reason
  | .parse reason => "Failed to parse response: " ++ reason

/-- The wording shown to the visitor: the service's own words where it refused the request. -/
def ApiError.userMessage : ApiError → String
  | .status _ reason => reason
  | error => error.message

/-- Why a slot could not be read or written. -/
inductive StorageError
  | io (reason : String)
  | corrupt (reason : String)
deriving DecidableEq, Repr

/-- The wording of an error. -/
def StorageError.message : StorageError → String
  | .io reason => "Storage I/O error: " ++ reason
  | .corrupt reason => "Storage file is corrupt: " ++ reason

/-- Why a variable of the environment has no usable value. -/
inductive VariableError
  | missing (name : String)
  | malformed (name : String)
deriving DecidableEq, Repr

/-- The wording of an error. -/
def VariableError.message : VariableError → String
  | .missing name => "MissingEnv(\"" ++ name ++ "\")"
  | .malformed name => "WrongFormat(\"" ++ name ++ "\")"

/-- Why a configuration is refused. -/
inductive ConfigError
  | badVariable (name : String)
  | parse (reason : String)
  | invalid (reason : String)
deriving DecidableEq, Repr

/-- The wording of an error. -/
def ConfigError.message : ConfigError → String
  | .badVariable name => "Environment variable " ++ name ++ " has an invalid format"
  | .parse reason => "Invalid configuration file: " ++ reason
  | .invalid reason => "Invalid configuration: " ++ reason

/-- A variable without a usable value refuses the configuration, for whichever reason. -/
def ConfigError.ofVariable : VariableError → ConfigError
  | .missing name => .badVariable name
  | .malformed name => .badVariable name

/-- Any of the errors. -/
inductive AppError
  | connection (error : ConnectionError)
  | link (error : LinkError)
  | api (error : ApiError)
  | storage (error : StorageError)
  | config (error : ConfigError)
deriving DecidableEq, Repr

/-- The wording of an error, which is that of the part it comes from. -/
def AppError.message : AppError → String
  | .connection error => error.message
  | .link error => error.message
  | .api error => error.message
  | .storage error => error.message
  | .config error => error.message

end VisitorLink
