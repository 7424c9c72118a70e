import VisitorLink.Service.Reply
import VisitorLink.Service.Request
import VisitorLink.Settings.Client
import VisitorLink.Text.Quoted
import VisitorLink.Visit.Interpreter
import VisitorLink.Visit.Opening
import VisitorLink.Wallet.Local

/-!
# A tour of a visit

One visit from its opening to its end, with a wallet provider that holds a key of its own: the
visitor is found out, a session is started, the wallet is connected, linked and verified, a second
page is viewed, and the session is ended. What the visitor would see is told in lines.
-/

namespace VisitorLink

/-! ## What is told -/

namespace Tour

/-- A name with the values of its fields. -/
def withFields (name : String) (fields : List (String × String)) : String :=
  name ++ " \x7b " ++ ", ".intercalate (fields.map fun field => field.1 ++ ": " ++ field.2) ++
    " \x7d"

/-- How the first step of linking ended. -/
def linkText : LinkOutcome → String
  | .linked => "Linked"
  | .loginRequired owner =>
      withFields "LoginRequired" [("existing_owner", Text.Quoted.write owner)]
  | .known verified =>
      withFields "AlreadyKnown" [("verified", if verified then "true" else "false")]
  | .attempted => "AlreadyAttempted"
  | .skipped => "Skipped"
  | .stale => "Stale"

/-- How the second step of linking ended. -/
def verifyText : VerifyOutcome → String
  | .verified => "Verified"
  | .swapped previous current =>
      withFields "IdentitySwapped"
        [("previous", Text.Quoted.write previous), ("current", Text.Quoted.write current)]
  | .alreadyVerified => "AlreadyVerified"
  | .stale => "Stale"

/-- The phase of linking. -/
def phaseText : LinkPhase → String
  | .unlinked => "Unlinked"
  | .unverified => "ConnectedUnverified"
  | .verified => "Verified"
  | .loginRequired owner =>
      withFields "LoginRequired" [("existing_owner", Text.Quoted.write owner)]

/-- How important a notice is. -/
def levelText : NoticeLevel → String
  | .info => "Info"
  | .success => "Success"
  | .warning => "Warning"
  | .error => "Error"

/-- The line of an event. -/
def eventLine : Event → String
  | .notice level message => "[" ++ levelText level ++ "] " ++ message
  | .swapped previous current => "Signed in as " ++ current ++ " (was " ++ previous ++ ")"
  | .loginRequired address owner =>
      address ++ " belongs to " ++ owner ++ "; verify to sign in"

/-- The line that names the wallet. -/
def walletLine (wallet : LocalWallet) : String :=
  "Wallet address: " ++ wallet.address

/-- The line that names the visitor. -/
def visitorLine (visitor : Visitor) : String :=
  "User id: " ++ visitor.id ++ " (" ++ toString visitor.wallets.length ++ " linked wallets)"

/-- The line about the first step of linking. -/
def linkLine : Except LinkError LinkOutcome → String
  | .ok outcome => "Connect: " ++ linkText outcome
  | .error error => "Connect failed: " ++ error.message

/-- The line about the second step of linking. -/
def verifyLine : Except LinkError VerifyOutcome → String
  | .ok outcome => "Verify: " ++ verifyText outcome
  | .error error => "Verify failed: " ++ error.message

/-- The line about the state in the end. -/
def stateLine (state : State) : String :=
  "Status: " ++ state.connection.status.name ++ " | phase: " ++ phaseText state.connection.phase ++
    " | primary: " ++
    (state.primaryWallet?.map fun wallet => Address.shortened wallet.address).getD "none"

/-! ## The tour -/

/-- The lines of a tour, and the error that ended it early. -/
structure Report where
  lines : List String
  error : Option AppError := none

/-- Where the session starts. -/
def firstPage : PageContext := { path := "/", screenWidth := some 1280 }

/-- Verifies the connected wallet, if there is one. -/
def verifyConnected : Errand (Option (Except LinkError VerifyOutcome)) := do
  if (← Errand.visit).state.address?.isSome then
    return some (← Errand.verifyAndFollow firstPage)
  else return none

/-- The tour of a visitor who has been found out. -/
def goOn (visitor : Visitor) : Errand Report := do
  let _ ← Errand.startSession firstPage
  let linked ← Errand.connectWallet
  let verified ← verifyConnected
  let _ ← Errand.recordPage "/wallet"
  let state := (← Errand.visit).state
  let _ ← Errand.endTracking
  let events := (← Errand.visit).events
  return {
    lines :=
      [visitorLine visitor, linkLine linked] ++ (verified.map verifyLine).toList ++
        [stateLine state] ++ events.map eventLine }

/-- The tour. Where the visitor cannot be found out, it ends at once. -/
def errand : Errand Report := do
  match ← Errand.bootstrap with
  | .error error => return { lines := [], error := some error }
  | .ok visitor => goOn visitor

/-! ## Carrying it out -/

/-- A visit with the wallet of its visitor. -/
structure Client where
  visit : Visit
  wallet : LocalWallet

/-- What the tour needs of the outside: the clock and the time, and somebody who sends requests. -/
structure Outlet (m : Type → Type) where
  now : m (Nat × Int64)
  wait : Nat → m Unit
  send : Request → m Reply
  /-- Puts the slots where they are kept. -/
  keep : Storage → m Unit

variable {m : Type → Type} [Monad m]

/-- The visit, with what it can see of the outside brought up to date. -/
def look (outlet : Outlet m) : StateT Client m Visit := do
  let (clock, time) ← outlet.now
  modify fun client =>
    { client with
      visit.outside :=
        { client.visit.outside with
          clock := clock, time := time, providerAddress := client.wallet.shown? } }
  return (← get).visit

/-- The answer of the wallet to a call. -/
def answerProvider (call : ProviderCall) (wallet : LocalWallet) : call.Answer × LocalWallet :=
  match call with
  | .requestAccounts => wallet.requestAccounts
  | .signMessage message => (wallet.sign message, wallet)

/-- Sends the heartbeats that are due, at most so many. -/
def sendHeartbeats (outlet : Outlet m) (baseUrl : String) : (limit : Nat) → StateT Client m Unit
  | 0 => pure ()
  | limit + 1 => do
      let visit ← look outlet
      match visit.dueHeartbeat? with
      | none => pure ()
      | some heartbeat =>
          modify fun client => { client with visit := client.visit.sendHeartbeat heartbeat }
          let _ ← outlet.send (.ofCall baseUrl (.heartbeat heartbeat.visitor))
          modify fun client =>
            { client with visit := client.visit.answerHeartbeat visit.tracker.heartbeats }
          sendHeartbeats outlet baseUrl limit

/-- Answers a call: the wallet answers what the provider is asked, and the reply to a request what
the service is. -/
def answer (outlet : Outlet m) (baseUrl : String) : (call : Call) → StateT Client m call.Answer
  | .provider call => do
      let (answer, wallet) := answerProvider call (← get).wallet
      modify fun client => { client with wallet := wallet }
      return answer
  | .service call => do
      let reply ← outlet.send (.ofCall baseUrl call)
      let visit ← look outlet
      sendHeartbeats outlet baseUrl (visit.outside.clock + 1)
      return reply.answer call

/-- The interpreter of a tour. -/
def interpreter (outlet : Outlet m) (baseUrl : String) : Interpreter (StateT Client m) where
  visit := look outlet
  setVisit := fun visit => do
    modify fun client => { client with visit := visit }
    outlet.keep visit.storage
  answer := answer outlet baseUrl
  sleep := fun wakeUp => outlet.wait wakeUp

/-- A visit at its start, as the settings will have it. -/
def start (settings : ClientSettings) (storage : Storage) (random : Vector UInt8 16) : Visit where
  settings :=
    { heartbeatPeriod := settings.heartbeatPeriod
      detectInterval := settings.detectInterval
      detectAttempts := settings.detectAttempts.toNat }
  outside := { sendsBeacons := true, random := random }
  storage := storage

/-- The sessions whose end was sent without waiting. -/
def beacons (visit : Visit) : List String :=
  visit.journal.filterMap fun entry =>
    match entry.inquiry with
    | .endBeacon id => some id
    | _ => none

/-- Makes a tour. The requests that nobody waited for are sent in the end. -/
def make (outlet : Outlet m) (baseUrl : String) (client : Client) : m (Report × Client) := do
  let (report, client) ← ((interpreter outlet baseUrl).carryOut errand).run client
  for id in beacons client.visit do
    let _ ← outlet.send (.ofCall baseUrl (.endSession id))
  return (report, client)

/-- The wallet that the environment names, or else one with the given secret. -/
def wallet (cause : List Char → String) (env : Environment) (seed : Vector UInt8 32) :
    Except ConfigError LocalWallet :=
  match env.text? "IDENTITY_SIGNING_KEY" with
  | some secret => LocalWallet.ofSecret cause secret
  | none => .ok { seed := seed.toList, seed_length := by simp }

/-- The settings and the wallet of a tour. Settings that are refused come first. -/
def prepare (cause : List Char → String) (env : Environment) (seed : Vector UInt8 32) :
    Except ConfigError (ClientSettings × LocalWallet) := do
  let settings ← ClientSettings.ofEnvironment env
  return (settings, ← wallet cause env seed)

end Tour

end VisitorLink
