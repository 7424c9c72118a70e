import VisitorLink.Rehearsal.Record

/-!
# The stage of a rehearsal

A visit with the service and the provider that answer it: the service's records, the answers that
are written down, and what is told of the steps.
-/

namespace VisitorLink.Rehearsal

/-- How the poll that was started last stands. -/
inductive Polling
  | never
  | pending (number : Nat)
  | finished (outcome : PollOutcome)

/-- A visit with those that answer it. -/
structure Stage where
  visit : Visit
  /-- Whether the end of a session is always waited for, whatever the provider's settings say. -/
  withoutBeacons : Bool := false
  /-- The visitors that the service has records of, by their ids. -/
  visitors : List (String × Visitor) := []
  accounts : AccountsAnswer := { code := some AccountsAnswer.granted }
  authorized : Option String := none
  queued : CallName → List Reply := fun _ => []
  always : CallName → Option Reply := fun _ => none
  polling : Polling := .never
  /-- What nobody has told yet, newest first. -/
  log : List (LogItem Record) := []
  /-- The records of the script, once it has been played to its end. -/
  told : Option (List Record) := none
  /-- The random bytes that each operation finds, by the number of operations before it. -/
  random : Nat → Vector UInt8 16
  operations : Nat := 0

namespace Stage

/-- The time on the clock. -/
def clock (stage : Stage) : Nat :=
  stage.visit.clock

/-- How far ahead, in milliseconds, a wait on the stage can be set at most: thirty years of 365
days. -/
def longestWait : Nat := 30 * 365 * 24 * 60 * 60 * 1000

/-- What a wait on the stage comes to. A longer one than the longest ends early. -/
def wait (milliseconds : Nat) : Nat :=
  min milliseconds longestWait

/-- The stage with the clock at a time. -/
def setClock (stage : Stage) (time : Nat) : Stage :=
  { stage with visit.outside.clock := time }

/-- Moves the journal of the visit to the log. -/
def collect (stage : Stage) : Stage :=
  { stage with
    log := stage.visit.journal.foldl (fun log entry => .inquiry entry :: log) stage.log
    visit.journal := [] }

/-- Takes the answer that a call of a kind gets: one that is queued, or else the one that calls of
the kind always get. -/
def takeReply (stage : Stage) (name : CallName) : Reply × Stage :=
  match stage.queued name with
  | reply :: rest =>
      (reply, { stage with
        queued := fun other => if other = name then rest else stage.queued other })
  | [] => ((stage.always name).getD (.mk [] .standard), stage)

/-- The stage with new settings of the provider. -/
def changeProvider (stage : Stage) (change : ProviderChange) : Stage :=
  let outside := stage.visit.outside
  { stage with
    visit.outside :=
      { outside with
        providerPresent := change.present.getD outside.providerPresent
        providerAddress := change.address.getD outside.providerAddress
        providerSigns := change.signs.getD outside.providerSigns
        sendsBeacons := change.beacons.getD outside.sendsBeacons && !stage.withoutBeacons }
    accounts :=
      { code := change.code.getD stage.accounts.code
        message := change.message.getD stage.accounts.message }
    authorized := change.authorized.getD stage.authorized }

/-! ## Standard answers -/

/-- The time that records of the service bear. -/
def recordTime : Timestamp where
  date := ⟨2025, 1, 1, by decide, by decide, by decide⟩
  second := 0
  nanosecond := 0
  second_range := by decide
  nanosecond_range := by decide

/-- Changes the record of a visitor, which is made if there is none. -/
def changeVisitor (stage : Stage) (id : String) (change : Visitor → Visitor) : Visitor × Stage :=
  let visitor := change ((stage.visitors.lookup id).getD { id := id })
  (visitor, { stage with visitors := Pairs.without stage.visitors id ++ [(id, visitor)] })

/-- A wallet that the service has just linked. -/
def newWallet (address : String) (verified : Bool) : Wallet :=
  { address := address, linkedAt := recordTime, verified := verified, lastUsed := recordTime }

/-- The visitor with an address linked. -/
def withWallet (address : String) (visitor : Visitor) : Visitor :=
  if visitor.hasWallet address then visitor
  else { visitor with wallets := visitor.wallets ++ [newWallet address false] }

/-- The wallets with the first one of an address verified. -/
def verifyFirst (address : String) : List Wallet → List Wallet
  | [] => []
  | wallet :: wallets =>
      if wallet.address = address then { wallet with verified := true } :: wallets
      else wallet :: verifyFirst address wallets

/-- The visitor with an address linked and verified. -/
def withVerified (address : String) (visitor : Visitor) : Visitor :=
  if visitor.hasWallet address then
    { visitor with wallets := verifyFirst address visitor.wallets }
  else { visitor with wallets := visitor.wallets ++ [newWallet address true] }

/-- The visitor without an address. -/
def withoutWallet (address : String) (visitor : Visitor) : Visitor :=
  { visitor with wallets := visitor.wallets.filter fun wallet => wallet.address != address }

/-- The visitor with the wallets of an address marked as primary, and no other. -/
def withPrimary (address : String) (visitor : Visitor) : Visitor :=
  { visitor with
    wallets := visitor.wallets.map fun wallet =>
      { wallet with isPrimary := wallet.address == address } }

/-- The value of a call to the service, and the service after it. -/
def serve (stage : Stage) : (call : ServiceCall) → call.Value × Stage
  | .fetchVisitor id => stage.changeVisitor id fun visitor => visitor
  | .connectWallet id address =>
      let (visitor, stage) := stage.changeVisitor id (withWallet address)
      (({ success := true, visitor := some visitor } : ConnectAnswer), stage)
  | .linkWallet id request =>
      let (visitor, stage) := stage.changeVisitor id (withVerified request.address)
      (({ visitor := visitor } : LinkAnswer), stage)
  | .unlinkWallet id address _ => stage.changeVisitor id (withoutWallet address)
  | .setPrimaryWallet id address => stage.changeVisitor id (withPrimary address)
  | .logIn id => stage.changeVisitor id fun visitor => { visitor with isLoggedIn := true }
  | .logOut id => stage.changeVisitor id fun visitor => { visitor with isLoggedIn := false }
  | .startSession _ _ => (({} : SessionReport), stage)
  | .recordPage _ _ => ((), stage)
  | .heartbeat _ => ((), stage)
  | .endSession _ => ((), stage)

/-! ## Answers that are written down -/

/-- The value that is written down for a call to the service, if it fits the call. -/
def written? (content : Content) : (call : ServiceCall) → Option call.Value
  | .fetchVisitor _ => content.visitor?
  | .connectWallet _ _ => content.connected?
  | .linkWallet _ _ => content.linked?
  | .unlinkWallet _ _ _ => content.visitor?
  | .setPrimaryWallet _ _ => content.visitor?
  | .logIn _ => content.visitor?
  | .logOut _ => content.visitor?
  | .startSession _ _ => none
  | .recordPage _ _ => none
  | .heartbeat _ => none
  | .endSession _ => none

/-- Answers a call to the service. -/
def answerService (stage : Stage) (content : Content) (call : ServiceCall) :
    call.Answer × Stage :=
  match content with
  | .failure error => (.error error, stage)
  | content =>
      match written? content call with
      | some value => (.ok value, stage)
      | none =>
          let (value, stage) := stage.serve call
          (.ok value, stage)

/-- Answers a request for accounts, which may change the address that the provider shows. -/
def answerAccounts (stage : Stage) (content : Content) : AccountsAnswer × Stage :=
  let (answer, authorized) :=
    match content with
    | .accounts answer authorized => (answer, authorized)
    | _ => (stage.accounts, stage.authorized)
  match authorized with
  | some address => (answer, { stage with visit.outside.providerAddress := some address })
  | none => (answer, stage)

/-- The answer to a request for a signature. -/
def signature : Content → Except String String
  | .signature text => .ok text
  | .unsigned reason => .error reason
  | _ => .ok "fake-signature"

/-- Answers a call. -/
def answer (stage : Stage) (content : Content) : (call : Call) → call.Answer × Stage
  | .provider .requestAccounts => stage.answerAccounts content
  | .provider (.signMessage _) => (signature content, stage)
  | .service call => stage.answerService content call

/-! ## The background -/

/-- Starts a poll in the background. -/
def startPolling (stage : Stage) : Stage :=
  { stage with operations := stage.operations + 1, polling := .pending stage.operations }

/-- Takes note that a poll in the background has ended. Only the one started last is told of. -/
def endPolling (stage : Stage) (number : Nat) (polling : Polling) : Stage :=
  match stage.polling with
  | .pending last => if last = number then { stage with polling := polling } else stage
  | _ => stage

/-- The number of the heartbeat that goes on. -/
def heartbeat? (stage : Stage) : Option Nat :=
  stage.visit.tracker.heartbeat.map fun _ => stage.visit.tracker.heartbeats

/-- The number of the poll that goes on, or that nobody has begun yet. -/
def poll? (stage : Stage) : Option Nat :=
  match stage.polling with
  | .pending number => some number
  | _ => none

end Stage

end VisitorLink.Rehearsal
