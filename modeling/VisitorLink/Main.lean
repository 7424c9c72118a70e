import Std.Async.DNS
import Std.Async.TCP
import Std.Async.Timer
import VisitorLink.Service.Wire
import VisitorLink.Settings.Log
import VisitorLink.Tour

/-!
# The command line

Makes a tour with the settings of the environment, and prints its lines. The slots are kept in the
files of a folder. Only connections that are not encrypted are known here.
-/

namespace VisitorLink.CommandLine

open Std.Async Std.Net

/-! ## Requests -/

/-- Receives bytes until the server closes the connection. -/
partial def receiveAll (client : TCP.Socket.Client) (received : ByteArray) : Async ByteArray := do
  match ← client.recv? 65536 with
  | some bytes => receiveAll client (received ++ bytes)
  | none => return received

/-- Sends a text to a server and receives what it answers. -/
def exchange (url : Url) (text : String) : Async ByteArray := do
  let addresses ← DNS.getAddrInfo url.host (toString url.port)
  let port := UInt16.ofNat url.port
  match addresses[0]? with
  | none => throw (IO.userError "the host has no address")
  | some address =>
      let client ← TCP.Socket.Client.mk
      client.connect <|
        match address with
        | .v4 address => .v4 ⟨address, port⟩
        | .v6 address => .v6 ⟨address, port⟩
      client.send text.toUTF8
      receiveAll client .empty

/-- Waits, and then gives up. -/
def giveUp (milliseconds : Nat) : Async ByteArray := do
  Std.Async.sleep (Std.Time.Millisecond.Offset.ofNat milliseconds)
  throw (IO.userError "operation timed out")

/-- Sends a request. -/
def send (timeout : Nat) (request : Request) : IO Reply := do
  let failed := "error sending request for url (" ++ request.url ++ ")"
  match Url.read? Url.asciiHost? request.url with
  | none => return .missing "builder error"
  | some url =>
      if url.isSecure then return .missing failed
      try
        let bytes ← (Async.race (exchange url (Wire.write url request)) (giveUp timeout)).block
        return Wire.reply bytes.data.toList
      catch _ => return .missing failed

/-! ## Slots -/

/-- The path of a slot's file. -/
def slotPath (folder : String) (slot : Slot) : String :=
  LogSettings.joinPath folder slot.fileName

/-- Reads the file of a slot. A file that cannot be read counts as a folder in its place. -/
def readSlot (folder : String) (slot : Slot) (read : Folder) : IO Folder := do
  try
    return read.put slot.path (← IO.FS.readBinFile (slotPath folder slot))
  catch
    | .noFileOrDirectory .. => return read
    | _ => return read.withFolder slot.path

/-- Writes the file of a slot, if it has changed. -/
def writeSlot (folder : String) (before after : Storage) (slot : Slot) : IO Unit := do
  match after.root.file? slot.path with
  | some bytes =>
      if before.root.file? slot.path != some bytes then
        IO.FS.createDirAll folder
        IO.FS.writeBinFile (slotPath folder slot) bytes
  | none => pure ()

/-- Writes the slots that have changed. -/
def keep (folder : String) (kept : IO.Ref Storage) (storage : Storage) : IO Unit := do
  let before ← kept.get
  for slot in [Slot.cookies, Slot.localArea] do
    writeSlot folder before storage slot
  kept.set storage

/-! ## The program -/

/-- The variables that the program asks for. -/
def variableNames : List String :=
  ["IDENTITY_API_URL", "IDENTITY_REQUEST_TIMEOUT_SECS", "IDENTITY_HEARTBEAT_SECS",
    "IDENTITY_DETECT_INTERVAL_MS", "IDENTITY_DETECT_ATTEMPTS", "IDENTITY_STORAGE_DIR",
    "IDENTITY_SIGNING_KEY", "IDENTITY_LOG_DIR", "IDENTITY_LOG_CONSOLE", "RUST_LOG"]

/-- The environment of the program. -/
def environment : IO Environment := do
  let mut found := []
  for name in variableNames do
    match ← IO.getEnv name with
    | some text => found := (name, text) :: found
    | none => pure ()
  return Environment.ofTexts found

/-- Makes the folder of the log, or warns that there will be no log. -/
def openLog (settings : LogSettings) : IO Unit := do
  try
    IO.FS.createDirAll settings.folder
  catch error =>
    IO.eprintln ("Warning: Failed to create log directory: " ++ toString error)

/-- So many random bytes. -/
def randomBytes (count : Nat) : IO (Vector UInt8 count) := do
  let bytes ← IO.getRandomBytes (USize.ofNat count)
  return Vector.ofFn fun i => bytes.get! i.val

/-- Milliseconds since the start of 1970. -/
def currentTime : IO Int64 := do
  return Int64.ofInt (← Std.Time.Timestamp.now).toMillisecondsSinceUnixEpoch.val

/-- What a tour needs of the outside. -/
def outlet (settings : ClientSettings) (started : Nat) (kept : IO.Ref Storage) :
    Tour.Outlet IO where
  now := do return ((← IO.monoMsNow) - started, ← currentTime)
  wait := fun wakeUp => do
    let clock := (← IO.monoMsNow) - started
    IO.sleep (UInt32.ofNat (wakeUp - clock))
  send := send settings.requestTimeout
  keep := keep settings.storageFolder kept

/-- Tells an error. -/
def fail (message : String) : IO UInt32 := do
  IO.eprintln ("Error: " ++ message)
  return 1

/-- Makes a tour with a wallet. -/
def tour (settings : ClientSettings) (wallet : LocalWallet) : IO UInt32 := do
  IO.println (Tour.walletLine wallet)
  let folder ← readSlot settings.storageFolder .cookies
    (← readSlot settings.storageFolder .localArea {})
  let storage := Storage.folder folder
  let kept ← IO.mkRef storage
  let outlet := outlet settings (← IO.monoMsNow) kept
  let visit := Tour.start settings storage (← randomBytes 16)
  let (report, _) ← Tour.make outlet settings.baseUrl { visit := visit, wallet := wallet }
  for line in report.lines do
    IO.println line
  match report.error with
  | some error => fail error.message
  | none => return 0

/-- Runs the program. -/
def run : IO UInt32 := do
  let env ← environment
  openLog (LogSettings.ofEnvironment env)
  let cause (_ : List Char) := "it has characters other than those of base58"
  match Tour.prepare cause env (← randomBytes 32) with
  | .error error => fail error.message
  | .ok (settings, wallet) => tour settings wallet

end VisitorLink.CommandLine

/-- Makes a tour with the settings of the environment. -/
def main : IO UInt32 := do
  try VisitorLink.CommandLine.run
  catch error => VisitorLink.CommandLine.fail (toString error)
