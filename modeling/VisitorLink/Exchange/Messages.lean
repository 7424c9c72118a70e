import VisitorLink.Exchange.Device
import VisitorLink.Visitor.Record

/-!
# Messages exchanged with the service

The bodies of requests and answers, each with its record. Members that have no value are left out
when a message is written.
-/

namespace VisitorLink

/-- Asks to link an address that is not verified. -/
structure ConnectRequest where
  address : String
deriving DecidableEq

/-- The answer to a request to link an address: the visitor if that was done, or the visitor who
already owns the address. -/
structure ConnectAnswer where
  success : Bool
  visitor : Option Visitor := none
  loginRequired : Bool := false
  owner : Option String := none
  message : Option String := none
deriving DecidableEq

/-- Proves the ownership of an address by a signature. -/
structure LinkRequest where
  address : String
  message : String
  signature : String
  timestamp : Int64
deriving DecidableEq

/-- The answer to a proof of ownership. If the visitor was swapped, it is the one who owned the
address before. -/
structure LinkAnswer where
  visitor : Visitor
  swapped : Bool := false
  previous : Option String := none
deriving DecidableEq

/-- Asks to remove an address, signed with its key. -/
structure UnlinkRequest where
  message : String
  signature : String
deriving DecidableEq

/-- Tells that a session starts. -/
structure StartRequest where
  referrer : Option String := none
  screenWidth : Option UInt32 := none
  device : Option Device := none
deriving DecidableEq

/-- Tells that a page is viewed. -/
structure PageView where
  path : String
deriving DecidableEq

/-- A session as the service reports it. -/
structure SessionReport where
  startedAt : Option Timestamp := none
  lastActivity : Option Timestamp := none
  pagesViewed : UInt32 := 0
  durationSeconds : UInt64 := 0
  device : Option String := none
  referrer : Option String := none
deriving DecidableEq

/-- The answer of every request that changes a visitor. -/
structure VisitorAnswer where
  visitor : Visitor
deriving DecidableEq

/-- The reason that the service gives for refusing a request. -/
structure Refusal where
  error : String
deriving DecidableEq

/-! ## Records -/

/-- The fields of the record. -/
def ConnectRequest.schema : Json.Schema where
  fields := ["address"]

/-- Reads the record. -/
def ConnectRequest.read? (value : Json) : Option ConnectRequest := do
  let fields ← schema.fields? value
  return { address := ← fields.required? "address" Json.text? }

/-- The record of the request. -/
def ConnectRequest.toJson (request : ConnectRequest) : Json :=
  .object [("address", .text request.address)]

/-- The fields of the record. -/
def ConnectAnswer.schema : Json.Schema where
  fields := ["success", "user", "loginRequired", "existingUserId", "message"]

/-- Reads the record. -/
def ConnectAnswer.read? (value : Json) : Option ConnectAnswer := do
  let fields ← schema.fields? value
  return {
    success := ← fields.required? "success" Json.bool?
    visitor := ← fields.optional? "user" Visitor.read?
    loginRequired := ← fields.defaulted? "loginRequired" Json.bool? false
    owner := ← fields.optional? "existingUserId" Json.text?
    message := ← fields.optional? "message" Json.text? }

/-- The record of the answer. -/
def ConnectAnswer.toJson (answer : ConnectAnswer) : Json :=
  .object ([("success", .bool answer.success)] ++
    Json.optionalMember "user" (answer.visitor.map Visitor.toJson) ++
    [("loginRequired", .bool answer.loginRequired)] ++
    Json.optionalMember "existingUserId" (answer.owner.map .text) ++
    Json.optionalMember "message" (answer.message.map .text))

/-- The fields of the record. -/
def LinkRequest.schema : Json.Schema where
  fields := ["address", "message", "signature", "timestamp"]

/-- Reads the record. -/
def LinkRequest.read? (value : Json) : Option LinkRequest := do
  let fields ← schema.fields? value
  return {
    address := ← fields.required? "address" Json.text?
    message := ← fields.required? "message" Json.text?
    signature := ← fields.required? "signature" Json.text?
    timestamp := ← fields.required? "timestamp" Json.signed64? }

/-- The record of the request. -/
def LinkRequest.toJson (request : LinkRequest) : Json :=
  .object [("address", .text request.address),
    ("message", .text request.message),
    ("signature", .text request.signature),
    ("timestamp", .ofInt request.timestamp.toInt)]

/-- The fields of the record. -/
def LinkAnswer.schema : Json.Schema where
  fields := ["user", "identitySwapped", "previousUserId"]

/-- Reads the record. -/
def LinkAnswer.read? (value : Json) : Option LinkAnswer := do
  let fields ← schema.fields? value
  return {
    visitor := ← fields.required? "user" Visitor.read?
    swapped := ← fields.defaulted? "identitySwapped" Json.bool? false
    previous := ← fields.optional? "previousUserId" Json.text? }

/-- The record of the answer. -/
def LinkAnswer.toJson (answer : LinkAnswer) : Json :=
  .object ([("user", answer.visitor.toJson),
    ("identitySwapped", .bool answer.swapped)] ++
    Json.optionalMember "previousUserId" (answer.previous.map .text))

/-- The fields of the record. -/
def UnlinkRequest.schema : Json.Schema where
  fields := ["message", "signature"]

/-- Reads the record. -/
def UnlinkRequest.read? (value : Json) : Option UnlinkRequest := do
  let fields ← schema.fields? value
  return {
    message := ← fields.required? "message" Json.text?
    signature := ← fields.required? "signature" Json.text? }

/-- The record of the request. -/
def UnlinkRequest.toJson (request : UnlinkRequest) : Json :=
  .object [("message", .text request.message), ("signature", .text request.signature)]

/-- The fields of the record. -/
def StartRequest.schema : Json.Schema where
  fields := ["referrer", "screenWidth", "device"]

/-- Reads the record. -/
def StartRequest.read? (value : Json) : Option StartRequest := do
  let fields ← schema.fields? value
  return {
    referrer := ← fields.optional? "referrer" Json.text?
    screenWidth := ← fields.optional? "screenWidth" Json.word32?
    device := ← fields.optional? "device" Device.read? }

/-- The record of the request. -/
def StartRequest.toJson (request : StartRequest) : Json :=
  .object (Json.optionalMember "referrer" (request.referrer.map .text) ++
    Json.optionalMember "screenWidth" (request.screenWidth.map fun w => .ofNat w.toNat) ++
    Json.optionalMember "device" (request.device.map Device.toJson))

/-- The fields of the record. -/
def PageView.schema : Json.Schema where
  fields := ["path"]

/-- Reads the record. -/
def PageView.read? (value : Json) : Option PageView := do
  let fields ← schema.fields? value
  return { path := ← fields.required? "path" Json.text? }

/-- The record of the view. -/
def PageView.toJson (view : PageView) : Json :=
  .object [("path", .text view.path)]

/-- The fields of the record. -/
def SessionReport.schema : Json.Schema where
  fields :=
    ["startedAt", "lastActivity", "pagesViewed", "durationSeconds", "device", "referrer"]

/-- Reads the record. -/
def SessionReport.read? (value : Json) : Option SessionReport := do
  let fields ← schema.fields? value
  return {
    startedAt := ← fields.optional? "startedAt" Json.timestamp?
    lastActivity := ← fields.optional? "lastActivity" Json.timestamp?
    pagesViewed := ← fields.defaulted? "pagesViewed" Json.word32? 0
    durationSeconds := ← fields.defaulted? "durationSeconds" Json.word64? 0
    device := ← fields.optional? "device" Json.text?
    referrer := ← fields.optional? "referrer" Json.text? }

/-- The record of the report. -/
def SessionReport.toJson (report : SessionReport) : Json :=
  .object (
    Json.optionalMember "startedAt" (report.startedAt.map fun t => .text (Rfc3339.write t)) ++
    Json.optionalMember "lastActivity" (report.lastActivity.map fun t => .text (Rfc3339.write t)) ++
    [("pagesViewed", .ofNat report.pagesViewed.toNat),
      ("durationSeconds", .ofNat report.durationSeconds.toNat)] ++
    Json.optionalMember "device" (report.device.map .text) ++
    Json.optionalMember "referrer" (report.referrer.map .text))

/-- The fields of the record. -/
def VisitorAnswer.schema : Json.Schema where
  fields := ["user"]

/-- Reads the record. -/
def VisitorAnswer.read? (value : Json) : Option VisitorAnswer := do
  let fields ← schema.fields? value
  return { visitor := ← fields.required? "user" Visitor.read? }

/-- The record of the answer. -/
def VisitorAnswer.toJson (answer : VisitorAnswer) : Json :=
  .object [("user", answer.visitor.toJson)]

/-- The fields of the record. The reason may also go by `message`. -/
def Refusal.schema : Json.Schema where
  fields := ["error"]
  aliases := [("message", "error")]

/-- Reads the record. -/
def Refusal.read? (value : Json) : Option Refusal := do
  let fields ← schema.fields? value
  return { error := ← fields.required? "error" Json.text? }

/-- The record of the refusal. -/
def Refusal.toJson (refusal : Refusal) : Json :=
  .object [("error", .text refusal.error)]

end VisitorLink
