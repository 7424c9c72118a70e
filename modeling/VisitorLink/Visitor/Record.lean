import VisitorLink.Wallet.Record

/-!
# Visitors

A visitor is known to the service by an id, whether or not anybody has logged in. Visitors carry
the wallets linked to them, their preferences, and counters of their activity.
-/

namespace VisitorLink

/-- What a visitor has chosen. -/
structure Preferences where
  theme : Option String := none
  notifications : Bool := false
  timezone : Option String := none
  language : Option String := none
deriving DecidableEq

/-- When a visitor was seen, and how much they did. -/
structure Activity where
  firstSeen : Option Timestamp := none
  lastSeen : Option Timestamp := none
  pageViews : UInt64 := 0
  totalSessions : UInt64 := 0
  totalDurationSeconds : UInt64 := 0
deriving DecidableEq

/-- A visitor as the service keeps them. -/
structure Visitor where
  id : String
  isLoggedIn : Bool := false
  wallets : List Wallet := []
  preferences : Preferences := {}
  activity : Activity := {}
  createdAt : Option Timestamp := none
  updatedAt : Option Timestamp := none
deriving DecidableEq

namespace Visitor

/-! ## Wallets of a visitor -/

/-- The first linked wallet with an address. -/
def wallet? (visitor : Visitor) (address : String) : Option Wallet :=
  visitor.wallets.find? fun wallet => wallet.address == address

/-- Whether an address is linked to the visitor. -/
def hasWallet (visitor : Visitor) (address : String) : Bool :=
  (visitor.wallet? address).isSome

/-- Whether an address is linked to the visitor by an accepted signature. -/
def hasVerified (visitor : Visitor) (address : String) : Bool :=
  (visitor.wallet? address).any Wallet.verified

/-- The wallet that was used last, and of several the last in the list. -/
def mostRecent? (wallets : List Wallet) : Option Wallet :=
  wallets.foldl
    (fun best wallet =>
      match best with
      | none => some wallet
      | some other => if other.lastUsed.rank ≤ wallet.lastUsed.rank then some wallet else best)
    none

/-- The wallet shown as the visitor's: the first one that the service marks as primary; if there
is none, the most recently used verified one; if there is none, the most recently used one. -/
def primaryWallet? (visitor : Visitor) : Option Wallet :=
  (visitor.wallets.find? Wallet.isPrimary).or
    ((mostRecent? (visitor.wallets.filter Wallet.verified)).or
      (mostRecent? (visitor.wallets.filter fun wallet => !wallet.verified)))

end Visitor

/-! ## Records -/

/-- The fields of the record. -/
def Preferences.schema : Json.Schema where
  fields := ["theme", "notifications", "timezone", "language"]

/-- Reads the record. -/
def Preferences.read? (value : Json) : Option Preferences := do
  let fields ← schema.fields? value
  return {
    theme := ← fields.optional? "theme" Json.text?
    notifications := ← fields.defaulted? "notifications" Json.bool? false
    timezone := ← fields.optional? "timezone" Json.text?
    language := ← fields.optional? "language" Json.text? }

/-- The record of preferences. -/
def Preferences.toJson (preferences : Preferences) : Json :=
  .object (Json.optionalMember "theme" (preferences.theme.map .text) ++
    [("notifications", .bool preferences.notifications)] ++
    Json.optionalMember "timezone" (preferences.timezone.map .text) ++
    Json.optionalMember "language" (preferences.language.map .text))

/-- The fields of the record. -/
def Activity.schema : Json.Schema where
  fields := ["firstSeen", "lastSeen", "pageViews", "totalSessions", "totalDurationSeconds"]

/-- Reads the record. -/
def Activity.read? (value : Json) : Option Activity := do
  let fields ← schema.fields? value
  return {
    firstSeen := ← fields.optional? "firstSeen" Json.timestamp?
    lastSeen := ← fields.optional? "lastSeen" Json.timestamp?
    pageViews := ← fields.defaulted? "pageViews" Json.word64? 0
    totalSessions := ← fields.defaulted? "totalSessions" Json.word64? 0
    totalDurationSeconds := ← fields.defaulted? "totalDurationSeconds" Json.word64? 0 }

/-- The record of an activity. -/
def Activity.toJson (activity : Activity) : Json :=
  .object (
    Json.optionalMember "firstSeen" (activity.firstSeen.map fun t => .text (Rfc3339.write t)) ++
    Json.optionalMember "lastSeen" (activity.lastSeen.map fun t => .text (Rfc3339.write t)) ++
    [("pageViews", .ofNat activity.pageViews.toNat),
      ("totalSessions", .ofNat activity.totalSessions.toNat),
      ("totalDurationSeconds", .ofNat activity.totalDurationSeconds.toNat)])

/-- The fields of the record. The id may also go by `userId`. -/
def Visitor.schema : Json.Schema where
  fields := ["id", "isLoggedIn", "wallets", "preferences", "activity", "createdAt", "updatedAt"]
  aliases := [("userId", "id")]

/-- Reads the record. -/
def Visitor.read? (value : Json) : Option Visitor := do
  let fields ← schema.fields? value
  return {
    id := ← fields.required? "id" Json.text?
    isLoggedIn := ← fields.defaulted? "isLoggedIn" Json.bool? false
    wallets := ← fields.defaulted? "wallets" (Json.list? Wallet.read?) []
    preferences := ← fields.defaulted? "preferences" Preferences.read? {}
    activity := ← fields.defaulted? "activity" Activity.read? {}
    createdAt := ← fields.optional? "createdAt" Json.timestamp?
    updatedAt := ← fields.optional? "updatedAt" Json.timestamp? }

/-- The record of a visitor. -/
def Visitor.toJson (visitor : Visitor) : Json :=
  .object ([("id", .text visitor.id),
    ("isLoggedIn", .bool visitor.isLoggedIn),
    ("wallets", .arr (visitor.wallets.map Wallet.toJson)),
    ("preferences", visitor.preferences.toJson),
    ("activity", visitor.activity.toJson)] ++
    Json.optionalMember "createdAt" (visitor.createdAt.map fun t => .text (Rfc3339.write t)) ++
    Json.optionalMember "updatedAt" (visitor.updatedAt.map fun t => .text (Rfc3339.write t)))

end VisitorLink
