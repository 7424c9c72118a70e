import VisitorLink.Calendar.Rfc3339
import VisitorLink.Json.Schema

/-!
# Linked wallets

A wallet is linked to a visitor by its address. It is verified once the service has accepted a
signature made with its key.
-/

namespace VisitorLink

/-- Reads a point in time. -/
def Json.timestamp? (value : Json) : Option Timestamp :=
  value.text?.bind Rfc3339.read?

/-- A wallet address that is linked to a visitor. -/
structure Wallet where
  address : String
  linkedAt : Timestamp
  verified : Bool := false
  isPrimary : Bool := false
  lastUsed : Timestamp
  label : Option String := none
deriving DecidableEq

namespace Wallet

/-- The fields of the record. -/
def schema : Json.Schema where
  fields := ["address", "linkedAt", "verified", "isPrimary", "lastUsed", "label"]

/-- Reads the record. -/
def read? (value : Json) : Option Wallet := do
  let fields ← schema.fields? value
  return {
    address := ← fields.required? "address" Json.text?
    linkedAt := ← fields.required? "linkedAt" Json.timestamp?
    verified := ← fields.defaulted? "verified" Json.bool? false
    isPrimary := ← fields.defaulted? "isPrimary" Json.bool? false
    lastUsed := ← fields.required? "lastUsed" Json.timestamp?
    label := ← fields.optional? "label" Json.text? }

/-- The record of a wallet. -/
def toJson (wallet : Wallet) : Json :=
  .object ([("address", .text wallet.address),
    ("linkedAt", .text (Rfc3339.write wallet.linkedAt)),
    ("verified", .bool wallet.verified),
    ("isPrimary", .bool wallet.isPrimary),
    ("lastUsed", .text (Rfc3339.write wallet.lastUsed))] ++
    Json.optionalMember "label" (wallet.label.map .text))

end Wallet

end VisitorLink
