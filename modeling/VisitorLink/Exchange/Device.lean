import VisitorLink.Json.Basic

/-!
# Kinds of device

The kind of device reported with a session, which is the width of its screen in three classes. A
kind is written as its name; a reader also takes an object with the name as its only key and null
as its value.
-/

namespace VisitorLink

/-- The kind of device that a visitor uses. -/
inductive Device
  | mobile
  | tablet
  | desktop
deriving DecidableEq, Repr

namespace Device

/-- The kind of device whose screen has a given width. -/
def ofWidth (width : UInt32) : Device :=
  if width < 768 then .mobile else if width < 1024 then .tablet else .desktop

/-- The name of a kind. -/
def name : Device → String
  | .mobile => "mobile"
  | .tablet => "tablet"
  | .desktop => "desktop"

/-- The kind with a given name. -/
def ofName? (name : String) : Option Device :=
  [mobile, tablet, desktop].find? fun device => device.name == name

/-- Reads a kind. -/
def read? : Json → Option Device
  | .str text => text.bind ofName?
  | .obj [(some name, .null)] => ofName? name
  | _ => none

/-- The written form of a kind. -/
def toJson (device : Device) : Json :=
  .text device.name

theorem read?_toJson (device : Device) : read? device.toJson = some device := by
  cases device <;> rfl

end Device

end VisitorLink
