import VisitorLink.Settings.Environment

/-!
# Settings of the log

Where the log is written, how much of it, and whether it also goes to the console.
-/

namespace VisitorLink

/-- The settings of the log. -/
structure LogSettings where
  folder : String := "logs"
  /-- The name that the daily files start with. -/
  fileName : String := "identity-client.log"
  level : String := "identity_client=info,warn"
  console : Bool := false
deriving DecidableEq, Repr

namespace LogSettings

/-- The settings that the environment gives. -/
def ofEnvironment (env : Environment) : LogSettings :=
  let defaults : LogSettings := {}
  { folder := env.getOr "IDENTITY_LOG_DIR" defaults.folder
    level := env.getOr "RUST_LOG" defaults.level
    console := env.text? "IDENTITY_LOG_CONSOLE" == some "1" }

/-- The path of a file in a folder. A folder without a name, or with a slash at its end, needs no
further slash. -/
def joinPath (folder file : String) : String :=
  match folder.toList.getLast? with
  | none => file
  | some '/' => folder ++ file
  | some _ => folder ++ "/" ++ file

/-- The path of the log. -/
def path (settings : LogSettings) : String :=
  joinPath settings.folder settings.fileName

/-- Whether a text occurs in another one. -/
def occursIn (part : List Char) : List Char → Bool
  | [] => part.isEmpty
  | c :: rest => part.isPrefixOf (c :: rest) || occursIn part rest

/-- Whether the level lets details through. -/
def isDetailed (settings : LogSettings) : Bool :=
  occursIn "debug".toList settings.level.toList || occursIn "trace".toList settings.level.toList

end LogSettings

end VisitorLink
