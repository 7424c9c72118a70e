import VisitorLink.Json.Reader
import VisitorLink.Json.Writer
import VisitorLink.Storage.Entries
import VisitorLink.Storage.Folder
import VisitorLink.Text.Blank

/-!
# Entries in a file

A file holds entries as an indented JSON object of texts. A missing file and one of nothing but
white space hold no entries. Every change writes the whole file anew; a file that cannot be read as
entries is never written.
-/

namespace VisitorLink

namespace Entries

/-- Reads the entries that a document holds. -/
def ofDocument (document : String) : Except StorageError Entries :=
  if Text.trim document.toList = [] then .ok empty
  else
    match (Json.read? document).bind read? with
    | some entries => .ok entries
    | none => .error (.corrupt "not an object of texts")

/-- The document of the entries. -/
def toDocument (entries : Entries) : String :=
  entries.toJson.indented

end Entries

namespace Folder

/-- Reads the entries in the file at the end of a route. -/
def entries (folder : Folder) (route : Route) : Except StorageError Entries := do
  match ← folder.read route with
  | none => return .empty
  | some bytes =>
      match String.fromUTF8? bytes with
      | none => .error (.io "stream did not contain valid UTF-8")
      | some document => Entries.ofDocument document

/-- Writes entries to the file at the end of a route. -/
def writeEntries (folder : Folder) (route : Route) (entries : Entries) :
    Except StorageError Unit × Folder :=
  folder.write route entries.toDocument.toUTF8

/-- The text under a key in the file at the end of a route. -/
def getText (folder : Folder) (route : Route) (key : String) :
    Except StorageError (Option String) := do
  return (← folder.entries route).get? key

/-- Sets the text under a key in the file at the end of a route. -/
def setText (folder : Folder) (route : Route) (key text : String) :
    Except StorageError Unit × Folder :=
  match folder.entries route with
  | .error error => (.error error, folder)
  | .ok entries => folder.writeEntries route (entries.insert key text)

/-- Removes the text under a key in the file at the end of a route, which is written only if there
is one. -/
def removeText (folder : Folder) (route : Route) (key : String) :
    Except StorageError Unit × Folder :=
  match folder.entries route with
  | .error error => (.error error, folder)
  | .ok entries =>
      match entries.get? key with
      | some _ => folder.writeEntries route (entries.erase key)
      | none => (.ok (), folder)

end Folder

end VisitorLink
