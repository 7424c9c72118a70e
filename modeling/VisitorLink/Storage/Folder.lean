import VisitorLink.Error
import VisitorLink.Storage.Pairs
import VisitorLink.Storage.Route

/-!
# Folders of files

A folder with the files and folders below it, by their places. Reading where nothing stands, or
where no way leads, gives nothing. Writing makes the folders on the way, and these stay also if the
file then cannot be written.
-/

namespace VisitorLink

/-- A folder: the files below it with their bytes, and the folders below it. -/
structure Folder where
  files : List (Path × ByteArray) := []
  folders : List Path := []

namespace Folder

/-- The bytes of the file at a place. -/
def file? (folder : Folder) (path : Path) : Option ByteArray :=
  folder.files.lookup path

/-- Whether a folder stands at a place. -/
def isFolder (folder : Folder) (path : Path) : Bool :=
  path.isAbove || folder.folders.contains path

/-- The folder that a name leads to from the one at a place. -/
def enter (folder : Folder) (path : Path) (name : String) : Option Path :=
  (path.go name).filter folder.isFolder

/-- The place that a route leads to, if all of its names but the last lead to folders. -/
def locate (folder : Folder) (route : Route) : Option Path :=
  if !route.isSound then none
  else
    match route.names.getLast? with
    | none => some .top
    | some name => (route.names.dropLast.foldlM folder.enter .top).bind fun path => path.go name

/-- Reads the file at the end of a route, if there is one. A folder cannot be read. -/
def read (folder : Folder) (route : Route) : Except StorageError (Option ByteArray) :=
  match folder.locate route with
  | none => .ok none
  | some path =>
      if folder.isFolder path then .error (.io "is a directory")
      else .ok (if route.toFolder then none else folder.file? path)

/-! ## Writing -/

/-- The folder with a file at a place. -/
def put (folder : Folder) (path : Path) (bytes : ByteArray) : Folder :=
  { folder with files := Pairs.without folder.files path ++ [(path, bytes)] }

/-- The folder with a folder at a place. -/
def withFolder (folder : Folder) (path : Path) : Folder :=
  if folder.isFolder path then folder else { folder with folders := folder.folders ++ [path] }

/-- Goes along names from the folder at a place, making the folders that are missing, up to where a
file stands or a name cannot be given. -/
def makeWay (folder : Folder) (path : Path) : List String → Option Path × Folder
  | [] => (some path, folder)
  | name :: names =>
      match path.go name with
      | none => (none, folder)
      | some next =>
          if (folder.file? next).isSome then (none, folder)
          else (folder.withFolder next).makeWay next names

/-- The place at the end of a route, for a file to be written there. The folders on the way to it
are made, if the way to the last of them can be followed. -/
def makeRoom (folder : Folder) (route : Route) : Option Path × Folder :=
  if !route.parent.isSound then (none, folder)
  else
    let (way, folder) := folder.makeWay .top route.parent.names
    let place := way.bind fun path => route.names.getLast?.bind path.go
    (place.filter fun path => route.isSound && !route.toFolder && !folder.isFolder path, folder)

/-- Writes a file at the end of a route. -/
def write (folder : Folder) (route : Route) (bytes : ByteArray) :
    Except StorageError Unit × Folder :=
  match folder.makeRoom route with
  | (some path, folder) => (.ok (), folder.put path bytes)
  | (none, folder) => (.error (.io "no place for a file"), folder)

/-- Putting a file changes the bytes at its place alone. -/
theorem file?_put (folder : Folder) (written : Path) (bytes : ByteArray) (path : Path) :
    (folder.put written bytes).file? path =
      if path = written then some bytes else folder.file? path :=
  Pairs.lookup_without_append folder.files written bytes path

/-- A folder makes no difference to the files. -/
@[simp] theorem file?_withFolder (folder : Folder) (made path : Path) :
    (folder.withFolder made).file? path = folder.file? path := by
  unfold withFolder
  split <;> rfl

/-- Making a way makes no difference to the files. -/
theorem file?_makeWay (folder : Folder) (start : Path) (names : List String) (path : Path) :
    (folder.makeWay start names).2.file? path = folder.file? path := by
  induction names generalizing folder start with
  | nil => rfl
  | cons name names ih =>
      unfold makeWay
      split
      · rfl
      · split
        · rfl
        · rw [ih, file?_withFolder]

/-- Writing changes the bytes at one place at most. -/
theorem file?_write (folder : Folder) (route : Route) (bytes : ByteArray) (path : Path) :
    (folder.write route bytes).2.file? path =
      if (folder.makeRoom route).1 = some path then some bytes else folder.file? path := by
  have way : (folder.makeRoom route).2.file? path = folder.file? path := by
    unfold makeRoom
    split
    · rfl
    · exact file?_makeWay folder .top route.parent.names path
  unfold write
  split
  next written changed found =>
    rw [found] at way
    rw [file?_put, way, found]
    by_cases same : path = written <;> simp [same, eq_comm]
  next changed found =>
    rw [found] at way
    rw [way, found]
    rfl

end Folder

end VisitorLink
