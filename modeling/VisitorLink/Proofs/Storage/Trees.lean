import Mathlib.Data.List.Induction
import VisitorLink.Proofs.Storage.Files

/-!
# Folders as trees

Whatever stands somewhere stands in a folder, and writing keeps this so. Hence a file is found along
every route to it, unless the route goes up from a folder that is not there. Such a detour leads
nowhere until the folders on it are made, which is what writing along it does first.

Main statement: where a file is written over that was not found before, the route to it is a detour
(`Folder.Rooted.detours`).
-/

namespace VisitorLink

/-- A name other than the one that leads up leads down. -/
theorem Path.eq_inside_of_go {path next : Path} {name : String} (goes : path.go name = some next)
    (down : name ≠ upName) : next = path.inside name := by
  unfold go at goes
  rw [if_neg down] at goes
  split at goes
  · exact (Option.some.inj goes).symm
  · cases goes

namespace Folder

variable {folder after : Folder} {route : Route} {names : List String}
  {start way path next made : Path} {name : String} {bytes : ByteArray}

/-- That whatever stands somewhere stands in a folder. -/
structure Rooted (folder : Folder) : Prop where
  file : ∀ path bytes, folder.file? path = some bytes → folder.isFolder path.outside = true
  folder : ∀ path, folder.isFolder path = true → folder.isFolder path.outside = true

/-- What is listed in a folder tells whether it is a tree. -/
theorem rooted_of_listed
    (files : ∀ file ∈ folder.files, folder.isFolder file.1.outside = true)
    (folders : ∀ path ∈ folder.folders, folder.isFolder path.outside = true) : folder.Rooted where
  file path bytes found := by
    obtain ⟨former, later, listed, _⟩ := List.lookup_eq_some_iff.1 found
    exact files (path, bytes) (listed ▸ List.mem_append_right _ (List.mem_cons_self ..))
  folder path there := by
    rw [isFolder, Bool.or_eq_true, List.contains_iff_mem] at there
    rcases there with above | mem
    · have above' : path.outside.isAbove = true :=
        List.all_eq_true.2 fun name mem => List.all_eq_true.1 above name (List.mem_of_mem_tail mem)
      rw [isFolder, above', Bool.true_or]
    · exact folders path mem

/-- A folder that was made is one. -/
theorem isFolder_withFolder_iff :
    (folder.withFolder made).isFolder path = true ↔
      path = made ∨ folder.isFolder path = true := by
  unfold withFolder
  split
  case isTrue there =>
    refine ⟨.inr, ?_⟩
    rintro (rfl | there')
    · exact there
    · exact there'
  case isFalse =>
    simp only [isFolder, Bool.or_eq_true, List.contains_iff_mem, List.mem_append,
      List.mem_singleton]
    rw [← or_assoc]
    exact or_comm

/-- What a name leads to from a folder stands in a folder, if anything stands there. -/
theorem Rooted.outside_go (rooted : folder.Rooted) (there : folder.isFolder path = true)
    (goes : path.go name = some next) : folder.isFolder next.outside = true := by
  unfold Path.go at goes
  split at goes
  · cases goes
    split
    · exact there
    · exact rooted.folder _ (rooted.folder _ there)
  · split at goes
    · cases goes
      exact there
    · cases goes

/-! ## What writing keeps -/

/-- What is made inside a folder stands in one. -/
theorem Rooted.withFolder (rooted : folder.Rooted) (inside : folder.isFolder made.outside = true) :
    (folder.withFolder made).Rooted where
  file path bytes found := by
    rw [file?_withFolder] at found
    exact isFolder_withFolder (rooted.file path bytes found) made
  folder path there := by
    rcases isFolder_withFolder_iff.1 there with rfl | there
    · exact isFolder_withFolder inside path
    · exact isFolder_withFolder (rooted.folder path there) made

/-- All that is made on the way stands in folders. -/
theorem Rooted.makeWay (rooted : folder.Rooted) (there : folder.isFolder start = true)
    (names : List String) : (folder.makeWay start names).2.Rooted := by
  induction names generalizing folder start with
  | nil => exact rooted
  | cons name names ih =>
      unfold Folder.makeWay
      split
      · exact rooted
      case h_2 next goes =>
        split
        · exact rooted
        · exact ih (rooted.withFolder (rooted.outside_go there goes))
            (folder.isFolder_withFolder_self next)

/-- All that is made for a route stands in folders. -/
theorem Rooted.makeRoom (rooted : folder.Rooted) (route : Route) :
    (folder.makeRoom route).2.Rooted := by
  unfold Folder.makeRoom
  split
  · exact rooted
  · exact rooted.makeWay rfl route.parent.names

/-- A file that is put inside a folder stands in one. -/
theorem Rooted.put (rooted : folder.Rooted) (inside : folder.isFolder path.outside = true)
    (bytes : ByteArray) : (folder.put path bytes).Rooted where
  file other bytes' found := by
    rw [file?_put] at found
    split at found
    case isTrue same => exact same ▸ inside
    case isFalse => exact rooted.file other bytes' found
  folder := rooted.folder

/-- A way through folders leads to one. -/
theorem Leads.isFolder (leads : folder.Leads start names way)
    (there : folder.isFolder start = true) : folder.isFolder way = true := by
  induction names generalizing start with
  | nil =>
      cases leads
      exact there
  | cons name names ih =>
      obtain ⟨next, _, there', _, leads⟩ := leads
      exact ih leads there'

/-- What is written stands in folders. -/
theorem Rooted.write (rooted : folder.Rooted) (route : Route) (bytes : ByteArray) :
    (folder.write route bytes).2.Rooted := by
  have rooted' := rooted.makeRoom route
  unfold Folder.write
  split
  next path after makes =>
    obtain ⟨_, ⟨way, name, leads, _, goes⟩, _⟩ := hasRoom_makeRoom makes
    rw [makes] at rooted'
    exact rooted'.put (rooted'.outside_go (leads.isFolder rfl) goes) bytes
  next after makes =>
    rw [makes] at rooted'
    exact rooted'

/-- Setting a text leaves everything in folders. -/
theorem Rooted.setText (rooted : folder.Rooted) (route : Route) (key text : String) :
    (folder.setText route key text).2.Rooted := by
  unfold Folder.setText
  split
  · exact rooted
  · exact rooted.write route _

/-- Removing a text leaves everything in folders. -/
theorem Rooted.removeText (rooted : folder.Rooted) (route : Route) (key : String) :
    (folder.removeText route key).2.Rooted := by
  unfold Folder.removeText
  split
  · exact rooted
  · split
    · exact rooted.write route _
    · exact rooted

/-! ## Detours -/

/-- That a route goes up from a folder that is not there, and that it leads to a place once the
folders on it are made. -/
structure Detours (folder : Folder) (route : Route) (path : Path) : Prop where
  goesUp : ∃ former later, route.names = former ++ Path.upName :: later ∧
    former.foldlM folder.enter .top = none
  arrives : (folder.makeRoom route).1 = some path

/-- A name is entered if a folder is there. -/
theorem enter_eq_some_iff :
    folder.enter path name = some next ↔
      path.go name = some next ∧ folder.isFolder next = true := by
  unfold enter
  exact Option.filter_eq_some_iff

/-- Where a way leads, going leads. -/
theorem Leads.goes (leads : folder.Leads start names way) :
    names.foldlM Path.go start = some way := by
  induction names generalizing start with
  | nil => exact congrArg some leads
  | cons name names ih =>
      obtain ⟨next, goes, _, _, leads⟩ := leads
      rw [List.foldlM_cons, goes]
      exact ih leads

/-- Where folders are entered, going leads. -/
theorem goes_of_enters (enters : names.foldlM folder.enter start = some way) :
    names.foldlM Path.go start = some way := by
  induction names generalizing start with
  | nil => exact enters
  | cons name names ih =>
      rw [List.foldlM_cons] at enters ⊢
      obtain ⟨next, first, further⟩ := Option.bind_eq_some_iff.1 enters
      rw [(enter_eq_some_iff.1 first).1]
      exact ih further

/-- Names that lead to a folder, but not along folders, go up from where no folder is. -/
theorem Rooted.goesUp (rooted : folder.Rooted) (goes : names.foldlM Path.go start = some way)
    (there : folder.isFolder way = true) (lost : names.foldlM folder.enter start = none) :
    ∃ former later, names = former ++ Path.upName :: later ∧
      former.foldlM folder.enter start = none := by
  -- From the end of the way backwards: a folder below a missing one would not be in a folder.
  induction names using List.reverseRecOn generalizing way with
  | nil => cases lost
  | append_singleton names name ih =>
      rw [List.foldlM_append] at goes lost
      obtain ⟨middle, reached, last⟩ := Option.bind_eq_some_iff.1 goes
      rw [List.foldlM_cons] at last
      obtain ⟨_, last, ⟨⟩⟩ := Option.bind_eq_some_iff.1 last
      cases enters : names.foldlM folder.enter start with
      | some entered =>
          obtain rfl : entered = middle :=
            Option.some.inj ((goes_of_enters enters).symm.trans reached)
          rw [enters] at lost
          simp [enter_eq_some_iff.2 ⟨last, there⟩] at lost
      | none =>
          by_cases up : name = Path.upName
          · exact ⟨names, [], by rw [up], enters⟩
          · obtain rfl := Path.eq_inside_of_go last up
            have holds : folder.isFolder middle = true := rooted.folder _ there
            obtain ⟨former, later, rfl, missing⟩ := ih reached holds enters
            exact ⟨former, later ++ [name], by simp, missing⟩

/-- Room is made at the place that is found and in the folder that is left. -/
theorem makeRoom_eq (makes : (folder.makeRoom route).1 = some path) :
    folder.makeRoom route = (some path, (folder.makeRoom route).2) :=
  Prod.ext makes rfl

/-- Where a file can be written over that is not at the end of the route, the route is a detour. -/
theorem Rooted.detours (rooted : folder.Rooted) (file : folder.file? path = some bytes)
    (makes : (folder.makeRoom route).1 = some path) (elsewhere : folder.locate route ≠ some path) :
    folder.Detours route path := by
  obtain ⟨spells, ⟨way, name, leads, last, goes⟩, free⟩ := hasRoom_makeRoom (makeRoom_eq makes)
  have lost : route.names.dropLast.foldlM folder.enter .top = none := by
    rw [Option.eq_none_iff_forall_ne_some]
    intro entered enters
    obtain rfl : entered = way := Option.some.inj ((goes_of_enters enters).symm.trans leads.goes)
    refine elsewhere ?_
    rw [locate, spells.sound, last, enters]
    exact goes
  have whole : route.names = route.names.dropLast ++ [name] := by
    obtain ⟨former, names⟩ := List.getLast?_eq_some_iff.1 last
    rw [names, List.dropLast_concat]
  refine ⟨?_, makes⟩
  by_cases up : name = Path.upName
  · exact ⟨route.names.dropLast, [], by rw [← up]; exact whole, lost⟩
  · obtain rfl := Path.eq_inside_of_go goes up
    obtain ⟨former, later, splits, missing⟩ :=
      rooted.goesUp leads.goes (rooted.file _ _ file) lost
    exact ⟨former, later ++ [name], by rw [whole, splits]; simp, missing⟩

/-- A detour leads nowhere. -/
theorem Detours.locate (detours : folder.Detours route path) : folder.locate route = none := by
  obtain ⟨⟨former, later, names, lost⟩, _⟩ := detours
  unfold Folder.locate
  split
  · rfl
  · rw [names]
    split
    case h_1 empty => simp at empty
    case h_2 =>
      rw [List.dropLast_append_cons, List.foldlM_append, lost]
      rfl

/-- What is read at the end of a detour holds no entries. -/
theorem Detours.entries (detours : folder.Detours route path) :
    folder.entries route = .ok .empty := by
  unfold Folder.entries Folder.read
  rw [detours.locate]
  rfl

end Folder

end VisitorLink
