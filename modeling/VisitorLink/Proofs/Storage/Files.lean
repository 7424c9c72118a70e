import VisitorLink.Proofs.Storage.Documents
import VisitorLink.Proofs.Text.Bytes

/-!
# Files at the end of a route

Where a file can be written, it is read again, and it can be written there at any later time. It
makes no difference in which way the route to it is written, as long as it passes the same names:
empty steps and single points lead nowhere else.

Main statements: a file is read where it was put (`Folder.HasRoom.read`), and once there is room for
it there is room for good (`Folder.hasRoom_makeRoom` and `Folder.HasRoom.put`).
-/

namespace VisitorLink

namespace Route

/-- That a route is a way of writing the way to a file along given names. -/
structure Spells (route : Route) (names : List String) : Prop where
  sound : route.isSound = true
  toFile : route.toFolder = false
  names_eq : route.names = names

theorem filter_not_dropWhile {α : Type} (test : α → Bool) (items : List α) :
    (items.dropWhile test).filter (!test ·) = items.filter (!test ·) := by
  induction items with
  | nil => rfl
  | cons item items ih =>
      cases drops : test item with
      | true => rw [List.dropWhile_cons_of_pos drops, ih, List.filter_cons_of_neg (by simp [drops])]
      | false => rw [List.dropWhile_cons_of_neg (by simp [drops])]

/-- The folder that holds a file is reached along all names but the last. -/
theorem names_parent {route : Route} (toFile : route.toFolder = false) :
    route.parent.names = route.names.dropLast := by
  obtain ⟨steps⟩ := route
  rcases List.eq_nil_or_concat steps with rfl | ⟨former, last, rfl⟩
  · rfl
  · have leads : stays last = false := by simpa [toFolder] using toFile
    have parent : Route.parent ⟨former.concat last⟩ =
        ⟨(former.reverse.dropWhile stays).reverse⟩ := by
      simp [Route.parent, leads]
    rw [parent, names, List.filter_reverse, filter_not_dropWhile, ← List.filter_reverse,
      List.reverse_reverse, names, List.concat_eq_append, List.filter_append,
      List.filter_cons_of_pos (by simp [leads]), List.filter_nil, List.dropLast_concat]

/-- A route is no shorter than its first steps. -/
theorem size_le_of_prefix {route other : Route} (starts : other.steps <+: route.steps) :
    other.size ≤ route.size := by
  have grows (steps : List String) (start : Nat) :
      start ≤ steps.foldl (fun size step => size + step.utf8ByteSize + 1) start := by
    induction steps generalizing start with
    | nil => exact Nat.le_refl start
    | cons step steps ih => exact Nat.le_trans (by omega) (ih (start + step.utf8ByteSize + 1))
  obtain ⟨rest, joins⟩ := starts
  rw [size, size, ← joins, List.foldl_append]
  exact Nat.sub_le_sub_right (grows rest _) 1

/-- A route that can be followed to its end can be followed to the folder before. -/
theorem isSound_parent {route : Route} (sound : route.isSound = true) :
    route.parent.isSound = true := by
  have starts : route.parent.steps <+: route.steps := by
    refine List.reverse_suffix.1 ?_
    rw [Route.parent, List.reverse_reverse]
    exact (List.dropWhile_suffix _).trans ((List.drop_suffix _ _).trans (List.dropWhile_suffix _))
  have shorter := size_le_of_prefix starts
  rw [isSound, Bool.and_eq_true, decide_eq_true_iff] at sound ⊢
  refine ⟨shorter.trans sound.1, List.all_eq_true.2 fun step mem => ?_⟩
  exact List.all_eq_true.1 sound.2 step (starts.subset mem)

end Route

namespace Folder

variable {folder after : Folder} {route : Route} {names : List String} {start way path : Path}
  {bytes : ByteArray}

/-! ## Ways along folders -/

theorem isFolder_withFolder_self (folder : Folder) (path : Path) :
    (folder.withFolder path).isFolder path = true := by
  unfold withFolder
  split
  case isTrue there => exact there
  case isFalse => simp [isFolder]

theorem isFolder_withFolder (there : folder.isFolder path = true) (made : Path) :
    (folder.withFolder made).isFolder path = true := by
  unfold withFolder
  split
  · exact there
  · rw [isFolder, Bool.or_eq_true, List.contains_iff_mem] at there ⊢
    exact there.imp_right fun mem => List.mem_append_left _ mem

theorem withFolder_of_isFolder (there : folder.isFolder path = true) :
    folder.withFolder path = folder :=
  if_pos there

theorem isFolder_makeWay (there : folder.isFolder path = true) (start : Path)
    (names : List String) : (folder.makeWay start names).2.isFolder path = true := by
  induction names generalizing folder start with
  | nil => exact there
  | cons name names ih =>
      unfold makeWay
      split
      · exact there
      · split
        · exact there
        · exact ih (isFolder_withFolder there _) _

/-- That names lead from one place to another along folders that are there. -/
def Leads (folder : Folder) : Path → List String → Path → Prop
  | start, [], last => start = last
  | start, name :: names, last =>
      ∃ next, start.go name = some next ∧ folder.isFolder next = true ∧
        folder.file? next = none ∧ folder.Leads next names last

/-- A way that was made leads to its end. -/
theorem leads_makeWay (made : folder.makeWay start names = (some way, after)) :
    after.Leads start names way := by
  induction names generalizing folder start with
  | nil =>
      cases made
      exact rfl
  | cons name names ih =>
      unfold makeWay at made
      split at made
      · cases made
      case h_2 next goes =>
        split at made
        · cases made
        case isFalse free =>
          have result := congrArg Prod.snd made
          have there := isFolder_makeWay (folder.isFolder_withFolder_self next) next names
          have files := (folder.withFolder next).file?_makeWay next names next
          rw [file?_withFolder, Option.not_isSome_iff_eq_none.1 free] at files
          rw [show (makeWay _ _ _).2 = after from result] at there files
          exact ⟨next, goes, there, files, ih made⟩

/-- Nothing is made on a way that leads to its end. -/
theorem Leads.makeWay (leads : folder.Leads start names way) :
    folder.makeWay start names = (some way, folder) := by
  induction names generalizing start with
  | nil =>
      cases leads
      rfl
  | cons name names ih =>
      obtain ⟨next, goes, there, free, leads⟩ := leads
      unfold Folder.makeWay
      rw [goes]
      dsimp only
      rw [free, withFolder_of_isFolder there]
      exact ih leads

theorem Leads.enters (leads : folder.Leads start names way) :
    names.foldlM folder.enter start = some way := by
  induction names generalizing start with
  | nil => exact congrArg some leads
  | cons name names ih =>
      obtain ⟨next, goes, there, _, leads⟩ := leads
      have enters : folder.enter start name = some next := by
        rw [enter, goes, Option.filter_some, if_pos there]
      rw [List.foldlM_cons, enters]
      exact ih leads

/-- A file is in nobody's way where no folder is. -/
theorem Leads.put (leads : folder.Leads start names way) (free : folder.isFolder path = false)
    (bytes : ByteArray) : (folder.put path bytes).Leads start names way := by
  induction names generalizing start with
  | nil => exact leads
  | cons name names ih =>
      obtain ⟨next, goes, there, none, leads⟩ := leads
      have other : next ≠ path := by
        rintro rfl
        cases free.symm.trans there
      refine ⟨next, goes, there, ?_, ih leads⟩
      rw [file?_put, if_neg other, none]

/-! ## Room for a file -/

/-- That there is room for a file at a place to which names lead. -/
structure HasRoom (folder : Folder) (names : List String) (path : Path) : Prop where
  leads : ∃ way name, folder.Leads .top names.dropLast way ∧ names.getLast? = some name ∧
    way.go name = some path
  free : folder.isFolder path = false

/-- Where a file can be written there is room for it afterwards. -/
theorem hasRoom_makeRoom (made : folder.makeRoom route = (some path, after)) :
    route.Spells route.names ∧ after.HasRoom route.names path := by
  unfold makeRoom at made
  split at made
  · cases made
  · generalize way_eq : folder.makeWay .top route.parent.names = found at made
    obtain ⟨way, changed⟩ := found
    obtain ⟨found, rfl⟩ := Prod.mk.inj made
    obtain ⟨reached, allowed⟩ := Option.filter_eq_some_iff.1 found
    simp only [Bool.and_eq_true, Bool.not_eq_true'] at allowed
    obtain ⟨⟨sound, toFile⟩, free⟩ := allowed
    obtain ⟨way, rfl, ends⟩ := Option.bind_eq_some_iff.1 reached
    obtain ⟨name, last, goes⟩ := Option.bind_eq_some_iff.1 ends
    rw [Route.names_parent toFile] at way_eq
    exact ⟨⟨sound, toFile, rfl⟩, ⟨way, name, leads_makeWay way_eq, last, goes⟩, free⟩

namespace HasRoom

/-- Nothing is made where there is room already. -/
theorem makeRoom (room : folder.HasRoom names path) (spells : route.Spells names) :
    folder.makeRoom route = (some path, folder) := by
  obtain ⟨sound, toFile, rfl⟩ := spells
  obtain ⟨⟨way, name, leads, last, goes⟩, free⟩ := room
  unfold Folder.makeRoom
  rw [Route.isSound_parent sound, Route.names_parent toFile, leads.makeWay]
  simp [last, goes, sound, toFile, free]

theorem locate (room : folder.HasRoom names path) (spells : route.Spells names) :
    folder.locate route = some path := by
  obtain ⟨sound, toFile, rfl⟩ := spells
  obtain ⟨⟨way, name, leads, last, goes⟩, free⟩ := room
  unfold Folder.locate
  rw [sound, last, leads.enters]
  exact goes

/-- What is read at the end of the route is the file at the place. -/
theorem read (room : folder.HasRoom names path) (spells : route.Spells names) :
    folder.read route = .ok (folder.file? path) := by
  unfold Folder.read
  rw [room.locate spells, spells.toFile]
  dsimp only
  rw [room.free]
  rfl

theorem put (room : folder.HasRoom names path) (bytes : ByteArray) :
    (folder.put path bytes).HasRoom names path := by
  obtain ⟨⟨way, name, leads, last, goes⟩, free⟩ := room
  exact ⟨⟨way, name, leads.put free bytes, last, goes⟩, free⟩

end HasRoom

/-! ## Entries in a file -/

/-- Of a document that was put at a place the entries are read at the end of every route to it. -/
theorem entries_putDocument (room : folder.HasRoom names path) (spells : route.Spells names)
    (document : String) :
    (folder.put path document.toUTF8).entries route = Entries.ofDocument document := by
  unfold Folder.entries
  rw [(room.put _).read spells, file?_put, if_pos rfl]
  simp only [bind, Except.bind, Text.fromUTF8?_toUTF8]

end Folder

end VisitorLink
