import VisitorLink.Proofs.Text.Bytes
import VisitorLink.Proofs.Text.Items
import VisitorLink.Visitor.Id

/-!
# The hyphenated form of ids

Every identifier is read back from its hyphenated form, and the hyphenated form of a random one is a
visitor id, as that of any other one of version four.

Main statements: `Uuid.read?_hyphenated` and `VisitorId.valid_hyphenated`.
-/

namespace VisitorLink

namespace Uuid

/-- The byte of a hexadecimal digit in small letters. -/
def digitByte (digit : Fin 16) : UInt8 :=
  (Nat.digitChar digit.val).val.toUInt8

/-- The byte of a digit is read as the digit. -/
theorem hexValue?_digitByte : ∀ digit, hexValue? (digitByte digit) = some digit := by
  decide

/-- The digits of an id are read back. -/
theorem ofSimple?_digitByte (id : Uuid) : ofSimple? (id.digits.map digitByte) = some id := by
  unfold ofSimple?
  rw [Text.mapM_map fun digit _ => hexValue?_digitByte digit]
  exact dif_pos id.digits_length

/-! ## The hyphenated form -/

/-- Items in groups of 8, 4, 4, 4 and the rest, with a mark between two groups. -/
def grouped {α : Type} (mark : α) (items : List α) : List α :=
  items.take 8 ++ mark :: (items.drop 8).take 4 ++ mark :: (items.drop 12).take 4 ++
    mark :: (items.drop 16).take 4 ++ mark :: items.drop 20

/-- The form of an id is its digits in groups. -/
theorem hyphenated_eq (id : Uuid) :
    id.hyphenated =
      String.ofList (grouped '-' (id.digits.map fun digit => Nat.digitChar digit.val)) :=
  rfl

/-- Grouping goes with renaming. -/
theorem map_grouped {α β : Type} (f : α → β) (mark : α) (items : List α) :
    (grouped mark items).map f = grouped (f mark) (items.map f) := by
  simp only [grouped, List.map_append, List.map_cons, List.map_take, List.map_drop]

section Groups

variable {α : Type} {mark : α} {items : List α}

/-- The places of the marks. -/
def markPlaces : List Nat := [8, 13, 18, 23]

/-- How many items stand in front of a place. -/
def rankOf (place : Nat) : Nat :=
  if place ≤ 8 then place
  else if place ≤ 13 then place - 1
  else if place ≤ 18 then place - 2
  else if place ≤ 23 then place - 3
  else place - 4

/-- The place of the item that so many items stand in front of. -/
def placeOf (rank : Nat) : Nat :=
  if rank < 8 then rank
  else if rank < 12 then rank + 1
  else if rank < 16 then rank + 2
  else if rank < 20 then rank + 3
  else rank + 4

/-- There are four marks. -/
theorem mem_markPlaces_iff {place : Nat} :
    place ∈ markPlaces ↔ place = 8 ∨ place = 13 ∨ place = 18 ∨ place = 23 := by
  simp [markPlaces]

/-- No item stands in the place of a mark. -/
theorem placeOf_not_mem (rank : Nat) : placeOf rank ∉ markPlaces := by
  rw [mem_markPlaces_iff, placeOf]
  split_ifs <;> omega

/-- As many items stand in front of an item as its place says. -/
theorem rankOf_placeOf (rank : Nat) : rankOf (placeOf rank) = rank := by
  unfold rankOf placeOf
  grind

/-- Every place but that of a mark is the place of an item. -/
theorem placeOf_rankOf {place : Nat} (item : place ∉ markPlaces) :
    placeOf (rankOf place) = place := by
  rw [mem_markPlaces_iff] at item
  unfold rankOf placeOf
  grind

/-- Thirty-two items are grouped into thirty-six places. -/
theorem length_grouped (mark : α) (length : items.length = 32) :
    (grouped mark items).length = 36 := by
  simp [grouped, length]

/-- What stands in a place of the groups is a mark or the item with its rank. -/
theorem getElem?_grouped (mark : α) (length : items.length = 32) (place : Nat) :
    (grouped mark items)[place]? =
      if place ∈ markPlaces then some mark else items[rankOf place]? := by
  simp only [grouped, List.getElem?_append, List.getElem?_cons, List.getElem?_take,
    List.getElem?_drop, List.length_append, List.length_cons, List.length_take, List.length_drop,
    length, mem_markPlaces_iff, rankOf]
  grind

/-- Nothing but marks stands between the items. -/
theorem mem_grouped {item : α} (length : items.length = 32) (mem : item ∈ grouped mark items) :
    item = mark ∨ item ∈ items := by
  obtain ⟨place, found⟩ := List.mem_iff_getElem?.1 mem
  rw [getElem?_grouped mark length] at found
  split at found
  · exact .inl (Option.some.inj found).symm
  · exact .inr (List.mem_iff_getElem?.2 ⟨_, found⟩)

/-- The items of groups without the marks between them. -/
def ungrouped (items : List α) : List α :=
  items.take 8 ++ (items.drop 9).take 4 ++ (items.drop 14).take 4 ++ (items.drop 19).take 4 ++
    items.drop 24

/-- Without the marks, thirty-two items are left. -/
theorem length_ungrouped (length : items.length = 36) : (ungrouped items).length = 32 := by
  simp [ungrouped, length]

/-- What is left stands in the order of its places. -/
theorem getElem?_ungrouped (length : items.length = 36) (rank : Nat) :
    (ungrouped items)[rank]? = items[placeOf rank]? := by
  simp only [ungrouped, List.getElem?_append, List.getElem?_take, List.getElem?_drop,
    List.length_append, List.length_take, List.length_drop, length, placeOf]
  grind

/-- Nothing is made up when the marks are left out. -/
theorem mem_of_mem_ungrouped {item : α} (length : items.length = 36)
    (mem : item ∈ ungrouped items) : item ∈ items := by
  obtain ⟨rank, found⟩ := List.mem_iff_getElem?.1 mem
  rw [getElem?_ungrouped length] at found
  exact List.mem_iff_getElem?.2 ⟨_, found⟩

/-- Without the marks, the items are what they were. -/
theorem ungrouped_grouped (mark : α) (length : items.length = 32) :
    ungrouped (grouped mark items) = items := by
  refine List.ext_getElem? fun rank => ?_
  rw [getElem?_ungrouped (length_grouped mark length), getElem?_grouped mark length,
    if_neg (placeOf_not_mem rank), rankOf_placeOf]

/-- Items are groups if the marks are at their places. -/
theorem grouped_ungrouped (length : items.length = 36)
    (marked : ∀ place ∈ markPlaces, items[place]? = some mark) :
    grouped mark (ungrouped items) = items := by
  refine List.ext_getElem? fun place => ?_
  rw [getElem?_grouped mark (length_ungrouped length)]
  split
  case isTrue mem => exact (marked place mem).symm
  case isFalse item => rw [getElem?_ungrouped length, placeOf_rankOf item]

end Groups

/-- Groups with hyphens between them are read as the digits in them. -/
theorem ofHyphenated?_eq_some_iff {bytes : List UInt8} {id : Uuid} :
    ofHyphenated? bytes = some id ↔
      bytes.length = 36 ∧ (∀ place ∈ markPlaces, bytes[place]? = some 45) ∧
        ofSimple? (ungrouped bytes) = some id := by
  have marked : (∀ place ∈ markPlaces, bytes[place]? = some 45) ↔
      bytes[8]? = some 45 ∧ bytes[13]? = some 45 ∧ bytes[18]? = some 45 ∧ bytes[23]? = some 45 := by
    simp only [markPlaces, List.forall_mem_cons, List.not_mem_nil, false_implies, implies_true,
      and_true]
  unfold ofHyphenated?
  rw [Option.ite_none_right_eq_some, marked]
  exact ⟨fun ⟨⟨length, marked⟩, reads⟩ => ⟨length, marked, reads⟩,
    fun ⟨length, marked, reads⟩ => ⟨⟨length, marked⟩, reads⟩⟩

/-- A form in groups is read as the digits without the marks. -/
theorem ofHyphenated?_grouped {bytes : List UInt8} {id : Uuid} (length : bytes.length = 32)
    (reads : ofSimple? bytes = some id) : ofHyphenated? (grouped 45 bytes) = some id := by
  refine ofHyphenated?_eq_some_iff.2 ⟨length_grouped 45 length, fun place mem => ?_, ?_⟩
  · rw [getElem?_grouped 45 length, if_pos mem]
  · rw [ungrouped_grouped 45 length, reads]

/-- An id has thirty-two digits. -/
theorem length_digitChars (id : Uuid) :
    (id.digits.map fun digit => Nat.digitChar digit.val).length = 32 :=
  (List.length_map _).trans id.digits_length

/-- The characters of the hyphenated form are small and take one byte each. -/
theorem plain_of_mem_hyphenated (id : Uuid) :
    ∀ c ∈ id.hyphenated.toList, c.val ≤ 127 ∧ c.isUpper = false := by
  have digits : ∀ digit : Fin 16, (Nat.digitChar digit.val).val ≤ 127 ∧
      (Nat.digitChar digit.val).isUpper = false := by
    decide
  intro c mem
  rw [hyphenated_eq, String.toList_ofList] at mem
  rcases mem_grouped id.length_digitChars mem with rfl | mem
  · decide
  · obtain ⟨digit, _, rfl⟩ := List.mem_map.1 mem
    exact digits digit

/-- The bytes of the hyphenated form. -/
theorem toUTF8_hyphenated (id : Uuid) :
    id.hyphenated.toUTF8.data.toList = grouped 45 (id.digits.map digitByte) := by
  have ascii : ∀ c ∈ grouped '-' (id.digits.map fun digit => Nat.digitChar digit.val),
      c.val ≤ 127 := by
    intro c mem
    refine (id.plain_of_mem_hyphenated c ?_).1
    rwa [hyphenated_eq, String.toList_ofList]
  rw [hyphenated_eq, Text.toUTF8_ofList_of_ascii ascii, map_grouped, List.map_map]
  rfl

/-- An id is thirty-two bytes in hexadecimal. -/
theorem length_digitBytes (id : Uuid) : (id.digits.map digitByte).length = 32 :=
  (List.length_map _).trans id.digits_length

/-- A text of 36 bytes is read as the hyphenated form. -/
theorem read?_of_length {s : String} (length : s.toUTF8.data.toList.length = 36) :
    read? s = ofHyphenated? s.toUTF8.data.toList := by
  unfold read?
  dsimp only
  rw [length]
  rfl

/-- An identifier is read back from its hyphenated form. -/
theorem read?_hyphenated (id : Uuid) : read? id.hyphenated = some id := by
  have length := length_grouped (45 : UInt8) id.length_digitBytes
  rw [← id.toUTF8_hyphenated] at length
  rw [read?_of_length length, id.toUTF8_hyphenated]
  exact ofHyphenated?_grouped id.length_digitBytes id.ofSimple?_digitByte

/-- A random id is of version four. -/
theorem version_ofRandom (bytes : Vector UInt8 16) : (ofRandom bytes).version = 4 := by
  let digits : List (Fin 16) := bytes.toList.flatMap fun byte =>
    [Fin.ofNat 16 (byte.toNat / 16), Fin.ofNat 16 byte.toNat]
  have long : 12 < digits.length := by simp [digits, List.length_flatMap, List.map_const']
  change (((digits.set 12 4).set 16 _)[12]?.getD 0).val = 4
  rw [List.getElem?_set_ne (by decide), List.getElem?_set_self long]
  rfl

end Uuid

namespace VisitorId

/-- A visitor id is 36 bytes without capitals that are read as an identifier of version four. -/
theorem valid_iff_read {s : String} :
    Valid s ↔ s.utf8ByteSize = 36 ∧ s.toList.any Char.isUpper = false ∧
      ∃ id, Uuid.read? s = some id ∧ id.version = 4 := by
  unfold Valid fault?
  split
  case isTrue other =>
    refine ⟨nofun, fun ⟨size, plain, _⟩ => absurd other ?_⟩
    exact not_or.2 ⟨not_not.2 size, Bool.eq_false_iff.1 plain⟩
  case isFalse spelled =>
    obtain ⟨size, plain⟩ := not_or.1 spelled
    cases Uuid.read? s with
    | none => exact ⟨nofun, fun ⟨_, _, _, reads, _⟩ => nomatch reads⟩
    | some id =>
        have version : (if id.version = 4 then none else some Fault.notRandom) = none ↔
            id.version = 4 := by
          simp only [ite_eq_left_iff, reduceCtorEq, imp_false, not_not]
        refine version.trans ⟨fun four => ?_, fun ⟨_, _, _, reads, four⟩ => ?_⟩
        · exact ⟨not_not.1 size, Bool.eq_false_iff.2 plain, id, rfl, four⟩
        · exact Option.some.inj reads ▸ four

/-- The hyphenated form of an identifier of version four is a visitor id. -/
theorem valid_hyphenated {id : Uuid} (version : id.version = 4) : Valid id.hyphenated := by
  have size : id.hyphenated.utf8ByteSize = 36 := by
    have length := Uuid.length_grouped (45 : UInt8) id.length_digitBytes
    rw [← id.toUTF8_hyphenated, Array.length_toList] at length
    exact length
  have small : id.hyphenated.toList.any Char.isUpper = false := by
    refine List.any_eq_false.2 fun c mem => ?_
    rw [(id.plain_of_mem_hyphenated c mem).2]
    exact Bool.false_ne_true
  exact valid_iff_read.2 ⟨size, small, id, id.read?_hyphenated, version⟩

/-- The form of a random id is valid. -/
theorem valid_hyphenated_ofRandom (bytes : Vector UInt8 16) :
    Valid (Uuid.ofRandom bytes).hyphenated :=
  valid_hyphenated (Uuid.version_ofRandom bytes)

end VisitorId

end VisitorLink
