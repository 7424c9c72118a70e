import Mathlib.Data.List.Basic

/-!
# The bytes of a text

Bytes are those of at most one text (`fromUTF8?_eq_some_iff`). A character of ASCII is one byte, and
no byte below 128 belongs to another character (`eq_of_mem_utf8EncodeChar`).
-/

namespace VisitorLink.Text

theorem fromUTF8?_toUTF8 (text : String) : String.fromUTF8? text.toUTF8 = some text :=
  dif_pos text.isValidUTF8

theorem eq_toUTF8_of_fromUTF8? {bytes : ByteArray} {text : String}
    (decodes : String.fromUTF8? bytes = some text) : bytes = text.toUTF8 := by
  unfold String.fromUTF8? at decodes
  split at decodes
  · cases decodes
    rfl
  · cases decodes

/-- A text is read from its own bytes only. -/
theorem fromUTF8?_eq_some_iff {bytes : ByteArray} {text : String} :
    String.fromUTF8? bytes = some text ↔ bytes = text.toUTF8 := by
  constructor
  · exact eq_toUTF8_of_fromUTF8?
  · rintro rfl
    exact fromUTF8?_toUTF8 text

theorem fromUTF8?_eq_none_iff {bytes : ByteArray} :
    String.fromUTF8? bytes = none ↔ ∀ text : String, bytes ≠ text.toUTF8 := by
  rw [Option.eq_none_iff_forall_ne_some]
  exact forall_congr' fun _ => not_congr fromUTF8?_eq_some_iff

/-! ## ASCII -/

/-- Letters and digits are ASCII. -/
theorem toNat_lt_of_isAlphanum {c : Char} (alphanum : c.isAlphanum = true) : c.toNat < 128 := by
  have ascii (last : Char) (small : last.toNat < 128) (below : c.val ≤ last.val) : c.toNat < 128 :=
    Nat.lt_of_le_of_lt (UInt32.le_iff_toNat_le.1 below) small
  rcases Bool.or_eq_true_iff.1 alphanum with letter | digit
  · rcases Bool.or_eq_true_iff.1 letter with upper | lower
    · exact ascii 'Z' (by decide) (of_decide_eq_true upper).2
    · exact ascii 'z' (by decide) (of_decide_eq_true (Bool.and_eq_true_iff.1 lower).2)
  · exact ascii '9' (by decide) (of_decide_eq_true (Bool.and_eq_true_iff.1 digit).2)

theorem toUTF8_ofList (chars : List Char) :
    (String.ofList chars).toUTF8.data.toList = chars.flatMap String.utf8EncodeChar := by
  rw [String.toUTF8_eq_toByteArray, String.toByteArray_ofList]
  unfold List.utf8Encode
  rw [List.data_toByteArray]

theorem toUTF8_ofList_of_ascii {chars : List Char} (ascii : ∀ c ∈ chars, c.val ≤ 127) :
    (String.ofList chars).toUTF8.data.toList = chars.map fun c => c.val.toUInt8 := by
  rw [toUTF8_ofList]
  induction chars with
  | nil => rfl
  | cons c chars ih =>
      rw [List.flatMap_cons, ih fun d mem => ascii d (List.mem_cons_of_mem c mem)]
      rw [String.utf8EncodeChar_eq_singleton
        (Char.utf8Size_eq_one_iff.2 (ascii c (List.mem_cons_self ..)))]
      rfl

theorem utf8ByteSize_ofList_of_ascii {chars : List Char} (ascii : ∀ c ∈ chars, c.val ≤ 127) :
    (String.ofList chars).utf8ByteSize = chars.length := by
  have bytes := congrArg List.length (toUTF8_ofList_of_ascii ascii)
  rw [Array.length_toList, List.length_map] at bytes
  exact bytes

/-- A byte below 128 is a character of its own. -/
theorem eq_of_mem_utf8EncodeChar {c : Char} {byte : UInt8} (mem : byte ∈ String.utf8EncodeChar c)
    (small : byte.toNat < 128) : c.val ≤ 127 ∧ c.val.toUInt8 = byte := by
  unfold String.utf8EncodeChar at mem
  simp only at mem
  split at mem
  case isTrue ascii =>
    rw [List.mem_singleton.1 mem]
    exact ⟨UInt32.le_iff_toNat_le.2 ascii, rfl⟩
  case isFalse =>
    -- Every byte of a longer sequence has its highest bit set.
    have high {n : Nat} (set : 128 ≤ n) (short : n < 256) (same : byte = UInt8.ofNat n) :
        False := by
      rw [same, UInt8.toNat_ofNat', Nat.mod_eq_of_lt short] at small
      exact Nat.not_lt.2 set small
    exfalso
    split at mem
    case isTrue =>
      simp only [List.mem_cons, List.not_mem_nil, or_false] at mem
      rcases mem with same | same <;> exact high (by omega) (by omega) same
    case isFalse =>
      split at mem
      case isTrue =>
        simp only [List.mem_cons, List.not_mem_nil, or_false] at mem
        rcases mem with same | same | same <;> exact high (by omega) (by omega) same
      case isFalse =>
        simp only [List.mem_cons, List.not_mem_nil, or_false] at mem
        rcases mem with same | same | same | same <;> exact high (by omega) (by omega) same

/-- A byte below 128 in a text is one of its characters. -/
theorem exists_char_of_mem_toUTF8 {text : String} {byte : UInt8}
    (mem : byte ∈ text.toUTF8.data.toList) (small : byte.toNat < 128) :
    ∃ c ∈ text.toList, c.val ≤ 127 ∧ c.val.toUInt8 = byte := by
  rw [← String.ofList_toList (s := text), toUTF8_ofList] at mem
  obtain ⟨c, inside, mem⟩ := List.mem_flatMap.1 mem
  exact ⟨c, inside, eq_of_mem_utf8EncodeChar mem small⟩

end VisitorLink.Text
