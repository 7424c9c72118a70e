import Mathlib.Data.Set.List
import VisitorLink.Proofs.Service.Routes
import VisitorLink.Proofs.Visitor.Ids

/-!
# The grammar of visitor ids

Of the spellings of an identifier only the hyphenated one in small letters is a visitor id, and only
for version four (`VisitorId.valid_iff_hyphenated`).

Main statement: which character may stand at which place (`VisitorId.valid_iff_wellSpelled`).
-/

namespace VisitorLink

namespace Uuid

variable {s : String} {id : Uuid}

/-! ## Bytes of digits -/

theorem toNat_lt_of_hexValue? {byte : UInt8} {digit : Fin 16}
    (reads : hexValue? byte = some digit) : byte.toNat < 128 := by
  unfold hexValue? at reads
  dsimp only at reads
  split at reads
  case isTrue number => omega
  case isFalse =>
    split at reads
    case isTrue small => omega
    case isFalse =>
      split at reads
      case isTrue large => omega
      case isFalse => cases reads

/-- That a byte is no capital. -/
def IsSmall (byte : UInt8) : Prop :=
  ¬(65 ≤ byte.toNat ∧ byte.toNat ≤ 90)

/-- A byte that is no capital is read as the digit that it writes. -/
theorem eq_digitByte_of_hexValue? {byte : UInt8} {digit : Fin 16} (small : IsSmall byte)
    (reads : hexValue? byte = some digit) : byte = digitByte digit := by
  have table : ∀ n : Fin 128, (65 ≤ n.val ∧ n.val ≤ 90) ∨
      ∀ digit ∈ hexValue? (UInt8.ofNat n.val), UInt8.ofNat n.val = digitByte digit := by
    decide +kernel
  have named := table ⟨byte.toNat, toNat_lt_of_hexValue? reads⟩
  rw [UInt8.ofNat_toNat] at named
  exact named.resolve_left small digit reads

theorem eq_map_digitByte_of_ofSimple? {bytes : List UInt8} (small : ∀ byte ∈ bytes, IsSmall byte)
    (reads : ofSimple? bytes = some id) : bytes = id.digits.map digitByte := by
  unfold ofSimple? at reads
  obtain ⟨digits, found, reads⟩ := Option.bind_eq_some_iff.1 reads
  split at reads
  · cases reads
    exact Text.eq_map_of_mapM
      (fun byte mem digit => eq_digitByte_of_hexValue? (small byte mem)) found
  · cases reads

/-- Small bytes in groups are those of the hyphenated form. -/
theorem eq_grouped_of_ofHyphenated? {bytes : List UInt8} (small : ∀ byte ∈ bytes, IsSmall byte)
    (reads : ofHyphenated? bytes = some id) : bytes = grouped 45 (id.digits.map digitByte) := by
  obtain ⟨length, marked, reads⟩ := ofHyphenated?_eq_some_iff.1 reads
  have digits := eq_map_digitByte_of_ofSimple?
    (fun byte mem => small byte (mem_of_mem_ungrouped length mem)) reads
  rw [← digits, grouped_ungrouped length marked]

/-- The bytes of a text without capitals are small. -/
theorem isSmall_of_mem_toUTF8 (plain : s.toList.any Char.isUpper = false) :
    ∀ byte ∈ s.toUTF8.data.toList, IsSmall byte := by
  rintro byte mem ⟨large, below⟩
  obtain ⟨c, inside, ascii, rfl⟩ := Text.exists_char_of_mem_toUTF8 mem (by omega)
  have same : c.val.toUInt8.toNat = c.val.toNat := by
    rw [UInt32.toNat_toUInt8]
    exact Nat.mod_eq_of_lt (Nat.lt_of_le_of_lt (UInt32.le_iff_toNat_le.1 ascii) (by decide))
  rw [same] at large below
  refine List.any_eq_false.1 plain c inside (decide_eq_true ⟨?_, ?_⟩)
  · exact UInt32.le_iff_toNat_le.2 large
  · exact UInt32.le_iff_toNat_le.2 below

/-! ## Characters of digits -/

theorem getElem?_hyphenated (id : Uuid) (place : Nat) :
    id.hyphenated.toList[place]? =
      if place ∈ markPlaces then some '-'
      else id.digits[rankOf place]?.map fun digit => Nat.digitChar digit.val := by
  rw [hyphenated_eq, String.toList_ofList, getElem?_grouped '-' id.length_digitChars,
    List.getElem?_map]

/-- The version is written at the fifteenth place. -/
theorem getElem?_hyphenated_version (id : Uuid) :
    id.hyphenated.toList[14]? = some (Nat.digitChar id.version) := by
  have short : 12 < id.digits.length := by
    rw [id.digits_length]
    decide
  rw [getElem?_hyphenated, if_neg (by decide), version]
  change Option.map _ id.digits[12]? = _
  rw [List.getElem?_eq_getElem short]
  rfl

/-- The hexadecimal digits in small letters. -/
def smallDigits : List Char :=
  "0123456789abcdef".toList

theorem mem_smallDigits_iff {c : Char} :
    c ∈ smallDigits ↔ c ∈ Set.range fun digit : Fin 16 => Nat.digitChar digit.val := by
  have digits : smallDigits = (List.finRange 16).map fun digit => Nat.digitChar digit.val := by
    decide
  rw [digits, List.mem_map]
  simp

end Uuid

namespace VisitorId

open Uuid

variable {s : String} {id : Uuid}

/-- A visitor id is the hyphenated form of an identifier of version four. -/
theorem valid_iff_hyphenated : Valid s ↔ ∃ id : Uuid, id.version = 4 ∧ s = id.hyphenated := by
  constructor
  · intro valid
    obtain ⟨size, plain, id, reads, version⟩ := valid_iff_read.1 valid
    have length : s.toUTF8.data.toList.length = 36 := Array.length_toList.trans size
    rw [read?_of_length length] at reads
    have bytes := eq_grouped_of_ofHyphenated? (isSmall_of_mem_toUTF8 plain) reads
    rw [← id.toUTF8_hyphenated] at bytes
    have same : s.toByteArray = id.hyphenated.toByteArray :=
      ByteArray.ext (Array.toList_inj.1 bytes)
    exact ⟨id, version, String.toByteArray_inj.1 same⟩
  · rintro ⟨id, version, rfl⟩
    exact valid_hyphenated version

/-! ## Places -/

/-- That the right characters stand at the 36 places of a text, and all of them are ASCII. -/
structure WellSpelled (s : String) : Prop where
  ascii : ∀ c ∈ s.toList, c.toNat < 128
  length : s.toList.length = 36
  hyphens : ∀ place ∈ markPlaces, s.toList[place]? = some '-'
  digits : ∀ place < 36, place ∉ markPlaces → ∃ c ∈ smallDigits, s.toList[place]? = some c
  version : s.toList[14]? = some '4'

theorem wellSpelled_hyphenated (version : id.version = 4) : WellSpelled id.hyphenated where
  ascii c mem := Nat.lt_succ_of_le (UInt32.le_iff_toNat_le.1 (id.plain_of_mem_hyphenated c mem).1)
  length := by
    rw [hyphenated_eq, String.toList_ofList]
    exact length_grouped '-' id.length_digitChars
  hyphens place mem := by rw [getElem?_hyphenated, if_pos mem]
  digits place short item := by
    have here : rankOf place < id.digits.length := by
      rw [id.digits_length]
      rw [mem_markPlaces_iff] at item
      unfold rankOf
      split_ifs <;> omega
    refine ⟨_, mem_smallDigits_iff.2 ⟨id.digits[rankOf place], rfl⟩, ?_⟩
    rw [getElem?_hyphenated, if_neg item, List.getElem?_eq_getElem here]
    rfl
  version := by
    rw [getElem?_hyphenated_version, version]
    rfl

/-- The characters between the hyphens are those of digits. -/
theorem WellSpelled.exists_digits (spelled : WellSpelled s) :
    ∃ digits : List (Fin 16),
      (digits.map fun digit => Nat.digitChar digit.val) = ungrouped s.toList := by
  have written : ungrouped s.toList ∈
      Set.range (List.map fun digit : Fin 16 => Nat.digitChar digit.val) := by
    rw [Set.range_list_map]
    intro c mem
    obtain ⟨rank, found⟩ := List.mem_iff_getElem?.1 mem
    rw [getElem?_ungrouped spelled.length] at found
    obtain ⟨short, _⟩ := List.getElem?_eq_some_iff.1 found
    rw [spelled.length] at short
    obtain ⟨digit, small, here⟩ := spelled.digits _ short (placeOf_not_mem rank)
    rw [here] at found
    cases found
    exact mem_smallDigits_iff.1 small
  exact written

theorem WellSpelled.exists_hyphenated (spelled : WellSpelled s) :
    ∃ id : Uuid, id.version = 4 ∧ s = id.hyphenated := by
  obtain ⟨digits, written⟩ := spelled.exists_digits
  have count : digits.length = 32 := by
    rw [← length_ungrouped spelled.length, ← written, List.length_map]
  let id : Uuid := ⟨digits, count⟩
  have same : s = id.hyphenated := by
    rw [hyphenated_eq, written, grouped_ungrouped spelled.length spelled.hyphens,
      String.ofList_toList]
  have four : Nat.digitChar id.version = '4' := by
    have here := spelled.version
    rw [same, getElem?_hyphenated_version] at here
    exact Option.some.inj here
  have table : ∀ digit : Fin 16, Nat.digitChar digit.val = '4' → digit.val = 4 := by decide
  exact ⟨id, table _ four, same⟩

/-! ## Visitor ids in URLs -/

/-- Hexadecimal digits and hyphens mean nothing in a URL. -/
theorem Valid.isPlain (valid : Valid s) : ∀ c ∈ s.toList, Url.IsPlain c := by
  obtain ⟨id, _, rfl⟩ := valid_iff_hyphenated.1 valid
  have digits : ∀ digit : Fin 16, Url.IsPlain (Nat.digitChar digit.val) := by decide
  intro c mem
  rw [hyphenated_eq, String.toList_ofList] at mem
  rcases mem_grouped id.length_digitChars mem with rfl | mem
  · decide
  · obtain ⟨digit, _, rfl⟩ := List.mem_map.1 mem
    exact digits digit

/-- A request about a valid visitor keeps to its route as far as the rest of the route allows. -/
theorem Valid.leadsThrough_iff (host? : List Char → Option String) (baseUrl : String)
    {call : ServiceCall}
    (valid : Valid call.visitor) :
    Url.LeadsThrough host? (Request.base baseUrl) (Request.route call)
        (Request.ofCall baseUrl call).url ↔
      Url.IsFolder host? (Request.base baseUrl) ∧
        (∀ step ∈ Request.steps call, Url.IsSegment step.toList) ∧
          ∀ last ∈ (Request.steps call).getLast?, ∀ c ∈ last.toList.getLast?,
            Url.isOuter c = false := by
  have user : Url.IsSegment "user".toList := .of_isAlphanum (by decide)
  have visitor : Url.IsSegment call.visitor.toList := .of_isPlain valid.isPlain
  have visible : ∀ c ∈ call.visitor.toList.getLast?, Url.isOuter c = false := fun c last =>
    (valid.isPlain c (List.mem_of_getLast? last)).visible
  rw [Request.leadsThrough_ofCall_iff, Request.route, List.forall_mem_cons, List.forall_mem_cons,
    and_iff_right user, and_iff_right visitor]
  cases Request.steps call with
  | nil => simpa using fun _ => visible
  | cons step steps => rw [List.getLast?_cons_cons, List.getLast?_cons_cons]

/-- **The grammar of visitor ids.** A text is a visitor id exactly if the right characters stand at
its 36 places. Every visitor id is read as an identifier that no other one is read as. It is safe in
URLs: whether a request about it keeps to its route depends on the base and on the rest of the route
only. -/
theorem valid_iff_wellSpelled :
    (∀ s, Valid s ↔ WellSpelled s) ∧
      (∀ s, Valid s →
        ∃ id, read? s = some id ∧ ∀ t, Valid t → read? t = some id → t = s) ∧
      (∀ s, Valid s → Url.IsSegment s.toList) ∧
      ∀ (host? : List Char → Option String) (baseUrl : String) (call : ServiceCall),
        Valid call.visitor →
        (Url.LeadsThrough host? (Request.base baseUrl) (Request.route call)
            (Request.ofCall baseUrl call).url ↔
          Url.IsFolder host? (Request.base baseUrl) ∧
            (∀ step ∈ Request.steps call, Url.IsSegment step.toList) ∧
              ∀ last ∈ (Request.steps call).getLast?, ∀ c ∈ last.toList.getLast?,
                Url.isOuter c = false) := by
  refine ⟨fun s => valid_iff_hyphenated.trans ⟨?_, fun spelled => spelled.exists_hyphenated⟩,
    fun s valid => ?_, fun s valid => .of_isPlain valid.isPlain,
    fun host? baseUrl call valid => valid.leadsThrough_iff host? baseUrl⟩
  · rintro ⟨id, version, rfl⟩
    exact wellSpelled_hyphenated version
  · obtain ⟨id, _, rfl⟩ := valid_iff_hyphenated.1 valid
    refine ⟨id, id.read?_hyphenated, fun t other reads => ?_⟩
    obtain ⟨same, _, rfl⟩ := valid_iff_hyphenated.1 other
    rw [same.read?_hyphenated] at reads
    rw [Option.some.inj reads]

/-- A text with the right characters at its places is a visitor id, whose connection of a wallet is
asked for at its own URL. With a capital or without hyphens, the same digits are none. -/
theorem spelled_digits_are_valid :
    Valid "4b1e2f3a-5c6d-4e7f-8a9b-0c1d2e3f4a5b" ∧
      WellSpelled "4b1e2f3a-5c6d-4e7f-8a9b-0c1d2e3f4a5b" ∧
      ¬ WellSpelled "4B1e2f3a-5c6d-4e7f-8a9b-0c1d2e3f4a5b" ∧
      ¬ WellSpelled "4b1e2f3a5c6d4e7f8a9b0c1d2e3f4a5b" ∧
      Url.LeadsThrough Url.asciiHost? "http://host"
        ["user", "4b1e2f3a-5c6d-4e7f-8a9b-0c1d2e3f4a5b", "wallet", "connect"]
        (Request.ofCall "http://host"
          (.connectWallet "4b1e2f3a-5c6d-4e7f-8a9b-0c1d2e3f4a5b" "TAddr1")).url := by
  obtain ⟨grammar, _, _, leads⟩ := valid_iff_wellSpelled
  have valid : Valid "4b1e2f3a-5c6d-4e7f-8a9b-0c1d2e3f4a5b" := by decide +kernel
  have letters : ∀ step ∈ ["wallet", "connect"], step.toList.all Char.isAlphanum = true := by decide
  have reads : Url.read? Url.asciiHost? ("http://host" ++ "/") =
      some ⟨false, "host", 80, [""], none⟩ := by
    decide +kernel
  refine ⟨valid, (grammar _).1 valid, mt (grammar _).2 (by decide +kernel),
    mt (grammar _).2 (by decide +kernel), ?_⟩
  refine (leads Url.asciiHost? "http://host" (.connectWallet _ "TAddr1") valid).2
    ⟨⟨?_, ?_, ?_⟩, ?_, ?_⟩
  · exact Option.isSome_iff_exists.2 ⟨_, reads⟩
  · decide
  · decide
  · exact fun step mem => .of_isAlphanum (letters step mem)
  · intro step last c inside
    have alphanum := List.all_eq_true.1 (letters step (List.mem_of_getLast? last)) c
    exact (Url.IsPlain.of_isAlphanum (alphanum (List.mem_of_getLast? inside))).visible

end VisitorId

end VisitorLink
