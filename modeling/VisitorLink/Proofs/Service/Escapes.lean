import VisitorLink.Json.Text
import VisitorLink.Proofs.Text.Bytes
import VisitorLink.Service.Url

/-!
# What segments of a path stand for

A server takes a percent sign with two hexadecimal digits behind it for one byte. Escaping what a
path may not hold does not change what a text stands for (`decoded_escaped`). A text stands for
itself unless it holds such a sign already, and then for fewer bytes than it has
(`decoded_eq_or_length_lt`).
-/

namespace VisitorLink.Url

/-- The bytes of some characters. -/
def bytes (s : List Char) : List UInt8 :=
  s.flatMap String.utf8EncodeChar

/-- The byte that the first two characters are in hexadecimal. -/
def leadingByte? : List Char → Option UInt8
  | a :: b :: _ => do
      return UInt8.ofNat ((← Json.Text.hexValue? a) * 16 + (← Json.Text.hexValue? b))
  | _ => none

/-- The bytes that some characters stand for in a path. -/
def decoded : List Char → List UInt8
  | '%' :: a :: b :: rest =>
      match leadingByte? (a :: b :: rest) with
      | some byte => byte :: decoded rest
      | none => String.utf8EncodeChar '%' ++ decoded (a :: b :: rest)
  | c :: rest => String.utf8EncodeChar c ++ decoded rest
  | [] => []

/-- Whether there is a percent sign with two hexadecimal digits behind it. -/
def holdsEscape : List Char → Bool
  | [] => false
  | c :: rest => (c == '%' && (leadingByte? rest).isSome) || holdsEscape rest

/-! ## Decoding step by step -/

/-- An escape stands for its byte. -/
theorem decoded_of_leadingByte {s : List Char} {byte : UInt8} (leads : leadingByte? s = some byte) :
    decoded ('%' :: s) = byte :: decoded (s.drop 2) := by
  match s, leads with
  | a :: b :: rest, leads =>
      rw [decoded]
      simp only [leads]
      rfl

/-- Any other character stands for its own bytes. -/
theorem decoded_of_plain {c : Char} {s : List Char} (plain : c = '%' → leadingByte? s = none) :
    decoded (c :: s) = String.utf8EncodeChar c ++ decoded s := by
  by_cases sign : c = '%'
  · subst sign
    match s, plain rfl with
    | [], _ => rfl
    | [_], _ => rfl
    | a :: b :: rest, plain =>
        rw [decoded]
        simp only [plain]
  · rw [decoded]
    exact fun _ _ _ same => absurd same sign

/-- There is no byte where fewer than two characters are left. -/
theorem leadingByte?_of_short {c : Char} {s : List Char}
    (short : ∀ a b rest, c = '%' → s = a :: b :: rest → False) (sign : c = '%') :
    leadingByte? s = none := by
  match s, short with
  | [], _ => rfl
  | [_], _ => rfl
  | a :: b :: rest, short => exact (short a b rest sign rfl).elim

/-- The bytes of a character come first. -/
theorem bytes_cons (c : Char) (s : List Char) :
    bytes (c :: s) = String.utf8EncodeChar c ++ bytes s :=
  List.flatMap_cons

/-- The bytes of a text are those of its characters. -/
theorem toUTF8_ofList (s : List Char) : (String.ofList s).toUTF8.data.toList = bytes s :=
  Text.toUTF8_ofList s

/-- Every character has a byte at least. -/
theorem length_utf8EncodeChar_pos (c : Char) : 0 < (String.utf8EncodeChar c).length := by
  rw [String.length_utf8EncodeChar]
  exact Char.utf8Size_pos c

/-! ## Escaping -/

/-- Two hexadecimal digits are read as their byte. -/
theorem leadingByte?_hexDigits {high low : Nat} (small : high < 16) (small' : low < 16)
    (s : List Char) :
    leadingByte? (hexDigit high :: hexDigit low :: s) = some (UInt8.ofNat (high * 16 + low)) := by
  have table : ∀ n : Fin 16, Json.Text.hexValue? (hexDigit n.val) = some n.val := by decide
  rw [leadingByte?, table ⟨high, small⟩, table ⟨low, small'⟩]
  rfl

/-- A character in hexadecimal stands for its own bytes. -/
theorem decoded_percentEncode (c : Char) (s : List Char) :
    decoded (percentEncode c ++ s) = String.utf8EncodeChar c ++ decoded s := by
  have each (data : List UInt8) :
      decoded ((data.flatMap fun byte =>
        ['%', hexDigit (byte.toNat / 16), hexDigit (byte.toNat % 16)]) ++ s) =
          data ++ decoded s := by
    induction data with
    | nil => rfl
    | cons byte data ih =>
        have bound := byte.toNat_lt
        rw [List.flatMap_cons, List.append_assoc]
        refine (decoded_of_leadingByte (leadingByte?_hexDigits (by omega) (by omega) _)).trans ?_
        rw [show byte.toNat / 16 * 16 + byte.toNat % 16 = byte.toNat by omega, UInt8.ofNat_toNat]
        exact congrArg (byte :: ·) ih
  rw [percentEncode, toUTF8_ofList, bytes, List.flatMap_singleton]
  exact each _

/-- Hexadecimal digits are not escaped. -/
theorem not_isEscapedInPath_of_hexValue? {c : Char} {value : Nat}
    (hex : Json.Text.hexValue? c = some value) : isEscapedInPath c = false := by
  have table : ∀ n : Fin 128, (Json.Text.hexValue? (Char.ofNat n.val)).isSome = true →
      isEscapedInPath (Char.ofNat n.val) = false := by decide
  have small : c.toNat < 128 := by
    unfold Json.Text.hexValue? at hex
    split at hex
    case isTrue digit =>
      simp only [Char.isDigit, Bool.and_eq_true, decide_eq_true_eq] at digit
      exact Nat.lt_of_le_of_lt (UInt32.le_iff_toNat_le.1 digit.2) (by decide)
    split at hex
    case isTrue lower => exact Nat.lt_of_le_of_lt (UInt32.le_iff_toNat_le.1 lower.2) (by decide)
    split at hex
    case isTrue upper => exact Nat.lt_of_le_of_lt (UInt32.le_iff_toNat_le.1 upper.2) (by decide)
    cases hex
  have named := table ⟨c.toNat, small⟩
  rw [Char.ofNat_toNat, hex] at named
  exact named rfl

/-- A byte is read from two digits. -/
theorem hexValue?_of_leadingByte {a b : Char} {s : List Char} {byte : UInt8}
    (leads : leadingByte? (a :: b :: s) = some byte) :
    (∃ high, Json.Text.hexValue? a = some high) ∧ ∃ low, Json.Text.hexValue? b = some low := by
  obtain ⟨high, first, leads⟩ := Option.bind_eq_some_iff.1 leads
  obtain ⟨low, second, _⟩ := Option.bind_eq_some_iff.1 leads
  exact ⟨⟨high, first⟩, low, second⟩

/-- A character that is escaped is written as its bytes. -/
theorem escaped_of_escaped {c : Char} (isEscaped : isEscapedInPath c = true) (s : List Char) :
    escaped isEscapedInPath (c :: s) = percentEncode c ++ escaped isEscapedInPath s := by
  rw [escaped, List.flatMap_cons, if_pos isEscaped]
  rfl

/-- A character that is not escaped is written as it is. -/
theorem escaped_of_not_escaped {c : Char} (plain : isEscapedInPath c = false) (s : List Char) :
    escaped isEscapedInPath (c :: s) = c :: escaped isEscapedInPath s := by
  rw [escaped, List.flatMap_cons, if_neg (by simp [plain])]
  rfl

/-- The two digits of a byte are not escaped. -/
theorem escaped_of_leadingByte {a b : Char} {s : List Char} {byte : UInt8}
    (leads : leadingByte? (a :: b :: s) = some byte) :
    escaped isEscapedInPath (a :: b :: s) = a :: b :: escaped isEscapedInPath s := by
  obtain ⟨⟨_, first⟩, _, second⟩ := hexValue?_of_leadingByte leads
  rw [escaped_of_not_escaped (not_isEscapedInPath_of_hexValue? first),
    escaped_of_not_escaped (not_isEscapedInPath_of_hexValue? second)]

/-- A character in hexadecimal starts with a percent sign. -/
theorem exists_percentEncode (c : Char) (s : List Char) :
    ∃ rest, percentEncode c ++ s = '%' :: rest := by
  have some : (String.ofList [c]).toUTF8.data.toList ≠ [] := by
    rw [toUTF8_ofList, bytes_cons]
    exact fun none => Nat.ne_of_gt (length_utf8EncodeChar_pos c)
      (congrArg List.length (List.append_eq_nil_iff.1 none).1)
  obtain ⟨byte, data, same⟩ := List.exists_cons_of_ne_nil some
  rw [percentEncode, same]
  exact ⟨_, rfl⟩

/-- A character that is no digit starts no byte. -/
theorem leadingByte?_of_head {a : Char} (noDigit : Json.Text.hexValue? a = none)
    (s : List Char) : leadingByte? (a :: s) = none := by
  cases s with
  | nil => rfl
  | cons b s => rw [leadingByte?, noDigit]; rfl

/-- A second character that is no digit ends the byte. -/
theorem leadingByte?_of_second {b : Char} (noDigit : Json.Text.hexValue? b = none) (a : Char)
    (s : List Char) : leadingByte? (a :: b :: s) = none := by
  rw [leadingByte?, noDigit]
  cases Json.Text.hexValue? a <;> rfl

/-- No digit is escaped. -/
theorem hexValue?_of_escaped {c : Char} (isEscaped : isEscapedInPath c = true) :
    Json.Text.hexValue? c = none := by
  refine Option.eq_none_iff_forall_ne_some.2 fun value hex => ?_
  rw [not_isEscapedInPath_of_hexValue? hex] at isEscaped
  cases isEscaped

/-- Escaping makes no byte where there was none. -/
theorem leadingByte?_escaped (s : List Char) :
    leadingByte? (escaped isEscapedInPath s) = leadingByte? s := by
  have percent : Json.Text.hexValue? '%' = none := by decide
  cases s with
  | nil => rfl
  | cons a s =>
      by_cases first : isEscapedInPath a = true
      · obtain ⟨rest, starts⟩ := exists_percentEncode a (escaped isEscapedInPath s)
        rw [escaped_of_escaped first, starts, leadingByte?_of_head percent,
          leadingByte?_of_head (hexValue?_of_escaped first)]
      rw [escaped_of_not_escaped (eq_false_of_ne_true first)]
      cases s with
      | nil => rfl
      | cons b s =>
          by_cases second : isEscapedInPath b = true
          · obtain ⟨rest, starts⟩ := exists_percentEncode b (escaped isEscapedInPath s)
            rw [escaped_of_escaped second, starts, leadingByte?_of_second percent,
              leadingByte?_of_second (hexValue?_of_escaped second)]
          · rw [escaped_of_not_escaped (eq_false_of_ne_true second)]
            rfl

/-- Escaping does not change what characters stand for. -/
theorem decoded_escaped (s : List Char) :
    decoded (escaped isEscapedInPath s) = decoded s := by
  have percent : isEscapedInPath '%' = false := by decide
  fun_induction decoded s with
  | case1 a b rest byte leads ih =>
      have same := leadingByte?_escaped (a :: b :: rest)
      rw [escaped_of_not_escaped percent, decoded_of_leadingByte (same.trans leads),
        escaped_of_leadingByte leads]
      exact congrArg (byte :: ·) ih
  | case2 a b rest plain ih =>
      have same := leadingByte?_escaped (a :: b :: rest)
      rw [escaped_of_not_escaped percent, decoded_of_plain fun _ => same.trans plain, ih]
  | case3 c rest short ih =>
      by_cases isEscaped : isEscapedInPath c = true
      · rw [escaped_of_escaped isEscaped, decoded_percentEncode, ih]
      · have plain (sign : c = '%') : leadingByte? (escaped isEscapedInPath rest) = none :=
          (leadingByte?_escaped rest).trans (leadingByte?_of_short short sign)
        rw [escaped_of_not_escaped (eq_false_of_ne_true isEscaped), decoded_of_plain plain, ih]
  | case4 => rfl

/-! ## Texts that stand for themselves -/

/-- A percent sign in front of a byte is an escape. -/
theorem holdsEscape_of_leadingByte {s : List Char} {byte : UInt8}
    (leads : leadingByte? s = some byte) : holdsEscape ('%' :: s) = true := by
  rw [holdsEscape, leads]
  rfl

/-- Any other character is none, so the rest decides. -/
theorem holdsEscape_of_plain {c : Char} {s : List Char}
    (plain : c = '%' → leadingByte? s = none) : holdsEscape (c :: s) = holdsEscape s := by
  rw [holdsEscape]
  by_cases sign : c = '%'
  · rw [plain sign, Option.isSome_none, Bool.and_false, Bool.false_or]
  · rw [beq_eq_false_iff_ne.2 sign, Bool.false_and, Bool.false_or]

/-- Characters without a percent sign hold no escape. -/
theorem holdsEscape_of_no_percent {s : List Char} (plain : ∀ c ∈ s, c ≠ '%') :
    holdsEscape s = false := by
  induction s with
  | nil => rfl
  | cons c s ih =>
      rw [holdsEscape_of_plain fun sign => absurd sign (plain c List.mem_cons_self)]
      exact ih fun d mem => plain d (List.mem_cons_of_mem c mem)

/-- One more character with its own bytes makes no difference. -/
theorem eq_or_length_lt_cons {c : Char} {s : List Char}
    (plain : c = '%' → leadingByte? s = none)
    (rest : holdsEscape s = false ∧ decoded s = bytes s ∨
      holdsEscape s = true ∧ (decoded s).length < (bytes s).length) :
    holdsEscape (c :: s) = false ∧ decoded (c :: s) = bytes (c :: s) ∨
      holdsEscape (c :: s) = true ∧ (decoded (c :: s)).length < (bytes (c :: s)).length := by
  rw [holdsEscape_of_plain plain, decoded_of_plain plain, bytes_cons, List.length_append,
    List.length_append]
  refine rest.imp (And.imp_right fun same => ?_) (And.imp_right fun lt => ?_)
  · rw [same]
  · exact Nat.add_lt_add_left lt _

/-- Characters stand for their own bytes, or for fewer bytes than they have. -/
theorem decoded_eq_or_length_lt (s : List Char) :
    holdsEscape s = false ∧ decoded s = bytes s ∨
      holdsEscape s = true ∧ (decoded s).length < (bytes s).length := by
  fun_induction decoded s with
  | case1 a b rest byte leads ih =>
      have bound : (decoded rest).length ≤ (bytes rest).length := by
        rcases ih with ⟨_, same⟩ | ⟨_, lt⟩
        · exact Nat.le_of_eq (congrArg List.length same)
        · exact Nat.le_of_lt lt
      have first := length_utf8EncodeChar_pos '%'
      have second := length_utf8EncodeChar_pos a
      have third := length_utf8EncodeChar_pos b
      refine .inr ⟨holdsEscape_of_leadingByte leads, ?_⟩
      simp only [bytes_cons, List.length_append, List.length_cons]
      omega
  | case2 a b rest plain ih =>
      rw [← decoded_of_plain fun _ => plain]
      exact eq_or_length_lt_cons (fun _ => plain) ih
  | case3 c rest short ih =>
      have plain := leadingByte?_of_short short
      rw [← decoded_of_plain plain]
      exact eq_or_length_lt_cons plain ih
  | case4 => exact .inl ⟨rfl, rfl⟩

/-- Decoding makes no bytes. -/
theorem length_decoded_le (s : List Char) : (decoded s).length ≤ (bytes s).length := by
  rcases decoded_eq_or_length_lt s with ⟨_, same⟩ | ⟨_, lt⟩
  · exact Nat.le_of_eq (congrArg List.length same)
  · exact Nat.le_of_lt lt

/-- A path stands for its own bytes exactly if it holds no escape. -/
theorem decoded_eq_bytes_iff (s : List Char) : decoded s = bytes s ↔ holdsEscape s = false := by
  rcases decoded_eq_or_length_lt s with ⟨none, same⟩ | ⟨some, lt⟩
  · simp [none, same]
  · refine iff_of_false (fun same => ?_) (by simp [some])
    exact Nat.ne_of_lt lt (congrArg List.length same)

end VisitorLink.Url
