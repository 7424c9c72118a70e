/-!
# Characters of a JSON text

How the characters of a string are written between its quotes. Writing escapes a character only
where the format demands it; reading knows all escapes, and treats the two halves of a surrogate
pair as one character. Main statement: what is written for a text is read back as that text
(`read?_write`).
-/

namespace VisitorLink.Json.Text

/-- The lower-case hexadecimal digit of a number below sixteen. -/
def hexDigit (n : Nat) : Char :=
  Nat.digitChar n

/-- The value of a hexadecimal digit of either case. -/
def hexValue? (c : Char) : Option Nat :=
  if c.isDigit then some (c.toNat - '0'.toNat)
  else if 'a' ≤ c ∧ c ≤ 'f' then some (c.toNat - 'a'.toNat + 10)
  else if 'A' ≤ c ∧ c ≤ 'F' then some (c.toNat - 'A'.toNat + 10)
  else none

/-- The characters that stand for one character of a text: itself, unless it is a quote, a
backslash or a control character below the space. -/
def escape (c : Char) : List Char :=
  if c = '"' then ['\\', '"']
  else if c = '\\' then ['\\', '\\']
  else if c = '\x08' then ['\\', 'b']
  else if c = '\t' then ['\\', 't']
  else if c = '\n' then ['\\', 'n']
  else if c = '\x0c' then ['\\', 'f']
  else if c = '\r' then ['\\', 'r']
  else if c.toNat < 0x20 then
    ['\\', 'u', '0', '0', hexDigit (c.toNat / 16), hexDigit (c.toNat % 16)]
  else [c]

/-- The characters between the quotes for a text. -/
def write (s : List Char) : List Char :=
  s.flatMap escape

/-- What one character or escape between the quotes denotes: a character, or half of a surrogate
pair. -/
inductive Piece
  | char (c : Char)
  | half (code : Nat)
deriving DecidableEq, Repr

/-- The piece that a code of four hexadecimal digits denotes. -/
def Piece.ofCode (code : Nat) : Piece :=
  if 0xD800 ≤ code ∧ code ≤ 0xDFFF then .half code else .char (Char.ofNat code)

/-- The character that a backslash and a letter denote. -/
def simpleEscape? : Char → Option Char
  | '"' => some '"'
  | '\\' => some '\\'
  | '/' => some '/'
  | 'b' => some '\x08'
  | 'f' => some '\x0c'
  | 'n' => some '\n'
  | 'r' => some '\r'
  | 't' => some '\t'
  | _ => none

/-- The code that four hexadecimal digits denote. -/
def code? (a b c d : Char) : Option Nat := do
  return ((← hexValue? a) * 16 + (← hexValue? b)) * 256 + ((← hexValue? c) * 16 + (← hexValue? d))

/-- Reads pieces up to the closing quote, and gives them with the text behind the quote. A control
character below the space and an unknown escape are refused. -/
def pieces? : List Char → Option (List Piece × List Char)
  | [] => none
  | '"' :: rest => some ([], rest)
  | '\\' :: 'u' :: a :: b :: c :: d :: rest => do
      let code ← code? a b c d
      let (pieces, rest) ← pieces? rest
      return (.ofCode code :: pieces, rest)
  | '\\' :: letter :: rest => do
      let c ← simpleEscape? letter
      let (pieces, rest) ← pieces? rest
      return (.char c :: pieces, rest)
  | c :: rest =>
      if c.toNat < 0x20 then none
      else do
        let (pieces, rest) ← pieces? rest
        return (.char c :: pieces, rest)

/-- The character that a leading and a trailing half denote together. -/
def joined? (leading trailing : Nat) : Option Char :=
  if 0xD800 ≤ leading ∧ leading ≤ 0xDBFF ∧ 0xDC00 ≤ trailing ∧ trailing ≤ 0xDFFF then
    some (Char.ofNat (0x10000 + (leading - 0xD800) * 0x400 + (trailing - 0xDC00)))
  else none

/-- The text that pieces denote, if each half has its other half next to it. -/
def assemble? : List Piece → Option (List Char)
  | [] => some []
  | .char c :: rest => (assemble? rest).map (c :: ·)
  | .half leading :: .half trailing :: rest => do
      let c ← joined? leading trailing
      let text ← assemble? rest
      return c :: text
  | .half _ :: _ => none

/-- Reads the characters behind an opening quote: the text up to the closing quote, none where it
holds half of a surrogate pair, and what follows the closing quote. -/
def read? (s : List Char) : Option (Option String × List Char) := do
  let (pieces, rest) ← pieces? s
  return ((assemble? pieces).map String.ofList, rest)

/-! ## Reading what was written -/

theorem hexValue?_hexDigit {n : Nat} (small : n < 16) : hexValue? (hexDigit n) = some n := by
  have table : ∀ m : Fin 16, hexValue? (hexDigit m.val) = some m.val := by decide
  exact table ⟨n, small⟩

/-- A character that needs no escape is read as itself. -/
theorem pieces?_cons_plain {c : Char} (s : List Char) (quote : c ≠ '"') (backslash : c ≠ '\\')
    (visible : ¬ c.toNat < 0x20) :
    pieces? (c :: s) = (pieces? s).map fun read => (.char c :: read.1, read.2) := by
  rw [pieces?]
  · simp only [visible, ↓reduceIte]
    cases pieces? s <;> rfl
  all_goals simp_all

theorem pieces?_escape_append (c : Char) (s : List Char) :
    pieces? (escape c ++ s) = (pieces? s).map fun read => (.char c :: read.1, read.2) := by
  have simple : ∀ letter, letter ≠ 'u' → simpleEscape? letter = some c →
      pieces? ('\\' :: letter :: s) =
        (pieces? s).map fun read => (.char c :: read.1, read.2) := by
    intro letter different known
    rw [pieces?]
    · rw [known]
      cases pieces? s <;> rfl
    · simp_all
  by_cases quote : c = '"'
  · subst quote
    exact simple '"' (by decide) rfl
  by_cases backslash : c = '\\'
  · subst backslash
    exact simple '\\' (by decide) rfl
  by_cases backspace : c = '\x08'
  · subst backspace
    exact simple 'b' (by decide) rfl
  by_cases tab : c = '\t'
  · subst tab
    exact simple 't' (by decide) rfl
  by_cases newline : c = '\n'
  · subst newline
    exact simple 'n' (by decide) rfl
  by_cases feed : c = '\x0c'
  · subst feed
    exact simple 'f' (by decide) rfl
  by_cases carriage : c = '\r'
  · subst carriage
    exact simple 'r' (by decide) rfl
  by_cases control : c.toNat < 0x20
  · have code : code? '0' '0' (hexDigit (c.toNat / 16)) (hexDigit (c.toNat % 16)) =
        some c.toNat := by
      have high := hexValue?_hexDigit (n := c.toNat / 16) (by omega)
      have low := hexValue?_hexDigit (n := c.toNat % 16) (by omega)
      have zero : hexValue? '0' = some 0 := by decide
      simp only [code?, zero, high, low, Option.pure_def, Option.bind_eq_bind, Option.bind_some,
        Option.some.injEq]
      omega
    have piece : Piece.ofCode c.toNat = .char c := by
      have range : ¬ (0xD800 ≤ c.toNat ∧ c.toNat ≤ 0xDFFF) := by omega
      simp [Piece.ofCode, range]
    simp only [escape, quote, backslash, backspace, tab, newline, feed, carriage, control,
      ↓reduceIte, List.cons_append, List.nil_append]
    rw [pieces?, code]
    simp only [piece, Option.bind_eq_bind, Option.bind_some]
    cases pieces? s <;> rfl
  · simp only [escape, quote, backslash, backspace, tab, newline, feed, carriage, control,
      ↓reduceIte, List.cons_append, List.nil_append]
    exact pieces?_cons_plain s quote backslash control

theorem pieces?_write_append (s rest : List Char) :
    pieces? (write s ++ '"' :: rest) = some (s.map .char, rest) := by
  induction s with
  | nil => rfl
  | cons c s ih =>
      rw [write, List.flatMap_cons, List.append_assoc, pieces?_escape_append]
      rw [write] at ih
      rw [ih]
      rfl

theorem assemble?_map_char (s : List Char) : assemble? (s.map .char) = some s := by
  induction s with
  | nil => rfl
  | cons c s ih => simp [assemble?, ih]

/-- What is written for a text, and a closing quote, is read as that text. -/
theorem read?_write (s : String) (rest : List Char) :
    read? (write s.toList ++ '"' :: rest) = some (some s, rest) := by
  simp [read?, pieces?_write_append, assemble?_map_char]

end VisitorLink.Json.Text
