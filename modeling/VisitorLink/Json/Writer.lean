import VisitorLink.Json.Basic
import VisitorLink.Json.Text

/-!
# Writing JSON documents

The compact form, without any white space, is what requests carry; the indented form, two spaces
for each level, is what stored documents hold.
-/

namespace VisitorLink.Json

/-- A text between quotes. A text that denotes no characters is written as the empty text. -/
def writeText (s : Option String) : List Char :=
  '"' :: Text.write (s.getD "").toList ++ ['"']

/-- A numeral as it was read. -/
def writeNumeral (n : Numeral) : List Char :=
  (if n.negative then ['-'] else []) ++ Text.Decimal.ofNat n.whole ++
    (n.fraction.elim [] ('.' :: ·)) ++ (n.exponent.elim [] ('e' :: ·))

mutual

/-- The compact form of a value. -/
def writeCompact : Json → List Char
  | .null => ['n', 'u', 'l', 'l']
  | .bool true => ['t', 'r', 'u', 'e']
  | .bool false => ['f', 'a', 'l', 's', 'e']
  | .num n => writeNumeral n
  | .str s => writeText s
  | .arr [] => ['[', ']']
  | .arr (item :: items) => '[' :: writeCompact item ++ writeItems items
  | .obj [] => ['\x7b', '\x7d']
  | .obj ((key, value) :: members) =>
      '\x7b' :: writeText key ++ ':' :: writeCompact value ++ writeMembers members

/-- The items after the first one, and the closing bracket. -/
def writeItems : List Json → List Char
  | [] => [']']
  | item :: items => ',' :: writeCompact item ++ writeItems items

/-- The members after the first one, and the closing brace. -/
def writeMembers : List (Option String × Json) → List Char
  | [] => ['\x7d']
  | (key, value) :: members =>
      ',' :: writeText key ++ ':' :: writeCompact value ++ writeMembers members

end

/-- The compact document of a value. -/
def compact (value : Json) : String :=
  String.ofList (writeCompact value)

/-- A line break and the indentation of a level. -/
def newline (level : Nat) : List Char :=
  '\n' :: List.replicate (2 * level) ' '

mutual

/-- The indented form of a value that starts on a line of the given level. -/
def writeIndented (level : Nat) : Json → List Char
  | .arr (item :: items) =>
      '[' :: newline (level + 1) ++ writeIndented (level + 1) item ++
        writeIndentedItems level items
  | .obj ((key, value) :: members) =>
      '\x7b' :: newline (level + 1) ++ writeText key ++ ':' :: ' ' ::
        writeIndented (level + 1) value ++ writeIndentedMembers level members
  | value => writeCompact value

/-- The items after the first one, each on its line, and the closing bracket on its own. -/
def writeIndentedItems (level : Nat) : List Json → List Char
  | [] => newline level ++ [']']
  | item :: items =>
      ',' :: newline (level + 1) ++ writeIndented (level + 1) item ++
        writeIndentedItems level items

/-- The members after the first one, each on its line, and the closing brace on its own. -/
def writeIndentedMembers (level : Nat) : List (Option String × Json) → List Char
  | [] => newline level ++ ['\x7d']
  | (key, value) :: members =>
      ',' :: newline (level + 1) ++ writeText key ++ ':' :: ' ' ::
        writeIndented (level + 1) value ++ writeIndentedMembers level members

end

/-- The indented document of a value. -/
def indented (value : Json) : String :=
  String.ofList (writeIndented 0 value)

end VisitorLink.Json
