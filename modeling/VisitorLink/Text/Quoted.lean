import VisitorLink.Text.Hidden

/-!
# Quoted texts

A text between quotes, as it is shown where its bounds and all of its characters are to be seen.
-/

namespace VisitorLink.Text.Quoted

/-- The characters that stand for one character: an escape for a quote, a backslash and a character
that does not show, and the character itself for any other. -/
def escape (c : Char) : List Char :=
  if c = '"' then ['\\', '"']
  else if c = '\\' then ['\\', '\\']
  else if c = '\n' then ['\\', 'n']
  else if c = '\r' then ['\\', 'r']
  else if c = '\t' then ['\\', 't']
  else if c = '\x00' then ['\\', '0']
  else if isHidden c then ['\\', 'u', '\x7b'] ++ Nat.toDigits 16 c.toNat ++ ['\x7d']
  else [c]

/-- A text between quotes. -/
def write (text : String) : String :=
  String.ofList ('"' :: text.toList.flatMap escape ++ ['"'])

end VisitorLink.Text.Quoted
