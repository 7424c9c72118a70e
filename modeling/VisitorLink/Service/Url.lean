import VisitorLink.Text.Decimal

/-!
# Addresses on the web

Reading a URL of one of the two schemes that the service is reached by. The reader brings a URL to
its normal form: characters that a path or query may not hold are written as bytes in hexadecimal,
dot segments are resolved, a backslash counts as a slash, and the fragment is dropped. What a
server is asked for is the target, the path and the query.

Which hosts there are is left open: a reader of hosts is given to the reader of URLs. The one here
knows names in ASCII and numeric addresses (`Url.asciiHost?`).
-/

namespace VisitorLink

/-- A URL in its normal form. -/
structure Url where
  /-- Whether the connection is encrypted. -/
  isSecure : Bool
  host : String
  port : Nat
  /-- The segments of the path, with at least one, which may be empty. -/
  path : List String
  query : Option String
deriving DecidableEq, Repr

namespace Url

/-! ## Characters -/

/-- The upper-case hexadecimal digit of a number below sixteen. -/
def hexDigit (n : Nat) : Char :=
  (Nat.digitChar n).toUpper

/-- A character as its bytes in hexadecimal, each behind a percent sign. -/
def percentEncode (c : Char) : List Char :=
  (String.ofList [c]).toUTF8.data.toList.flatMap fun byte =>
    ['%', hexDigit (byte.toNat / 16), hexDigit (byte.toNat % 16)]

/-- Characters that no part of a URL holds as they are. -/
def isHidden (c : Char) : Bool :=
  c.toNat < 0x20 || 0x7E < c.toNat

/-- Characters that a path does not hold as they are. -/
def isEscapedInPath (c : Char) : Bool :=
  isHidden c || [' ', '"', '#', '<', '>', '?', '`', '\x7b', '\x7d'].contains c

/-- Characters that a query does not hold as they are. -/
def isEscapedInQuery (c : Char) : Bool :=
  isHidden c || [' ', '"', '#', '<', '>', '\''].contains c

/-- A text with some characters in hexadecimal. -/
def escaped (isEscaped : Char → Bool) (s : List Char) : List Char :=
  s.flatMap fun c => if isEscaped c then percentEncode c else [c]

/-! ## Paths -/

/-- Whether a segment stands for the folder that it is in. -/
def isDot (segment : List Char) : Bool :=
  [".", "%2e"].contains (String.ofList (segment.map Char.toLower))

/-- Whether a segment stands for the folder above. -/
def isDoubleDot (segment : List Char) : Bool :=
  ["..", ".%2e", "%2e.", "%2e%2e"].contains (String.ofList (segment.map Char.toLower))

/-- Whether a character ends a segment. -/
def isSlash (c : Char) : Bool :=
  c == '/' || c == '\\'

/-- The segments of a path. -/
def segments (path : List Char) : List (List Char) :=
  path.splitOnP isSlash

/-- The segments with dot segments resolved, behind those that were read already. A dot segment at
the end leaves an empty one. -/
def resolve (read : List (List Char)) : List (List Char) → List (List Char)
  | [] => read
  | [last] =>
      if isDoubleDot last then read.dropLast ++ [[]]
      else if isDot last then read ++ [[]]
      else read ++ [last]
  | segment :: rest =>
      if isDoubleDot segment then resolve read.dropLast rest
      else if isDot segment then resolve read rest
      else resolve (read ++ [segment]) rest

/-- The segments of a path in their normal form. -/
def normalPath (path : List Char) : List String :=
  let path := match path with
    | c :: rest => if isSlash c then rest else path
    | [] => []
  ((resolve [] (segments path)).map (escaped isEscapedInPath)).map String.ofList

/-! ## The parts of a URL -/

/-- A text without the characters that are passed over in a URL. -/
def cleaned (text : List Char) : List Char :=
  let isOuter (c : Char) : Bool := c.toNat ≤ 0x20
  (((text.dropWhile isOuter).reverse.dropWhile isOuter).reverse).filter fun c =>
    c != '\t' && c != '\n' && c != '\r'

/-- Whether the scheme is that of encrypted connections, and what follows the scheme. -/
def scheme? (text : List Char) : Option (Bool × List Char) :=
  let scheme := (text.takeWhile (· != ':')).map Char.toLower
  let rest := (text.dropWhile (· != ':')).drop 1
  if scheme = "http".toList then some (false, rest)
  else if scheme = "https".toList then some (true, rest)
  else none

/-- Whether a host may not hold a character. -/
def isForbiddenInHost (c : Char) : Bool :=
  isHidden c ||
    [' ', '#', '%', '/', ':', '<', '>', '?', '@', '[', '\\', ']', '^', '|'].contains c

/-- A host in its normal form, if it is a name in ASCII or a numeric address. -/
def asciiHost? (text : List Char) : Option String :=
  let lower := text.map Char.toLower
  match lower with
  | '[' :: rest =>
      if rest.getLast? = some ']' ∧
          rest.dropLast.all (fun c =>
            c.isDigit || ('a' ≤ c && c ≤ 'f') || c == ':' || c == '.') then
        some (String.ofList lower)
      else none
  | _ => if lower.any isForbiddenInHost then none else some (String.ofList lower)

/-- The number of a port, or the usual one where none is given. -/
def port? (isSecure : Bool) (text : List Char) : Option Nat :=
  match text with
  | [] => some (if isSecure then 443 else 80)
  | digits => do
      let port ← Text.Decimal.toNat? digits
      if port < 65536 then some port else none

/-- The host, which is not empty, and the port in the part in front of the path. Names of users are
passed over. -/
def server? (host? : List Char → Option String) (isSecure : Bool) (authority : List Char) :
    Option (String × Nat) := do
  let server := (authority.reverse.takeWhile (· != '@')).reverse
  let isNumeric := server.head? == some '['
  let hostChars :=
    if isNumeric then server.takeWhile (· != ']') ++ [']'] else server.takeWhile (· != ':')
  let rest :=
    if isNumeric then (server.dropWhile (· != ']')).drop 1 else server.dropWhile (· != ':')
  let host ← if hostChars = [] then none else host? hostChars
  match rest with
  | [] => return (host, ← port? isSecure [])
  | ':' :: digits => return (host, ← port? isSecure digits)
  | _ => none

/-- Reads a URL, whose host is read by the given reader. -/
def read? (host? : List Char → Option String) (text : String) : Option Url := do
  let (isSecure, rest) ← scheme? (cleaned text.toList)
  let rest := (rest.dropWhile isSlash).takeWhile (· != '#')
  let isEnd (c : Char) : Bool := isSlash c || c == '?'
  let (host, port) ← server? host? isSecure (rest.takeWhile fun c => !isEnd c)
  let rest := rest.dropWhile fun c => !isEnd c
  return {
    isSecure := isSecure
    host := host
    port := port
    path := normalPath (rest.takeWhile (· != '?'))
    query :=
      match rest.dropWhile (· != '?') with
      | [] => none
      | _ :: query => some (String.ofList (escaped isEscapedInQuery query)) }

/-- What the server is asked for. -/
def target (url : Url) : String :=
  "/" ++ "/".intercalate url.path ++ url.query.elim "" ("?" ++ ·)

end Url

end VisitorLink
