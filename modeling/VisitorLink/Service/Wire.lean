import VisitorLink.Service.Reply
import VisitorLink.Service.Request

/-!
# Requests and replies as bytes

A request is sent over a connection of its own, which the server closes when the reply is
complete. A reply is a head of lines, an empty line, and a body, whose length follows from the
head.
-/

namespace VisitorLink.Wire

/-! ## Requests -/

/-- The end of a line of a head. -/
def lineEnd : String := "\r\n"

/-- The host of a URL, with the port where it is not the usual one. -/
def hostField (url : Url) : String :=
  if url.port = (if url.isSecure then 443 else 80) then url.host
  else url.host ++ ":" ++ toString url.port

/-- The lines of the head of a request. -/
def head (url : Url) (request : Request) : List String :=
  [request.method.name ++ " " ++ url.target ++ " HTTP/1.1", "host: " ++ hostField url,
    "accept: */*", "connection: close"] ++
    (if request.body.isSome then ["content-type: application/json"] else []) ++
    (if request.method = .get then []
      else ["content-length: " ++ toString request.text.utf8ByteSize])

/-- The text that is sent for a request. -/
def write (url : Url) (request : Request) : String :=
  String.join ((head url request).map fun line => line ++ lineEnd) ++ lineEnd ++ request.text

/-! ## Replies -/

/-- The text of bytes. A byte that belongs to no character stands for the replacement
character. -/
def decode : (fuel : Nat) → List UInt8 → List Char
  | 0, _ => []
  | _, [] => []
  | fuel + 1, byte :: bytes =>
      let lengths := [1, 2, 3, 4].filterMap fun length =>
        match String.fromUTF8? ⟨((byte :: bytes).take length).toArray⟩ with
        | some text => if text.length = 1 then text.toList.head?.map (·, length) else none
        | none => none
      match lengths with
      | (c, length) :: _ => c :: decode fuel ((byte :: bytes).drop length)
      | [] => '\uFFFD' :: decode fuel bytes

/-- The text of bytes. -/
def text (bytes : List UInt8) : String :=
  match String.fromUTF8? ⟨bytes.toArray⟩ with
  | some text => text
  | none => String.ofList (decode bytes.length bytes)

/-- The first line, without its end, and what follows it. -/
def line? : List UInt8 → Option (List UInt8 × List UInt8)
  | [] => none
  | 13 :: 10 :: rest => some ([], rest)
  | byte :: rest => (line? rest).map fun (line, rest) => (byte :: line, rest)

/-- The lines of a head, and what follows the empty line behind it. -/
def head? : (fuel : Nat) → List UInt8 → Option (List String × List UInt8)
  | 0, _ => none
  | fuel + 1, bytes => do
      let (line, rest) ← line? bytes
      if line = [] then return ([], rest)
      let (lines, rest) ← head? fuel rest
      return (text line :: lines, rest)

/-- The value of a field of a head, in small letters. -/
def field? (name : String) (lines : List String) : Option String :=
  lines.findSome? fun line =>
    let key := line.toList.takeWhile (· != ':')
    if String.ofList (key.map Char.toLower) = name then
      let value := (line.toList.drop (key.length + 1)).filter (· != ' ')
      some (String.ofList (value.map Char.toLower))
    else none

/-- The number that hexadecimal digits denote. -/
def hexNumber? (digits : List Char) : Option Nat :=
  if digits = [] then none
  else digits.foldlM (fun n c => (Json.Text.hexValue? c).map fun digit => n * 16 + digit) 0

/-- Puts the pieces of a body together, each of which comes with its length. -/
def pieces? : (fuel : Nat) → List UInt8 → Option (List UInt8)
  | 0, _ => none
  | fuel + 1, bytes => do
      let (line, rest) ← line? bytes
      let length ← hexNumber? ((text line).toList.takeWhile fun c => c != ';' && c != ' ')
      if length = 0 then return []
      if rest.length < length + 2 then none
      else
        let more ← pieces? fuel (rest.drop (length + 2))
        return rest.take length ++ more

/-- The body behind a head. -/
def body? (lines : List String) (bytes : List UInt8) : Option (List UInt8) :=
  if field? "transfer-encoding" lines = some "chunked" then pieces? (bytes.length + 1) bytes
  else
    match (field? "content-length" lines).bind fun value => Text.Decimal.toNat? value.toList with
    | some length => if bytes.length < length then none else some (bytes.take length)
    | none => some bytes

/-- The status in the first line of a head. -/
def status? (line : String) : Option UInt16 := do
  let code ← Text.Decimal.toNat? (((line.toList.dropWhile (· != ' ')).drop 1).take 3)
  if code < 1000 then some (UInt16.ofNat code) else none

/-- The reply that bytes are. -/
def reply (bytes : List UInt8) : Reply :=
  let read : Option Reply := do
    let (lines, rest) ← head? (bytes.length + 1) bytes
    let status ← status? (← lines.head?)
    let body ← if status = 204 ∨ status = 304 then some [] else body? lines rest
    return .received status (text body)
  read.getD (.missing "connection closed before message completed")

end VisitorLink.Wire
