import Bursar.Http.Message
import Bursar.Http.Status
import Bursar.Text.Blank
import Bursar.Text.Hexadecimal
import Bursar.Text.Numeral
import Bursar.Text.Utf8

/-!
# Messages on a connection

A message is a head and a body. The head is lines, the last of them empty; its
first line says what kind of message it is, the others are headers. The head
also says how far the body goes (`Extent`): so many octets, pieces that tell
their own lengths, or everything up to the end of the connection.

A connection carries one request and its answer and is then closed.
-/

namespace Bursar.Http

/-! ## Writing -/

/-- A header as a line. -/
def headerLine (h : String × String) : String := h.1 ++ ": " ++ h.2 ++ "\r\n"

/-- A message from its first line, its headers and its body. -/
def messageText (first : String) (headers : List (String × String)) (body : String) : String :=
  let framing := [("content-length", Text.ofNat body.utf8ByteSize), ("connection", "close")]
  first ++ "\r\n" ++ String.join ((headers ++ framing).map headerLine) ++ "\r\n" ++ body

/-- A request as it is sent to a host. -/
def Request.written (r : Request) (host : String) : String :=
  messageText (r.method ++ " " ++ r.target ++ " HTTP/1.1") (("host", host) :: r.headers) r.body

/-- An answer as it is sent. -/
def Response.written (r : Response) : String :=
  messageText ("HTTP/1.1 " ++ Text.ofNat r.status ++ " " ++ (phrase? r.status).getD "") r.allHeaders r.body

/-! ## Heads -/

/-- The head of a message. -/
structure Head where
  first : String
  headers : List (String × String)
deriving DecidableEq, Repr

/-- The octets before and after the first empty line. -/
def splitHead? : List UInt8 → Option (List UInt8 × List UInt8)
  | 13 :: 10 :: 13 :: 10 :: rest => some ([], rest)
  | b :: rest => (splitHead? rest).map fun (before, after) => (b :: before, after)
  | [] => none

/-- The name and the value of a header; a line without a colon is none. -/
def readHeader? (line : String) : Option (String × String) :=
  (Text.splitFirstString ':' line).map fun (name, value) => (name, Text.trim value)

/-- Reads the lines of a head. -/
def readHead (octets : List UInt8) : Head :=
  match (Text.splitAllString '\n' (Text.decodeLossy octets)).map Text.trim with
  | [] => { first := "", headers := [] }
  | first :: lines => { first, headers := lines.filterMap readHeader? }

/-- The value of the first header of a name. -/
def Head.header? (h : Head) (name : String) : Option String :=
  (h.headers.find? fun header => Text.lowerAscii header.1 = name).map (·.2)

/-! ## Bodies -/

/-- How far a body goes. -/
inductive Extent where
  | octets (count : Nat)
  | pieces
  | rest
deriving DecidableEq, Repr

/-- How far the body goes that a head announces, where `otherwise` holds if it says nothing. -/
def Head.extent (h : Head) (otherwise : Extent) : Extent :=
  if (h.header? "transfer-encoding").map Text.lowerAscii = some "chunked" then .pieces
  else
    match (h.header? "content-length").bind Text.unsigned64? with
    | some count => .octets count
    | none => otherwise

/-- The value of the hexadecimal digits at the front. -/
def leadingHex (value : Nat) : List UInt8 → Nat
  | [] => value
  | b :: rest =>
    match Text.hexValue? (Char.ofNat b.toNat) with
    | some d => leadingHex (value * 16 + d.val) rest
    | none => value

/-- What follows the first end of a line. -/
def afterLine? : List UInt8 → Option (List UInt8)
  | 13 :: 10 :: rest => some rest
  | _ :: rest => afterLine? rest
  | [] => none

/-- The pieces of a body joined, once the empty one at the end is there. Each takes some of the octets, so
there are no more pieces than octets. -/
def joinPieces? : (fuel : Nat) → List UInt8 → Option (List UInt8)
  | 0, _ => none
  | fuel + 1, octets =>
    match afterLine? octets, leadingHex 0 octets with
    | none, _ => none
    | some _, 0 => some []
    | some rest, length + 1 =>
      if rest.length < length + 3 then none
      else (joinPieces? fuel (rest.drop (length + 3))).map fun joined => rest.take (length + 1) ++ joined

/-- The body in what came after the head, once all of it is there. -/
def body? (extent : Extent) (octets : List UInt8) (isEnded : Bool) : Option (List UInt8) :=
  match extent with
  | .octets count => if count ≤ octets.length then some (octets.take count) else none
  | .pieces => joinPieces? (octets.length + 1) octets
  | .rest => if isEnded then some octets else none

/-- A message in what came so far, once all of it is there. -/
def message? (otherwise : Extent) (octets : List UInt8) (isEnded : Bool) : Option (Head × String) := do
  let (before, after) ← splitHead? octets
  let head := readHead before
  let body ← body? (head.extent otherwise) after isEnded
  return (head, Text.decodeLossy body)

/-! ## Requests and answers -/

/-- The request in a message. -/
def Request.ofMessage? (head : Head) (body : String) : Option Request :=
  match Text.splitAllString ' ' head.first with
  | [method, target, _] =>
    let (path, query) := Request.splitTarget target
    some { method, path, query, headers := head.headers, body }
  | _ => none

/-- The answer in a message. -/
def Response.ofMessage? (head : Head) (body : String) : Option Response :=
  match Text.splitAllString ' ' head.first with
  | _ :: status :: _ =>
    (Text.unsigned16? status).map fun status =>
      { status, contentType := head.header? "content-type", headers := head.headers, body }
  | _ => none

/-- What came as a request, once all of it is there; one that announces no body has none. A message may
turn out to be no request. -/
def Request.received? (octets : List UInt8) (isEnded : Bool) : Option (Option Request) :=
  (message? (.octets 0) octets isEnded).map fun (head, body) => Request.ofMessage? head body

/-- What came as an answer, once all of it is there; one that announces no length goes up to the end. A
message may turn out to be no answer. -/
def Response.received? (octets : List UInt8) (isEnded : Bool) : Option (Option Response) :=
  (message? .rest octets isEnded).map fun (head, body) => Response.ofMessage? head body

end Bursar.Http
