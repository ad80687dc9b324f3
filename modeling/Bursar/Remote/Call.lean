import Bursar.Http.Message
import Bursar.Http.Status
import Bursar.Json.Decode
import Bursar.Url.Basic

/-!
# Calls to other services

A call is a request with the URL it goes to. Some calls are not even sent
(`Call.refusal?`); of the others one learns the answer, or that there was none.

A name and a password that stand in the URL are sent in Base64, octets written with
sixty-four digits: three octets are four digits of six bits each, and an equals sign
fills the place of a digit that is missing at the end.
-/

/-! ## Base64 -/

namespace Bursar.Text

/-- The digits, by value. -/
def base64Digits : List Char := "ABCDEFGHIJKLMNOPQRSTUVWXYZabcdefghijklmnopqrstuvwxyz0123456789+/".toList

/-- The digit for six bits. -/
def base64Digit (n : Nat) : Char := base64Digits.getD (n % 64) '='

/-- Octets as they are written. -/
def base64 : List UInt8 → List Char
  | [] => []
  | [a] =>
    let n := a.toNat * 65536
    [base64Digit (n / 262144), base64Digit (n / 4096), '=', '=']
  | [a, b] =>
    let n := a.toNat * 65536 + b.toNat * 256
    [base64Digit (n / 262144), base64Digit (n / 4096), base64Digit (n / 64), '=']
  | a :: b :: c :: rest =>
    let n := a.toNat * 65536 + b.toNat * 256 + c.toNat
    base64Digit (n / 262144) :: base64Digit (n / 4096) :: base64Digit (n / 64) :: base64Digit n ::
      base64 rest

end Bursar.Text

namespace Bursar

/-! ## Calls -/

/-- A request and where it goes. -/
structure Call where
  method : String
  /-- Where it goes; a user in it does not count. -/
  url : Url
  /-- A user's name and password. -/
  login : Option (String × Option String)
  token : Option String
  body : Option Json

/-- Why a call has no usable answer. -/
inductive CallFailure where
  /-- The URL names no host. -/
  | missingHost (url : String)
  /-- A header would hold a control character. -/
  | unwritableHeader
  /-- The URL is not one of HTTP. -/
  | foreignScheme (url : String)
  /-- The URL cannot be put into a request. -/
  | unwritableUrl (url : String)
  /-- The request could not be sent, or nobody answered. -/
  | unsent (url : String)
  /-- The body of the answer is not the wanted value. -/
  | unreadableBody
deriving DecidableEq, Repr

/-- The wording of a call that failed. -/
def CallFailure.message : CallFailure → String
  | .unwritableHeader => "builder error"
  | .missingHost url | .foreignScheme url | .unwritableUrl url => "builder error for url (" ++ url ++ ")"
  | .unsent url => "error sending request for url (" ++ url ++ ")"
  | .unreadableBody => "error decoding response body"

namespace Call

/-- A call to a URL; a user in it is told in a header. -/
def ofUrl (method : String) (url : Url) (token : Option String) (body : Option Json) : Call :=
  match url.login? with
  | some login => { method, url := url.withoutUser, login := some login, token, body }
  | none => { method, url, login := none, token, body }

/-- Whether a header can hold a character. -/
def fitsHeader (c : Char) : Bool := (32 ≤ c.toNat && c.toNat ≠ 127) || c = '\t'

/-- Whether a host can stand in a request. -/
def fitsHost (host : String) : Bool :=
  !host.toList.any fun c => ['\x22', '\x60', '\x7b', '\x7d'].contains c

/-- How long a URL in a request may be. -/
def longestUrl : Nat := 65534

/-- Why a call is not sent, if it is not. -/
def refusal? (c : Call) : Option CallFailure :=
  let host := c.url.host.getD ""
  let written := c.url.toString
  if host.isEmpty then some (.missingHost written)
  else if (c.token.getD "").toList.any fun ch => !fitsHeader ch then some .unwritableHeader
  else if c.url.scheme ≠ "http" ∧ c.url.scheme ≠ "https" then some (.foreignScheme written)
  else if !fitsHost host ∨ longestUrl < written.utf8ByteSize then some (.unwritableUrl written)
  else none

/-- The header that shows a name and a password. -/
def basicAuthorization (login : String × Option String) : String :=
  "Basic " ++ String.ofList (Text.base64 (Text.octetsOf (login.1 ++ ":" ++ login.2.getD "")))

/-- The header that shows a token. Blanks at the end of a header get lost. -/
def authorization (token : String) : String :=
  String.ofList
    (("Bearer " ++ token).toList.reverse.dropWhile fun c => c = ' ' || c = '\t').reverse

/-- The headers of a call. -/
def headers (c : Call) : List (String × String) :=
  (match c.login with | some login => [("authorization", basicAuthorization login)] | none => []) ++
    (match c.token with | some token => [("authorization", authorization token)] | none => []) ++
    (if c.body.isSome then [("content-type", Http.Response.jsonType)] else [])

/-- The request of a call, as it arrives. -/
def toRequest (c : Call) : Http.Request where
  method := c.method
  path := c.url.path.toString
  query := c.url.query
  headers := c.headers
  body := (c.body.map Json.compact).getD ""

/-- The value in the body of an answer. -/
def readBody {α : Type} (d : Json.Decoder α) (r : Http.Response) : Except CallFailure α :=
  match Json.decode d r.body with
  | .ok a => .ok a
  | .error _ => .error .unreadableBody

end Call

/-- What carries calls to where they go. What it does is a function of a state, which may be anything. -/
abbrev Transport (σ : Type) := Call → σ → Except CallFailure Http.Response × σ

/-- The outcome of a call: only one that is not refused is carried. -/
def Transport.send {σ : Type} (t : Transport σ) (c : Call) (s : σ) :
    Except CallFailure Http.Response × σ :=
  match c.refusal? with
  | some failure => (.error failure, s)
  | none => t c s

/-- A status with its phrase. -/
def Http.statusText (status : Nat) : String :=
  Text.ofNat status ++ " " ++ (Http.phrase? status).getD "<unknown status code>"

end Bursar
