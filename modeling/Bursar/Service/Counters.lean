import Bursar.Json.Basic
import Bursar.Table
import Bursar.Text.Hexadecimal
import Bursar.Text.Numeral
import Bursar.Text.Split

/-!
# Counters

The service counts what it does: requests by method, path and status, outcomes of
spends, hits of the metadata cache, and refusals. A series is a name with labels.

A path as a label has `:id` for every segment that looks like an identifier
(`pathLabel`), so that there are few labels however many resources there are.
-/

namespace Bursar

/-- What is counted: a name, and labels with their values. -/
structure Series where
  name : String
  labels : List (String × String)
deriving DecidableEq, Repr, Inhabited

/-- How often each thing was counted. -/
abbrev Counters := Table Series Nat

/-- Whether a segment of a path looks like an identifier: eight or more hexadecimal digits and hyphens, or
the key of a course run, or anything with a plus sign. -/
def looksLikeId (segment : List Char) : Bool :=
  (8 ≤ segment.length && segment.all fun c => Text.isHex c || c = '-') ||
    Text.startsWith "course-v1:".toList segment || segment.contains '+'

/-- What stands for a segment in a label. -/
def segmentLabel (segment : List Char) : List Char :=
  if looksLikeId segment then ":id".toList else segment

/-- How many octets a label may take, and how many characters are kept of a longer one. -/
def labelLimit : Nat := 64

/-- A label that is not too long. -/
def cutLabel (label : List Char) : List Char :=
  if labelLimit < label.foldr (fun c n => c.utf8Size + n) 0 then label.take labelLimit else label

/-- The label of a path, as characters. -/
def pathLabelChars (path : List Char) : List Char :=
  cutLabel (Text.joinWith ['/'] ((Text.splitAll '/' path).map segmentLabel))

/-- The label of a path. -/
def pathLabel (path : String) : String := String.ofList (pathLabelChars path.toList)

/-- The written form of a series: the name, and the labels in braces. -/
def Series.toText (s : Series) : String :=
  s.name ++ "\x7b" ++ ",".intercalate (s.labels.map fun (label, value) => label ++ "=" ++ value) ++ "\x7d"

namespace Counters

/-- Nothing counted yet. -/
def empty : Counters := Table.empty

/-- Counts one more of a series. -/
def count (c : Counters) (s : Series) : Counters := c.insert s ((c.get? s).getD 0 + 1)

/-- The labels of a request. -/
def requestLabels (method path : String) (status : Nat) : List (String × String) :=
  [("method", method), ("path", pathLabel path), ("status", Text.ofNat status)]

/-- Counts a request, and that it took some time. -/
def recordRequest (c : Counters) (method path : String) (status : Nat) : Counters :=
  let labels := requestLabels method path status
  (c.count ⟨"subsidy_http_requests_total", labels⟩).count
    ⟨"subsidy_http_request_duration_seconds", labels⟩

/-- Counts what came of a request to spend. -/
def recordSpend (c : Counters) (outcome : String) : Counters :=
  c.count ⟨"subsidy_transactions_total", [("outcome", outcome)]⟩

/-- Counts a metadata lookup, by whether the cache served it. -/
def recordLookup (c : Counters) (isHit : Bool) : Counters :=
  c.count ⟨"subsidy_metadata_cache_total", [("result", if isHit then "hit" else "miss")]⟩

/-- Counts a refusal. -/
def recordError (c : Counters) (code : String) : Counters :=
  c.count ⟨"subsidy_errors_total", [("code", code)]⟩

/-- What was counted, in JSON. -/
def toJson (c : Counters) : Json := .object (c.entries.map fun (s, n) => (s.toText, .nat n))

end Counters
end Bursar
