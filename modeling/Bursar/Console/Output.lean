import Bursar.Catalog.Metadata
import Bursar.Console.Arguments
import Bursar.Service.Health
import Bursar.Service.View

/-!
# Printed results

A result is printed as indented JSON, as a table for people, or as plain lines
with a few fields. Columns are filled up by characters.
-/

namespace Bursar.Console

/-- Lines, each with its end. -/
def lines (ls : List String) : String := String.join (ls.map fun l => l ++ "\n")

/-- A value as indented JSON. -/
def jsonText (value : Json) : String := lines [value.pretty]

/-- A name and a value in two columns. -/
def row (name value : String) : String := Text.padRight 20 name ++ " " ++ value

/-- A line of a name and a value, if there is a value. -/
def optionalRow (name : String) (value : Option String) : List String :=
  match value with
  | some value => [row name value]
  | none => []

/-- A line between parts. -/
def separator : String := String.ofList (List.replicate 80 '-')

/-- What stands below a table of a page. -/
def pageFooter {α : Type} (p : Page α) : List String :=
  [separator,
   "page " ++ Text.ofNat p.page ++ " (" ++ Text.ofNat p.items.length ++ " of " ++ Text.ofNat p.total ++
     " total" ++ (if p.hasMore then ", more available" else "") ++ ")"]

/-! ## Health -/

/-- A line about a component. -/
def componentLine (c : ComponentHealth) : String :=
  "  - " ++ c.name ++ ": " ++ c.status ++
    (match c.reason with | some reason => " (" ++ reason ++ ")" | none => "")

/-- A health report. -/
def healthText (r : HealthReport) : Format → String
  | .json => jsonText r.toJson
  | .plain => lines [r.status]
  | .table =>
    lines
      (["Subsidy Service Health", "======================", "Status:   " ++ r.status,
        "Version:  " ++ r.version, "Uptime:   " ++ Text.ofNat r.uptimeSeconds ++ "s",
        "Requests: " ++ Text.ofNat r.requestsServed, "", "Components:"] ++
        r.components.map componentLine)

/-! ## Subsidies -/

/-- A subsidy in one line. -/
def subsidyLine (s : SubsidyView) : String :=
  s.uuid.toString ++ " " ++ Text.ofInt s.balance ++ " " ++ s.unit.toText

/-- What a subsidy refers to outside, if that is fully said. -/
def referenceText (s : SubsidyView) : Option String :=
  match s.referenceId, s.referenceType with
  | some id, some kind => some (id ++ " (" ++ kind ++ ")")
  | _, _ => none

/-- A subsidy. -/
def subsidyText (s : SubsidyView) : Format → String
  | .json => jsonText s.toJson
  | .plain => lines [subsidyLine s]
  | .table =>
    lines
      (["Subsidy", "=======", row "UUID" s.uuid.toString, row "Title" s.title,
        row "Enterprise" s.enterprise.toString, row "Active" s.active, row "Expires" s.expiration,
        row "Unit" s.unit.toText, row "Balance" (Text.ofInt s.balance)] ++
        optionalRow "Reference" (referenceText s))

/-- What stands above a table of subsidies. -/
def subsidiesHead : String :=
  Text.padRight 38 "UUID" ++ " " ++ Text.padLeft 14 "BALANCE" ++ " " ++ Text.padRight 10 "UNIT" ++ " TITLE"

/-- A subsidy in a table. Identifier and unit are not filled up. -/
def subsidyColumns (s : SubsidyView) : String :=
  s.uuid.toString ++ " " ++ Text.padLeft 14 (Text.ofInt s.balance) ++ " " ++ s.unit.toText ++ " " ++
    s.title

/-- A page of subsidies. -/
def subsidiesText (p : Page SubsidyView) : Format → String
  | .json => jsonText (p.toJson SubsidyView.toJson)
  | .plain => lines (p.items.map subsidyLine)
  | .table =>
    lines
      (subsidiesHead :: separator :: p.items.map subsidyColumns ++ pageFooter p)

/-! ## Transactions -/

/-- A transaction in one line. -/
def transactionLine (t : TransactionView) : String :=
  t.uuid.toString ++ " " ++ t.state ++ " " ++ Text.ofInt t.quantity

/-- The lines about a reversal. -/
def reversalRows : Option ReversalView → List String
  | none => []
  | some r =>
    ["", "Reversal:", row "  UUID" r.uuid.toString, row "  Quantity" (Text.ofInt r.quantity),
     row "  State" r.state]

/-- A transaction. -/
def transactionText (t : TransactionView) : Format → String
  | .json => jsonText t.toJson
  | .plain => lines [transactionLine t]
  | .table =>
    lines
      (["Transaction", "===========", row "UUID" t.uuid.toString, row "State" t.state,
        row "Quantity" (Text.ofInt t.quantity ++ " " ++ t.unit.toText), row "Ledger" t.ledger.toString,
        row "Idempotency Key" t.key] ++
        optionalRow "Learner" (t.learner.map Text.ofInt) ++ optionalRow "Content" t.contentKey ++
        optionalRow "Reference" t.referenceId ++ [row "Created" t.created.toStringOffset] ++
        reversalRows t.reversal)

/-- What stands above a table of transactions. -/
def transactionsHead : String :=
  Text.padRight 38 "UUID" ++ " " ++ Text.padRight 10 "STATE" ++ " " ++ Text.padLeft 12 "QUANTITY" ++ " " ++
    Text.padRight 10 "LEARNER" ++ " CONTENT"

/-- A transaction in a table. The identifier is not filled up. -/
def transactionColumns (t : TransactionView) : String :=
  t.uuid.toString ++ " " ++ Text.padRight 10 t.state ++ " " ++ Text.padLeft 12 (Text.ofInt t.quantity) ++
    " " ++ Text.padRight 10 ((t.learner.map Text.ofInt).getD "") ++ " " ++ t.contentKey.getD "-"

/-- A page of transactions. -/
def transactionsText (p : Page TransactionView) : Format → String
  | .json => jsonText (p.toJson TransactionView.toJson)
  | .plain => lines (p.items.map transactionLine)
  | .table =>
    lines
      (transactionsHead :: separator :: p.items.map transactionColumns ++ pageFooter p)

/-! ## Metadata -/

/-- Metadata of content. -/
def metadataText (m : ContentMetadata) : Format → String
  | .json => jsonText m.toJson
  | .plain => lines [m.contentKey ++ " " ++ m.price.toString]
  | .table =>
    lines
      [row "Content Key" m.contentKey, row "Content UUID" m.contentUuid.toString, row "Source" m.source,
       row "Price" m.price.toString]

end Bursar.Console
