import Bursar.Console.Grammar
import Bursar.Service.Page

/-!
# What can be asked on the command line

One command starts the service; the others talk to a running one. `Arguments.parse`
reads a command line into what it asks for.
-/

namespace Bursar.Console

/-- How results are printed. -/
inductive Format where
  | json
  | table
  | plain
deriving DecidableEq, Repr

/-- The formats with their names. -/
def Format.names : List (String × Format) := [("json", .json), ("table", .table), ("plain", .plain)]

/-- What is asked for. -/
inductive Command where
  | start (host : Option String) (port : Option Nat) (seedFile : Option String)
  | health
  | listSubsidies (enterprise : Option String) (page : PageQuery)
  | showSubsidy (id : String)
  | createTransaction (subsidy : String) (learner : Int) (contentKey policy : String) (key : Option String)
  | showTransaction (id : String)
  | listTransactions (subsidy : Option String) (learner : Option Int) (contentKey : Option String)
    (page : PageQuery)
  | reverseTransaction (id : String)
  | showMetadata (content enterprise : String)
deriving DecidableEq, Repr

/-- Whether a command starts the service. -/
def Command.isServer : Command → Bool
  | .start _ _ _ => true
  | _ => false

/-- What a command line says. -/
structure Arguments where
  apiUrl : String
  token : Option String
  format : Format
  isVerbose : Bool
  command : Command
deriving DecidableEq, Repr

/-! ## Options -/

/-- No fault with any value. -/
def anyValue (_ : String) : Option UsageError := none

/-- A value that has to be readable. -/
def readable {α : Type} (read : String → Option α) (value : String) : Option UsageError :=
  if (read value).isSome then none else some .unreadableValue

/-- A port: an integer in the range of ports. -/
def port? (s : String) : Option Nat :=
  (Text.signed64? s).bind fun n => if 0 ≤ n ∧ n ≤ 65535 then some n.toNat else none

/-- An option that takes a value and may be left out. -/
def optional (long : String) (short : Option Char) (fault? : String → Option UsageError) :
    CommandOption where
  long := long
  short := short
  kind := .takesValue
  standIn := none
  standard? := none
  isRequired := false
  fault? := fault?

/-- The option that asks for help. -/
def helpOption : CommandOption := { optional "help" (some 'h') anyValue with kind := .asksHelp }

/-- A command without commands below it. -/
def leaf (options : List CommandOption) (positionals : List String) : Grammar :=
  .mk (options ++ [helpOption]) positionals []

/-- A command with commands below it. -/
def branch (options : List CommandOption) (commands : List (String × Grammar)) : Grammar :=
  .mk (options ++ [helpOption]) [] commands

/-- The options for a page. -/
def pageOptions (sizeLetter : Option Char) : List CommandOption :=
  [{ optional "page" (some 'p') (readable Text.unsigned64?) with standard? := some "0" },
   { optional "page-size" sizeLetter (readable Text.unsigned64?) with standard? := some "20" }]

/-- The option required. -/
def required (o : CommandOption) : CommandOption := { o with isRequired := true }

/-! ## Commands -/

/-- Starting the service. -/
def startGrammar : Grammar :=
  leaf
    [{ optional "host" (some 'H') anyValue with standIn := some "SUBSIDY_API_HOST" },
     { optional "port" (some 'p') (readable port?) with standIn := some "SUBSIDY_API_PORT" },
     { optional "subsidies" none (fun value => if value.isEmpty then some .invalidValue else none) with
       standIn := some "SUBSIDY_SEED_FILE" }]
    []

/-- Looking at subsidies. -/
def subsidyGrammar : Grammar :=
  branch []
    [("list", leaf (optional "enterprise" (some 'e') anyValue :: pageOptions (some 's')) []),
     ("get", leaf [] ["uuid"])]

/-- Creating, looking at and reversing transactions. -/
def transactionGrammar : Grammar :=
  branch []
    [("create", leaf
      [required (optional "subsidy" (some 's') anyValue),
       required (optional "learner-id" (some 'l') (readable Text.signed64?)),
       required (optional "content-key" (some 'c') anyValue),
       required (optional "access-policy" (some 'p') anyValue),
       optional "idempotency-key" (some 'i') anyValue]
      []),
     ("get", leaf [] ["uuid"]),
     ("list", leaf
      ([optional "subsidy" (some 's') anyValue,
        optional "learner-id" (some 'l') (readable Text.signed64?),
        optional "content-key" (some 'c') anyValue] ++ pageOptions none)
      []),
     ("reverse", leaf [] ["uuid"])]

/-- Looking up metadata. -/
def metadataGrammar : Grammar :=
  leaf [required (optional "enterprise" (some 'e') anyValue)] ["content"]

/-- Why a text is no format. -/
def formatFault (value : String) : Option UsageError :=
  if (Format.names.lookup value).isSome then none else some .invalidValue

/-- The whole command line. -/
def grammar : Grammar :=
  branch
    [{ optional "api-url" (some 'a') anyValue with
       standIn := some "SUBSIDY_API_URL", standard? := some "http://localhost:8000" },
     { optional "token" (some 't') anyValue with standIn := some "SUBSIDY_TOKEN" },
     { optional "format" (some 'f') formatFault with standard? := some "table" },
     { optional "verbose" (some 'v') anyValue with kind := .switch },
     { optional "version" (some 'V') anyValue with kind := .asksVersion }]
    [("start", startGrammar), ("health", leaf [] []), ("subsidy", subsidyGrammar),
     ("transaction", transactionGrammar), ("metadata", metadataGrammar)]

/-! ## Reading -/

/-- The page that was asked for. -/
def pageOf? (m : Matches) : Option PageQuery := do
  let page ← (m.value? "page").bind Text.unsigned64?
  let pageSize ← (m.value? "page-size").bind Text.unsigned64?
  return { page, pageSize }

/-- The command that was asked for. -/
def commandOf? (m : Matches) : Option Command :=
  match m.commands with
  | ["start"] =>
    some (.start (m.value? "host") ((m.value? "port").bind port?) (m.value? "subsidies"))
  | ["health"] => some .health
  | ["subsidy", "list"] => (pageOf? m).map (Command.listSubsidies (m.value? "enterprise"))
  | ["subsidy", "get"] => (m.value? "uuid").map .showSubsidy
  | ["transaction", "create"] => do
    let subsidy ← m.value? "subsidy"
    let learner ← (m.value? "learner-id").bind Text.signed64?
    let contentKey ← m.value? "content-key"
    let policy ← m.value? "access-policy"
    return .createTransaction subsidy learner contentKey policy (m.value? "idempotency-key")
  | ["transaction", "get"] => (m.value? "uuid").map .showTransaction
  | ["transaction", "list"] =>
    (pageOf? m).map
      (Command.listTransactions (m.value? "subsidy") ((m.value? "learner-id").bind Text.signed64?)
        (m.value? "content-key"))
  | ["transaction", "reverse"] => (m.value? "uuid").map .reverseTransaction
  | ["metadata"] => do
    let content ← m.value? "content"
    let enterprise ← m.value? "enterprise"
    return .showMetadata content enterprise
  | _ => none

/-- The arguments that matches give. -/
def argumentsOf? (m : Matches) : Option Arguments := do
  let apiUrl ← m.value? "api-url"
  let format ← (m.value? "format").bind fun name => Format.names.lookup name
  let command ← commandOf? m
  return { apiUrl, token := m.value? "token", format, isVerbose := (m.value? "verbose").isSome, command }

/-- Reads a command line, the name of the program not included. -/
def Arguments.parse (v : Variables) (words : List String) : Except UsageError Arguments := do
  let m ← grammar.read v words .start
  match argumentsOf? m with
  | some arguments => return arguments
  | none => .error .missingArgument

/-! ## Arguments as data -/

/-- A page query's two numbers. -/
def pageMembers (q : PageQuery) : List (String × Json) :=
  [("page", .nat q.page), ("page_size", .nat q.pageSize)]

/-- A command as a value: its name, over what was given with it. -/
def Command.toJson : Command → Json
  | .start host port seedFile =>
    .object [("start", .object
      [("host", .ofOptionString host), ("port", port.elim .null .nat),
       ("subsidies", .ofOptionString seedFile)])]
  | .health => .string "health"
  | .listSubsidies enterprise page =>
    .object [("subsidy_list", .object (("enterprise", .ofOptionString enterprise) :: pageMembers page))]
  | .showSubsidy id => .object [("subsidy_get", .string id)]
  | .createTransaction subsidy learner contentKey policy key =>
    .object [("transaction_create", .object
      [("subsidy", .string subsidy), ("learner_id", .int learner), ("content_key", .string contentKey),
       ("access_policy", .string policy), ("idempotency_key", .ofOptionString key)])]
  | .showTransaction id => .object [("transaction_get", .string id)]
  | .listTransactions subsidy learner contentKey page =>
    .object [("transaction_list", .object
      ([("subsidy", .ofOptionString subsidy), ("learner_id", learner.elim .null .int),
        ("content_key", .ofOptionString contentKey)] ++ pageMembers page))]
  | .reverseTransaction id => .object [("transaction_reverse", .string id)]
  | .showMetadata content enterprise =>
    .object [("metadata", .object [("content", .string content), ("enterprise", .string enterprise)])]

/-- What a command line says, as a value. -/
def Arguments.toJson (a : Arguments) : Json :=
  let format := match a.format with | .json => "Json" | .table => "Table" | .plain => "Plain"
  .object
    [("api_url", .string a.apiUrl), ("token", .ofOptionString a.token), ("format", .string format),
     ("verbose", .bool a.isVerbose), ("is_server", .bool a.command.isServer),
     ("command", a.command.toJson)]

end Bursar.Console
