import Bursar.Service.Admission
import Bursar.Service.Disclosure
import Bursar.Service.Health
import Bursar.Service.Route
import Bursar.Service.Settings
import Bursar.Service.World

/-!
# Answering requests

`Service.respond` answers a request. From the outside in: a request for options is
answered at once if pages of any origin may use the service; every other request
is counted; its caller is settled; and then the endpoint does its work. An answer
to a method that does nothing at an existing path names the methods that do.

Only three endpoints touch more than the counters: creating and reversing
transactions, and looking up metadata.
-/

namespace Bursar

/-- A service: its set-up, who may call, and what lies around it. -/
structure Service (σ : Type) where
  settings : ServiceSettings
  credentials : Credentials
  surroundings : Surroundings σ

namespace Service

variable {σ : Type}

/-! ## Endpoints -/

/-- The subsidy that a request to spend is about, if the caller may spend it. One that is not there, or
is not named, is answered like one that the caller may not spend. -/
def spendable (store : Store) (p : Principal) (r : SpendRequest) : Except ServiceError Subsidy :=
  match r.subsidyUuid?.bind store.subsidy? with
  | none => .error (.missingCapability .createTransactions)
  | some x => do
    ServiceError.require (p.authorize .createTransactions (some x.enterprise))
    return x

/-- The command in a body, if the caller may give it. -/
def commandOf (limit : Nat) (store : Store) (p : Principal) (r : Http.Request) :
    Except ServiceError SpendCommand := do
  let request ← SpendRequest.ofBody limit r
  let x ← spendable store p request
  request.toCommand? x.uuid

/-- The status of a spend: a transaction that was there already is no new resource. -/
def spendStatus : SpendOutcome → Nat
  | .created _ => 201
  | .existing _ => 200

/-- Under what a spend is counted. -/
def spendLabel : Except SpendError SpendOutcome → String
  | .ok (.created _) => "created"
  | .ok (.existing _) => "existing"
  | .error _ => "failed"

/-- Spends, for a caller who may. -/
def createTransaction (s : Service σ) (p : Principal) (r : Http.Request) (w : World σ) :
    Except ServiceError (Nat × TransactionView) × World σ :=
  match commandOf s.settings.maxBodySize w.store p r with
  | .error e => (.error e, w)
  | .ok c =>
    let (result, w) := w.spend s.surroundings c
    let w := w.counting fun counters => counters.recordSpend (spendLabel result)
    match result with
    | .error e => (.error (.spend e), w)
    | .ok outcome => (.ok (spendStatus outcome, .of outcome.transaction), w)

/-- The identifier in a path, if the caller may reverse the transaction that it names. -/
def reversible (store : Store) (p : Principal) (raw : String) : Except ServiceError Uuid := do
  let (_, x) ← store.ownedTransaction raw
  ServiceError.require (p.authorize .createTransactions (x.map Subsidy.enterprise))
  identifier? "Transaction" raw

/-- Reverses, for a caller who may. -/
def reverseTransaction (s : Service σ) (p : Principal) (raw : String) (w : World σ) :
    Except ServiceError TransactionView × World σ :=
  match reversible w.store p raw with
  | .error e => (.error e, w)
  | .ok uuid =>
    match w.reverse s.surroundings uuid with
    | (.error e, w) => (.error (.spend e), w)
    | (.ok t, w) => (.ok (.of t), w)

/-- The enterprise of a query, if the caller may read its metadata. -/
def metadataEnterprise (p : Principal) (q : MetadataQuery) : Except ServiceError Uuid := do
  ServiceError.require (p.authorize .readMetadata q.enterprise?)
  match q.enterprise? with
  | some enterprise => return enterprise
  | none => .error (.missingCapability .readMetadata)

/-- Looks up metadata, for a caller who may. -/
def showMetadata (s : Service σ) (p : Principal) (content : String) (q : MetadataQuery) (w : World σ) :
    Except ServiceError ContentMetadata × World σ :=
  match metadataEnterprise p q with
  | .error e => (.error e, w)
  | .ok enterprise =>
    match w.lookup s.surroundings (content, enterprise) with
    | (.error e, w) => (.error (.metadata e), w)
    | (.ok found, w) =>
      (.ok found.metadata, w.counting fun counters => counters.recordLookup found.isHit)

/-- What the service tells about itself. -/
def health (s : Service σ) (w : World σ) : HealthReport :=
  let components := [ComponentHealth.healthy "ledger", ComponentHealth.healthy "metadata_cache"]
  { status := (HealthStatus.ofComponents components).toText
    version := s.settings.version
    uptimeSeconds := w.elapsed / 1000
    requestsServed := w.served
    components := components }

/-! ## Answers -/

/-- The answer to a refused request, which is counted. -/
def refuse (e : ServiceError) (w : World σ) : Http.Response × World σ :=
  (.ofJson e.status e.body, w.counting fun counters => counters.recordError e.code)

/-- The answer to a request with a result in JSON. -/
def answer (result : Except ServiceError (Nat × Json)) (w : World σ) : Http.Response × World σ :=
  match result with
  | .ok (status, value) => (.ofJson status value, w)
  | .error e => refuse e w

/-- The answer to a request with an identifier or a query that cannot be read. -/
def unreadable (text : String) : Http.Response := .ofText 400 text

/-- What stands in the banner. -/
def bannerText : String := "Enterprise Subsidy Service"

/-- Goes on with the identifier in a segment, if it can be read. -/
def withIdentifier (segment : String) (w : World σ) (f : String → Http.Response × World σ) :
    Http.Response × World σ :=
  match Route.decodeSegment? segment with
  | some id => f id
  | none => (unreadable "Invalid URL: the identifier is not UTF-8", w)

/-- Goes on with what a query asks for, if it can be read. -/
def withQuery {α : Type} (query : Except QueryFault α) (w : World σ) (f : α → Http.Response × World σ) :
    Http.Response × World σ :=
  match query with
  | .ok a => f a
  | .error fault => (unreadable fault.message, w)

/-- The answer of an endpoint that is open to everyone. -/
def openAnswer (s : Service σ) (w : World σ) : Endpoint → Option (Http.Response × World σ)
  | .showBanner => some (.ofText 200 bannerText, w)
  | .showHealth => some (.ofJson 200 (s.health w).toJson, w)
  | _ => none

/-- The answer of an endpoint to a caller. -/
def endpointAnswer (s : Service σ) (p : Principal) (r : Http.Request) (w : World σ) :
    Endpoint → Http.Response × World σ
  | .showBanner => (.ofText 200 bannerText, w)
  | .showHealth => (.ofJson 200 (s.health w).toJson, w)
  | .createTransaction =>
    let (result, w) := s.createTransaction p r w
    answer (result.map fun (status, view) => (status, view.toJson)) w
  | .listTransactions =>
    withQuery (TransactionListing.ofPairs (queryPairs r)) w fun listing =>
      answer ((w.store.transactionPage p listing).map fun page =>
        (200, page.toJson TransactionView.toJson)) w
  | .showTransaction segment =>
    withIdentifier segment w fun id =>
      answer ((w.store.transactionFor p id).map fun view => (200, view.toJson)) w
  | .reverseTransaction segment =>
    withIdentifier segment w fun id =>
      let (result, w) := s.reverseTransaction p id w
      answer (result.map fun view => (201, view.toJson)) w
  | .showMetadata segment =>
    withIdentifier segment w fun content =>
      withQuery (MetadataQuery.ofPairs (queryPairs r)) w fun query =>
        let (result, w) := s.showMetadata p content query w
        answer (result.map fun m => (200, m.toJson)) w
  | .listSubsidies =>
    withQuery (SubsidyListing.ofPairs (queryPairs r)) w fun listing =>
      answer ((w.store.subsidyPage p listing).map fun page => (200, page.toJson SubsidyView.toJson)) w
  | .showSubsidy segment =>
    withIdentifier segment w fun id =>
      answer ((w.store.subsidyFor p id).map fun view => (200, view.toJson)) w

/-- The refusal of an endpoint that needs to know who calls, on a path where nobody says so. -/
def callerUnknown : ServiceError := .internal "no caller is known on a public path"

/-- The answer of an endpoint, whoever calls. -/
def callAnswer (s : Service σ) (caller : Option Principal) (r : Http.Request) (e : Endpoint)
    (w : World σ) :
    Http.Response × World σ :=
  match caller with
  | some p => s.endpointAnswer p r w e
  | none =>
    match s.openAnswer w e with
    | some result => result
    | none => refuse callerUnknown w

/-- The answer to a counted request: who calls is settled, and then the endpoint works. -/
def innerAnswer (s : Service σ) (r : Http.Request) (w : World σ) : Http.Response × World σ :=
  match s.credentials.callerOf r with
  | .error e => refuse e w
  | .ok caller =>
    match Route.ofPath? r.path with
    | none => (.bare 404, w)
    | some route =>
      match route.endpoint? r.method with
      | none => (.bare 405, w)
      | some e => s.callAnswer caller r e w

/-- The answer with what belongs to the route: without its body if only that is asked for, and with the
methods that do something if the method does nothing. -/
def fitToRoute (r : Http.Request) (a : Http.Response) : Http.Response :=
  match Route.ofPath? r.path with
  | none => a
  | some route =>
    match route.endpoint? r.method with
    | some _ => if r.method = "HEAD" then a.withoutBody else a
    | none => a.withHeader "allow" route.allowedMethods

/-- A counted request. -/
def countedAnswer (s : Service σ) (r : Http.Request) (w : World σ) : Http.Response × World σ :=
  let (a, w) := s.innerAnswer r { w with served := w.served + 1 }
  (a, w.counting fun counters => counters.recordRequest r.method r.path a.status)

/-- The answer that tells pages of any origin that they may use the service. -/
def optionsAnswer : Http.Response :=
  ((Http.Response.bare 200).withHeader "access-control-allow-origin" "*").withHeader
    "access-control-allow-methods" "*" |>.withHeader "access-control-allow-headers" "*"

/-- The answer to a request. -/
def respond (s : Service σ) (r : Http.Request) (w : World σ) : Http.Response × World σ :=
  if s.settings.sharesOrigins then
    if r.method = "OPTIONS" then (fitToRoute r optionsAnswer, w)
    else
      let (a, w) := s.countedAnswer r w
      (fitToRoute r (a.withHeader "access-control-allow-origin" "*"), w)
  else
    let (a, w) := s.countedAnswer r w
    (fitToRoute r a, w)

end Service
end Bursar
