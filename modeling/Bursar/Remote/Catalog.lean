import Bursar.Catalog.Content
import Bursar.Remote.Call
import Bursar.Service.Settings
import Bursar.Url.Reading

/-!
# The catalog service

How the catalog is asked for the document of a content item, and what its answer
means. Prices come out of the same documents.
-/

namespace Bursar

/-- The URL that a text names, as a base for others. -/
def readBase (text : String) : Except String Url :=
  match Url.parse text with
  | .ok url => .ok url
  | .error e => .error ("Invalid base url " ++ text ++ ": " ++ e.message)

/-- The URL below a base that segments name. -/
def endpoint (base : Url) (segments : List String) : Except String Url :=
  match base.below? segments with
  | some url => .ok url
  | none => .error (base.toString ++ " cannot be used as a base url")

/-- A catalog service and how it is reached. -/
structure RemoteCatalog where
  base : Url
  token : Option String

namespace RemoteCatalog

/-- The catalog that settings name. -/
def ofSettings (s : RemoteSettings) : Except CatalogError RemoteCatalog :=
  match readBase s.catalogBase with
  | .ok base => .ok { base, token := s.token }
  | .error text => .error (.transport text)

/-- The segments that name the document of a content item. -/
def segments (enterprise : Uuid) (content : String) : List String :=
  ["api", "v2", "enterprise-customer", enterprise.toString, "content-metadata", content]

/-- The call for a document. -/
def call (c : RemoteCatalog) (enterprise : Uuid) (content : String) : Except CatalogError Call :=
  match endpoint c.base (segments enterprise content) with
  | .ok url => .ok (.ofUrl "GET" url c.token none)
  | .error text => .error (.transport text)

/-- What an answer that is no success means. -/
def refusal (url : Url) (status : Nat) : CatalogError :=
  .http status ((Http.phrase? status).getD "Unknown") url.toString

/-- The document in an answer. -/
def read (url : Url) : Except CallFailure Http.Response → Except CatalogError CatalogContent
  | .error failure => .error (.transport failure.message)
  | .ok answer =>
    if Http.isSuccess answer.status then
      match Call.readBody CatalogContent.record.decoder answer with
      | .ok content => .ok content
      | .error failure => .error (.decode failure.message)
    else .error (refusal url answer.status)

/-- Asks for a document. -/
def fetch {σ : Type} (c : RemoteCatalog) (t : Transport σ) (enterprise : Uuid) (content : String) (s : σ) :
    Except CatalogError CatalogContent × σ :=
  match c.call enterprise content with
  | .error e => (.error e, s)
  | .ok call =>
    let (outcome, s) := t.send call s
    (read call.url outcome, s)

end RemoteCatalog
end Bursar
