import Bursar.Access.Principal
import Bursar.Table

/-!
# Credentials

A request shows who calls by a token. The tokens are configured as
`token=principal;token=principal` (`parseTokens`). Some paths are public: anyone
may ask for them and for what is below them, except that below `/` nothing is
public.
-/

namespace Bursar

/-- The principals by their tokens. -/
abbrev Tokens := Table String Principal

/-- The principals by their tokens, in JSON. -/
def Tokens.toJson (t : Tokens) : Json := .object (t.entries.map fun (token, p) => (token, p.toJson))

/-- Reads an entry, a token and a principal with `=` in between. -/
def parseToken (entry : String) : Except GrantError (String × Principal) :=
  match Text.splitFirstString '=' entry with
  | none => .error (.malformed entry)
  | some (token, principal) =>
    (Principal.parse principal).map fun principal => (Text.trim token, principal)

/-- Reads entries between semicolons, up to the first bad one. The last entry of a token counts. -/
def parseTokens (text : String) : Except GrantError Tokens := do
  let entries ← (Principal.pieces ';' text).mapM parseToken
  return entries.foldl (fun tokens (token, principal) => tokens.insert token principal) .empty

/-- How callers show who they are. -/
structure Credentials where
  /-- Whether callers have to show it at all. -/
  enabled : Bool
  tokens : Tokens
  publicPaths : List String

namespace Credentials

/-- The paths that anyone may ask for if nothing else is said. -/
def standardPublicPaths : List String := ["/", "/health", "/healthz", "/api/v1/health"]

/-- Credentials are asked for, and there are none. -/
def standard : Credentials := { enabled := true, tokens := .empty, publicPaths := standardPublicPaths }

/-- Whether a path is a public path or below one. -/
def isBelow (path publicPath : String) : Bool :=
  path = publicPath || (publicPath ≠ "/" && (Text.dropLeadString (publicPath ++ "/") path).isSome)

/-- Whether anyone may ask for a path. -/
def isPublic (c : Credentials) (path : String) : Bool := c.publicPaths.any (isBelow path)

/-- The principal of a token. -/
def principal? (c : Credentials) (token : String) : Option Principal := c.tokens.get? token

/-- The token in a header of authorization: what follows the word `Bearer` and a blank. -/
def bearerToken? (header : String) : Option String :=
  (Text.dropLeadString "Bearer " header).map Text.trim

end Credentials
end Bursar
