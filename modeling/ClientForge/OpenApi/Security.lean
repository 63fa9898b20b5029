import ClientForge.Api.Part

/-!
The security schemes of an OpenAPI document (`_auth_method`). Of several the one that is easiest to use
counts.
-/

namespace ClientForge.OpenApi

/-- The declared schemes that are maps. -/
def securitySchemes (doc : Entries) : Except Failure (List Entries) := do
  let components ← (Entries.get doc "components").entriesOf "components"
  let schemes := (Entries.get components "securitySchemes").orElse (Entries.get doc "securityDefinitions")
  let es ← schemes.entriesOf "securitySchemes"
  return es.filterMap (·.2.entries?)

/-- Is the scheme of a type? -/
def hasType (type : String) (scheme : Entries) : Bool := (Entries.get scheme "type").isText type

/-- Is the scheme one of HTTP, of some name in any case? -/
def isHttp (name : String) (scheme : Entries) : Except Failure Bool := do
  if !hasType "http" scheme then return false
  let shown ← ((Entries.get? scheme "scheme").getD (.text "")).shown
  return shown.lowered == name

/-- Is the scheme one of user and password, under either of its names? -/
def isBasic (scheme : Entries) : Except Failure Bool :=
  if hasType "basic" scheme then .ok true else isHttp "basic" scheme

/-- The authentication: by bearer token, else by user and password, by key, or by OAuth. -/
def auth (doc : Entries) : Except Failure Auth := do
  let schemes ← securitySchemes doc
  let description (s : Entries) : Value := Entries.get s "description"
  if let some s ← schemes.findM? (isHttp "bearer") then Auth.bearer (description s)
  else if let some s ← schemes.findM? isBasic then Auth.basic (description s)
  else if let some s := schemes.find? (hasType "apiKey") then
    Auth.apiKey (Entries.get s "name") (Entries.get s "in") (description s)
  else if let some s := schemes.find? (hasType "oauth2") then Auth.oauth2 (description s)
  else return {}

end ClientForge.OpenApi
