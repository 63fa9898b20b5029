import ClientForge.Postman.Part
import ClientForge.Postman.Path

/-!
Reading a Postman collection (`PostmanNormalizer.normalize`): a tree of folders with requests.
-/

namespace ClientForge.Postman

/-- A request with the names of the folders around it. -/
structure Request where
  folders : List Value
  fields : Entries

mutual

/-- The requests of an item (`_parse_items`): its own, or those of a folder. -/
def requestsOf (folders : List Value) : Value → List Request
  | .map es =>
    match Entries.get es "request" with
    | .map _ | .text _ => [⟨folders, es⟩]
    | _ => requestsInFolder (folders ++ [(Entries.get es "name").orElse (.text "unnamed")]) es
  | _ => []
termination_by structural v => v

/-- The requests of the items under a folder's entries. -/
def requestsInFolder (folders : List Value) : List (Value × Value) → List Request
  | [] => []
  | (k, .list items) :: es =>
    if k.sameKey (.text "item") then requestsOfItems folders items else requestsInFolder folders es
  | (k, _) :: es => if k.sameKey (.text "item") then [] else requestsInFolder folders es
termination_by structural es => es

/-- The requests of some items, in order. -/
def requestsOfItems (folders : List Value) : List Value → List Request
  | [] => []
  | x :: xs => requestsOf folders x ++ requestsOfItems folders xs
termination_by structural xs => xs

end

/-! ## Requests -/

/-- The fields of a request; a text is its address. -/
def requestFields (item : Entries) : Entries :=
  match Entries.get item "request" with
  | .map es => es
  | v => [(.text "url", v)]

/-- The fields of an address; a text is the whole of it. -/
def urlFields (request : Entries) : Except Failure Entries :=
  match (Entries.get request "url").orElse (.map []) with
  | .text s => .ok [(.text "raw", .text s)]
  | v => v.entriesOf "request url"

/-- The tag of the folders around a request. -/
def folderTags (folders : List Value) : Except Failure (List Value) := do
  if folders.isEmpty then return []
  return [.text ("/".intercalate (← folders.mapM Value.asText))]

/-- The body of a request, if requests of the verb have one. -/
def bodyFor (method : Method) (request : Entries) : Except Failure (Option Body) :=
  if method.allowsBody then body (Entries.get request "body") else .ok none

/-- The endpoint of a request with a verb. -/
def endpointWith (r : Request) (request : Entries) (method : Method) : Except Failure Endpoint := do
  let url ← urlFields request
  let path ← path url
  let inPath ← pathParams (Entries.get url "variable") path
  let inQuery ← queryParams (Entries.get url "query")
  let inHeader ← headerParams (Entries.get request "header")
  let security ← security (Entries.get request "auth")
  let name ← ((Entries.get r.fields "name").orElse (.text "")).asText
  let body ← bodyFor method request
  let responses ← responses (Entries.get r.fields "response")
  let tags ← folderTags r.folders
  let described := (Entries.get r.fields "description").orElse (Entries.get request "description")
  let named := if name.isEmpty then path else name
  let fields : EndpointFields := {
    method := method.name, path
    operationId := .ofList (derivedIdentifier method.name.toList named.toList)
    summary := "", description := ""
    parameters := withPathParams path (inPath ++ inQuery ++ inHeader)
    body, responses, security := [], tags := [] }
  Endpoint.make fields (.text name) (.text (description described)) (.list security) (.list tags)

/-- The verb of a request in capitals. -/
def Request.verb (r : Request) : String :=
  ((Entries.get (requestFields r.fields) "method").orElse (.text "GET")).display.uppered

/-- The endpoint of a request (`_parse_request`). None, if its verb is unknown. -/
def endpoint? (r : Request) : Traced (Option Endpoint) := do
  match Method.ofName? r.verb with
  | some method => some <$> (endpointWith r (requestFields r.fields) method : Except Failure Endpoint)
  | none =>
    Traced.note .debug .postman ("Skipping request " ++ (Entries.get r.fields "name").describe ++
      " with unsupported method " ++ r.verb)
    return none

/-- The endpoints of some requests, in order. -/
def endpoints : List Request → Traced (List Endpoint)
  | [] => return []
  | r :: rs => do
    let name := ((Entries.get? r.fields "name").getD (.text "")).display
    let e ← Traced.within ("Invalid request '" ++ name ++ "'") (endpoint? r)
    return e.toList ++ (← endpoints rs)

/-! ## Collections -/

/-- The names of variables that hold the address of the server. -/
def baseUrlNames : List String := ["baseUrl", "BASE_URL", "url"]

/-- The address of the server (`_base_url`), if a variable holds one. -/
def baseUrl (collection : Entries) : Except Failure String := do
  let isBaseUrl (es : Entries) : Bool :=
    baseUrlNames.any (Entries.get es "key").isText && (Entries.get es "value").truthy
  match (← mapsIn (Entries.get collection "variable")).find? isBaseUrl with
  | some es => return (Entries.get es "value").display
  | none => return ""

/-- The API of a collection. -/
def ofCollection (collection : Entries) : Traced Api := do
  let info ← (Entries.get collection "info").entriesOf "info"
  match (Entries.get collection "item").orElse (.list []) with
  | .list items => do
    let endpoints ← endpoints (requestsOfItems [] items)
    let url ← baseUrl collection
    let auth ← auth (Entries.get collection "auth")
    let endpoints ← Endpoint.renamed endpoints
    Api.make url auth ((Entries.get info "name").orElse (.text "Postman Collection"))
      ((Entries.get info "version").orElse (.text "1.0.0")).display
      (.text (description (Entries.get info "description"))) endpoints
  | _ => throw (.refused "Postman collection 'item' must be an array")

/-- The API of the collection that a text holds (`PostmanNormalizer.normalize`). -/
def read (text : String) : Traced Api := do
  if text.toList.all Text.isBlank then throw (.refused "Empty Postman collection")
  match Json.read text with
  | .error e => throw (.refused ("Postman collection is not valid JSON: " ++ e.message))
  | .ok (.object ms) => ofCollection (Value.ofMembers ms)
  | .ok _ => throw (.refused "Postman collection root must be an object")

end ClientForge.Postman
