import ClientForge.Api.Part
import ClientForge.Document
import ClientForge.Keyed
import ClientForge.Text.Template

/-!
The parts of a request of a collection: its parameters, its body, its recorded responses, and its
authentication (`_parse_path_variables` to `_text`). Collections are JSON texts, so their integers are short
and displayed as they are.
-/

namespace ClientForge.Postman

/-- A description (`_text`): a text, or a map with one. -/
def description (v : Value) : String :=
  let v :=
    match v with
    | .map es => Entries.get es "content"
    | v => v
  (v.orElse (.text "")).display

/-- The maps in a collection of values, which may be missing. -/
def mapsIn (v : Value) : Except Failure (List Entries) := do
  return (← (v.orElse (.list [])).items).filterMap Value.entries?

/-- The maps with a key that is not empty. -/
def keyedIn (v : Value) : Except Failure (List Entries) := do
  return (← mapsIn v).filter fun es => (Entries.get es "key").truthy

/-! ## Parameters -/

/-- The parameter of a keyed map. -/
def param (location : Location) (required : Bool) (es : Entries) : Except Failure Param :=
  Param.make [
    ("name", Entries.get es "key"),
    ("location", .text location.name),
    ("required", .bool required),
    ("description", .text (description (Entries.get es "description"))),
    ("example", Entries.get es "value")]

/-- The path parameters of the variables that the path has a place for (`_parse_path_variables`). -/
def pathParams (places : Value) (path : String) : Except Failure (List Param) := do
  let found ← (← keyedIn places).filterM fun es => do
    let name ← (Entries.get es "key").asText
    return Text.occurs (Text.braced name.toList) path.toList
  found.mapM (param .path true)

/-- Has a parameter been left in the collection without being sent? -/
def isDisabled (es : Entries) : Bool :=
  match Entries.get es "disabled" with
  | .bool b => b
  | _ => false

/-- The parameters of a query (`_parse_query_params`). -/
def queryParams (query : Value) : Except Failure (List Param) := do
  (← keyedIn query).mapM fun es => param .query (!isDisabled es) es

/-- The headers that other parts of a request decide. -/
def decidedHeaders : List String := ["authorization", "content-type"]

/-- The parameters for headers (`_parse_headers`). -/
def headerParams (headers : Value) : Except Failure (List Param) := do
  let kept ← (← keyedIn headers).filterM fun es =>
    match Entries.get es "key" with
    | .text name => return !decidedHeaders.contains name.lowered
    | _ => throw (.broken .noMembers)
  kept.mapM (param .header false)

/-! ## Payloads -/

/-- The media types of the languages of raw bodies. -/
def languageMediaTypes : List (String × String) := [
  ("json", "application/json"),
  ("xml", "application/xml"),
  ("text", "text/plain"),
  ("html", "text/html"),
  ("javascript", "application/javascript")]

/-- The outline of a payload of which an example is known. -/
def sampleSketch (sample : Value) : Except Failure Sketch :=
  Sketch.make [("type", .text "object"), ("example", sample)]

/-- A body given as text, in some language. -/
def rawBody (es : Entries) : Except Failure Body := do
  let options ← (Entries.get es "options").entriesOf "body options"
  let options ← (Entries.get options "raw").entriesOf "raw body options"
  let language := ((Entries.get options "language").orElse (.text "json")).lowered
  let raw ← ((Entries.get es "raw").orElse (.text "")).asText
  let sketch ← sampleSketch ((Document.ofJson? raw).getD (.text raw))
  Body.make true (.text ((languageMediaTypes.lookup language).getD defaultMediaType)) sketch

/-- A map with a value for each field. -/
def fieldMap (value : Entries → Value) (form : List Entries) : Except Failure Value := do
  let es ← form.foldlM (fun acc es => do
    let key := Entries.get es "key"
    key.checkKey
    return Entries.insert acc key (value es)) []
  return .map es

/-- A body given by the fields of a form. -/
def formBody (form : List Entries) (mediaType : String) : Except Failure Body := do
  let isFile (es : Entries) : Bool := (Entries.get es "type").isText "file"
  let type (es : Entries) : Value := fields [("type", .text (if isFile es then "file" else "string"))]
  let sketch ← Sketch.make [
    ("type", .text "object"),
    ("properties", ← fieldMap type form),
    ("example", ← fieldMap (Entries.get · "value") form)]
  Body.make true (.text mediaType) sketch

/-- The body of a request (`_parse_body`), by its mode. -/
def body (v : Value) : Except Failure (Option Body) := do
  let es ← v.entriesOf "request body"
  match Entries.get es "mode" with
  | .text "raw" => some <$> rawBody es
  | .text "urlencoded" =>
    some <$> formBody (← keyedIn (Entries.get es "urlencoded")) "application/x-www-form-urlencoded"
  | .text "formdata" => some <$> formBody (← keyedIn (Entries.get es "formdata")) "multipart/form-data"
  | _ => return none

/-- Is the header that of a media type? -/
def isContentType (es : Entries) : Bool :=
  ((Entries.get? es "key").getD (.text "")).lowered == "content-type"

/-- A recorded response, the `number`th. -/
def response (number : Nat) (es : Entries) : Except Failure Response := do
  let headers ← mapsIn (Entries.get es "header")
  let mediaType := ((headers.find? isContentType).map (Entries.get · "value")).getD .null
  let sketch ← sampleSketch (Entries.get es "body")
  Response.make ((Entries.get es "name").orElse (.text ("Response " ++ toString number)))
    (mediaType.orElse (.text defaultMediaType)) sketch

/-- The recorded responses by their status codes (`_parse_responses`). -/
def responses (v : Value) : Except Failure (List (String × Response)) := do
  let items ← (v.orElse (.list [])).items
  items.zipIdx.foldlM (fun rs (item, i) =>
    match item with
    | .map es => do
      let code := (Entries.get es "code").orElse (.text "200")
      return putNamed code.display (← response (i + 1) es) rs
    | _ => return rs) []

/-! ## Authentication -/

/-- The settings of a kind of authentication (`_auth_entries`): a map, or a list of keys and values. -/
def authSettings (auth : Entries) (kind : String) : Except Failure Entries := do
  match Entries.get auth kind with
  | .map es => return es
  | v =>
    (← mapsIn v).foldlM (fun acc es => do
      let key := Entries.get es "key"
      key.checkKey
      return Entries.insert acc key (Entries.get es "value")) []

/-- The authentication of a collection (`_auth_method`). -/
def auth (v : Value) : Except Failure Auth :=
  match v with
  | .map es =>
    match Entries.get es "type" with
    | .text "bearer" => Auth.bearer (.text "Bearer token authentication")
    | .text "apikey" => do
      let settings ← authSettings es "apikey"
      Auth.apiKey (Entries.get settings "key") (Entries.get settings "in")
        (.text "API Key authentication")
    | .text "basic" => Auth.basic (.text "Basic authentication")
    | .text "oauth2" => Auth.oauth2 (.text "OAuth 2.0 authentication")
    | _ => .ok {}
  | _ => .ok {}

/-- What a request of its own asks for (`_request_auth`): the kind of authentication, and the name of a key. -/
def security (v : Value) : Except Failure (List Value) :=
  match v with
  | .map es =>
    match Entries.get es "type" with
    | .null | .text "noauth" => .ok []
    | .text "apikey" => do
      let settings ← authSettings es "apikey"
      return [fields [("type", .text "apikey"),
        ("name", (Entries.get settings "key").orElse (.text defaultKeyHeader))]]
    | type => .ok [fields [("type", type)]]
  | _ => .ok []

end ClientForge.Postman
