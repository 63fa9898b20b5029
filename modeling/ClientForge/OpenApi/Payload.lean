import ClientForge.OpenApi.Parameter

/-!
Payloads of requests and responses, by their media types and schemas (`_parse_request_body`,
`_parse_swagger2_body`, `_parse_responses`).
-/

namespace ClientForge.OpenApi

/-- The outline of a schema (`_sketch`). An example beside the schema goes before the one in it. -/
def sketch (schema example' : Value) : Except Failure Sketch := do
  let es ← schema.entriesOf "schema"
  let type := Entries.get es "type"
  let required ← ((Entries.get es "required").orElse (.list [])).items
  Sketch.make [
    ("type", if type.truthy then typeName type else .null),
    ("properties", (Entries.get es "properties").orElse (.map [])),
    ("required", .list required),
    ("example", match example' with
      | .null => Entries.get es "example"
      | v => v)]

/-- The first media type of a payload's content, and the entries under it. -/
def firstMedia (content : Value) (part mediaPart : String) : Except Failure (Value × Entries) := do
  let es ← content.entriesOf (part ++ " content")
  let (mediaType, media) := es.head?.getD (.text defaultMediaType, .null)
  let shown ← mediaType.shown
  return (mediaType, ← media.entriesOf (mediaPart ++ " media type " ++ shown))

/-! ## Requests -/

/-- The body that a request declares as such (`_parse_request_body`). -/
def body (v : Value) : Except Failure (Option Body) := do
  let es ← v.entriesOf "requestBody"
  if es.isEmpty then return none
  let (mediaType, media) ← firstMedia (Entries.get es "content") "requestBody" "requestBody"
  let sketch ← sketch (Entries.get media "schema") (Entries.get media "example")
  return some (← Body.make (Entries.get es "required").truthy mediaType sketch)

/-- The body of form fields. -/
def formBody (form : List Declaration) : Except Failure Body := do
  let hasFile := form.any fun d => (d.field "type").isText "file"
  let given (d : Declaration) : Bool := (d.field "required").truthy
  let type (d : Declaration) : Value := (Entries.get? d.fields "type").getD (.text "string")
  let sketch ← Sketch.make [
    ("type", .text "object"),
    ("properties", .map (Entries.ofList (form.map fun d => (d.name, fields [("type", type d)])))),
    ("required", .list ((form.filter given).map (·.name)))]
  let mediaType := if hasFile then "multipart/form-data" else "application/x-www-form-urlencoded"
  Body.make (form.any given) (.text mediaType) sketch

/-- The body that parameters declare (`_parse_swagger2_body`): one as a whole, or the fields of a form. -/
def declaredBody (ds : List Declaration) (consumes : Value) : Except Failure (Option Body) :=
  match ds.find? (·.isIn "body") with
  | some d => do
    let mediaType ← consumes.firstOr (.text defaultMediaType)
    let sketch ← sketch (d.field "schema") .null
    return some (← Body.make (d.field "required").truthy mediaType sketch)
  | none =>
    match ds.filter (·.isIn "formData") with
    | [] => return none
    | form => some <$> formBody form

/-! ## Responses -/

/-- The response under a status code. -/
def response (code v produces : Value) : Except Failure Response := do
  let shown ← code.shown
  let part := "response " ++ shown
  let es ← v.entriesOf part
  let (mediaType, schema, example') ← show Except Failure (Value × Value × Value) from
    if Entries.has es "content" then do
      let (mediaType, media) ← firstMedia (Entries.get es "content") part part
      return (mediaType, Entries.get media "schema", Entries.get media "example")
    else
      return (← produces.firstOr (.text defaultMediaType), Entries.get es "schema", .null)
  let sketch ← if schema.truthy then some <$> sketch schema example' else pure none
  Response.make ((Entries.get es "description").orElse (.text "")) mediaType sketch

/-- The responses by their status codes (`_parse_responses`). -/
def responses (v produces : Value) : Except Failure (List (String × Response)) := do
  let es ← v.entriesOf "responses"
  es.foldlM (fun rs (code, v) => do
    return putNamed code.display (← response code v produces) rs) []

end ClientForge.OpenApi
