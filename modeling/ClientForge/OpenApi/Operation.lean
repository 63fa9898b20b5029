import ClientForge.OpenApi.Payload

/-!
Operations: what the paths of an OpenAPI document offer (`_endpoints`, `_endpoint`).
-/

namespace ClientForge.OpenApi

/-- An operation in its place. -/
structure Operation where
  /-- The document. -/
  doc : Entries
  path : Value
  /-- The parameters that the path declares for all its operations. -/
  shared : Value
  method : Method
  fields : Entries

namespace Operation

def field (o : Operation) (name : String) : Value := Entries.get o.fields name

/-- The field of the operation, or else that of the document. -/
def ownOrCommon (o : Operation) (name : String) : Value :=
  (o.field name).orElse (Entries.get o.doc name)

/-- The body, if requests of the verb have one. -/
def body (o : Operation) (ds : List Declaration) : Except Failure (Option Body) :=
  if o.method.allowsBody then
    match Entries.get? o.fields "requestBody" with
    | some v => OpenApi.body v
    | none => declaredBody ds (o.ownOrCommon "consumes")
  else .ok none

/-- The operation id in the form of an identifier; without one, a name made of verb and path. -/
def id (o : Operation) (path : String) : Except Failure String := do
  let given ← ((o.field "operationId").orElse (.text "")).asText
  match identifier given.toList with
  | [] => return .ofList (derivedIdentifier o.method.name.toList path.toList)
  | name => return .ofList name

/-- The items of a field, which may be empty. -/
def itemsOf (v : Value) : Except Failure Value := do return .list (← (v.orElse (.list [])).items)

/-- The endpoint of an operation. -/
def endpoint (o : Operation) : Traced Endpoint := do
  let ds ← Declaration.merge o.shared ((o.field "parameters").orElse (.list []))
  let params ← params o.method o.path.display ds
  let path ← o.path.asText
  let body ← o.body ds
  let operationId ← o.id path
  let responses ← responses ((o.field "responses").orElse (.map [])) (o.ownOrCommon "produces")
  let security ← itemsOf ((Entries.get? o.fields "security").getD (Entries.get o.doc "security"))
  let tags ← itemsOf (o.field "tags")
  let fields : EndpointFields := {
    method := o.method.name, path, operationId, summary := "", description := ""
    parameters := withPathParams path params, body, responses, security := [], tags := [] }
  Endpoint.make fields ((o.field "summary").orElse (.text ""))
    ((o.field "description").orElse (.text "")) security tags

end Operation

/-- The verb that a key of a path stands for. -/
def verb? : Value → Except Failure (Option Method)
  | .text s => .ok (Method.all.find? (·.name.lowered == s.lowered))
  | .bytes _ => .ok none
  | _ => .error (.broken .noMembers)

/-- The endpoint under a key of a path (`_endpoint`). None, if the key is no verb. -/
def endpoint? (doc : Entries) (path shared key v : Value) : Traced (Option Endpoint) := do
  match ← verb? key with
  | none => return none
  | some method =>
    let name := path.shown.map fun p => method.name ++ " " ++ p
    match v with
    | .map fields =>
      let o : Operation := { doc, path, shared, method, fields }
      some <$> Traced.withinShown (name.map fun n => "Invalid operation '" ++ n ++ "'") o.endpoint
    | _ => throw (.refused ("Operation '" ++ (← name) ++ "' must be an object"))

/-- The endpoints of a path, in order. -/
def endpointsOfPath (doc : Entries) (path shared : Value) : Entries → Traced (List Endpoint)
  | [] => return []
  | (key, v) :: es => do
    let e ← endpoint? doc path shared key v
    return e.toList ++ (← endpointsOfPath doc path shared es)

/-- The endpoints of some paths, in order. -/
def endpointsOfPaths (doc : Entries) : Entries → Traced (List Endpoint)
  | [] => return []
  | (path, v) :: es => do
    match v with
    | .map item =>
      let first ← endpointsOfPath doc path ((Entries.get item "parameters").orElse (.list [])) item
      return first ++ (← endpointsOfPaths doc es)
    | _ => throw (.refused ("Path item '" ++ (← path.shown) ++ "' must be an object"))

/-- The endpoints of a document (`_endpoints`). -/
def endpoints (doc : Entries) : Traced (List Endpoint) := do
  match (Entries.get doc "paths").orElse (.map []) with
  | .map paths => endpointsOfPaths doc paths
  | _ => throw (.refused "'paths' must be an object")

end ClientForge.OpenApi
