import ClientForge.Api.Checked
import ClientForge.Api.Placeholder
import ClientForge.Json.Reader
import ClientForge.Text.Quoted

/-!
Reading an API from data (`ApiDescription.model_validate_json`). Fields have a name in data, and a second name
that is read too.
-/

namespace ClientForge

open Checked

def Sketch.check (o : Origin) : Value → Checked Sketch :=
  record o "SchemaSketch" fun es =>
    ((((pure Sketch.mk : Checked _).also (plain "type" none (optional text) es)).also
      (plain "properties" [] (object o free) es)).also
      (plain "required" [] (list o text) es)).also
      (plain "example" .null free es)

def Param.check (o : Origin) : Value → Checked Param :=
  record o "Param" fun es =>
    ((((((((pure Param.mk : Checked _).also (needed "name" "name" text es)).also
      (needed "in" "location" (oneOf (Location.all.map Location.name) Location.ofName?) es)).also
      (plain "required" false truth es)).also
      (plain "type" "string" text es)).also
      (plain "description" "" text es)).also
      (plain "example" .null free es)).also
      (plain "format" none (optional text) es)).also
      (plain "enum" none (optional (list o free)) es)

def Body.check (o : Origin) : Value → Checked Body :=
  record o "Body" fun es =>
    (((pure Body.mk : Checked _).also (plain "required" false truth es)).also
      (withDefault "mediaType" "media_type" defaultMediaType text es)).also
      (withDefault "schema" "schema_sketch" {} (Sketch.check o) es)

def Response.check (o : Origin) : Value → Checked Response :=
  record o "Response" fun es =>
    (((pure Response.mk : Checked _).also (plain "description" "" text es)).also
      (withDefault "mediaType" "media_type" defaultMediaType text es)).also
      (withDefault "schema" "schema_sketch" none (optional (Sketch.check o)) es)

/-! ## Authentication -/

/-- The name of a key: anything empty stands for the usual header. -/
def keyName (v : Value) : Checked String := text (v.orElse (.text defaultKeyHeader))

/-- The authentication of a kind. -/
def Auth.checkKind (kind : String) (es : Entries) : Checked Auth :=
  let description := plain "description" none (optional text) es
  let named (make : String → Scheme) : Checked Auth :=
    also (description.map fun d n => ⟨make n, d⟩) (plain "name" credentialHeader text es)
  match kind with
  | "bearer" => named .bearer
  | "basic" => named .basic
  | "oauth2" => named .oauth2
  | "apiKey" =>
    (also (description.map fun d n p => ⟨.apiKey n p, d⟩) (plain "name" defaultKeyHeader keyName es)).also
      (withDefault "in" "location" .header (oneOf (KeyPlace.all.map KeyPlace.name) KeyPlace.ofName?) es)
  | _ => description.map fun d => ⟨.none, d⟩

def Auth.check (o : Origin) : Value → Checked Auth
  | .map es =>
    match Entries.get? es "type" with
    | none => complain .kindMissing
    | some (.text kind) =>
      if Scheme.kinds.contains kind then within (.member kind) (Auth.checkKind kind es)
      else complain (.unknownKind kind Scheme.kinds)
    | some v => complain (.unknownKind v.display Scheme.kinds)
  | _ => complain (.notObject o)

/-! ## Endpoints -/

/-- Why an endpoint whose fields are well is not (`check_invariants`): its verb, its path, its operation id, and its
placeholders are looked at in this order. -/
def Endpoint.fault? (method path operationId : String) (params : List Param) : Option String :=
  let declared := (params.filter (·.location == .path)).map (·.name)
  let open' := (placeholders path).filter (!declared.contains ·)
  if (Method.ofName? method).isNone then some ("unsupported HTTP method " ++ Text.quoted method)
  else if !path.startsWith "/" then some ("path must start with '/': " ++ Text.quoted path)
  else if !isIdentifier operationId.toList then
    some ("operationId is not a valid identifier: " ++ Text.quoted operationId)
  else if !open'.isEmpty then
    some ("path " ++ Text.quoted path ++ " has undeclared placeholders: " ++ ", ".intercalate open')
  else none

/-- The fields of an endpoint, whose verb is still a text. -/
structure EndpointFields where
  method : String
  path : String
  operationId : String
  summary : String
  description : String
  parameters : List Param
  body : Option Body
  responses : List (String × Response)
  security : List (List (String × Value))
  tags : List String

/-- The endpoint of some fields, if they go together. -/
def EndpointFields.endpoint (f : EndpointFields) : Checked Endpoint :=
  match Endpoint.fault? f.method f.path f.operationId f.parameters, Method.ofName? f.method with
  | none, some method => .ok { f with method }
  | some reason, _ => complain (.inconsistent reason)
  | none, none => complain (.inconsistent "")

/-- A verb in any case. -/
def verb (v : Value) : Checked String := (text v).map String.uppered

def Endpoint.check (o : Origin) : Value → Checked Endpoint :=
  record o "ApiEndpoint" fun es =>
    let fields : Checked EndpointFields :=
      ((((((((((pure EndpointFields.mk : Checked _).also (needed "method" "method" verb es)).also
        (needed "path" "path" text es)).also
        (needed "operationId" "operation_id" text es)).also
        (plain "summary" "" text es)).also
        (plain "description" "" text es)).also
        (plain "parameters" [] (list o (Param.check o)) es)).also
        (withDefault "requestBody" "request_body" none (optional (Body.check o)) es)).also
        (plain "responses" [] (object o (Response.check o)) es)).also
        (plain "security" [] (list o (object o free)) es)).also
        (plain "tags" [] (list o text) es)
    fields.bind EndpointFields.endpoint

def Api.check (o : Origin) : Value → Checked Api :=
  record o "ApiDescription" fun es =>
    ((((((pure Api.mk : Checked _).also (withDefault "baseUrl" "base_url" "" text es)).also
      (withDefault "authMethod" "auth_method" {} (Auth.check o) es)).also
      (plain "title" "API" text es)).also
      (plain "version" "1.0.0" text es)).also
      (plain "description" "" text es)).also
      (plain "endpoints" [] (list o (Endpoint.check o)) es)

/-- How deep the arrays and objects of a saved model may nest. -/
def savedLevels : Nat := 200

/-- The API that a saved model holds. -/
def Api.read (text : String) : Checked Api :=
  match Json.readWithin true savedLevels text with
  | .error _ => complain .notJson
  | .ok j => Api.check .saved (.ofJson j)

end ClientForge
