import ClientForge.Api.Reader
import ClientForge.Traced
import ClientForge.Value.Access

/-!
The parts of an API made from values of a document (`Param`, `Body`, `Response`, `ApiEndpoint` called with
fields). A value that does not fit is an issue of the part that it is for.
-/

namespace ClientForge

open Checked

/-- The map of some fields. -/
def fields (ms : List (String × Value)) : Value := .map (ms.map fun m => (.text m.1, m.2))

def Sketch.make (ms : List (String × Value)) : Except Failure Sketch :=
  asKind "SchemaSketch" (Sketch.check .document (fields ms))

def Param.make (ms : List (String × Value)) : Except Failure Param :=
  asKind "Param" (Param.check .document (fields ms))

def Body.make (required : Bool) (mediaType : Value) (sketch : Sketch) : Except Failure Body :=
  asKind "Body" ((given "media_type" text mediaType).map fun mediaType =>
    { required, mediaType, sketch })

def Response.make (description mediaType : Value) (sketch : Option Sketch) : Except Failure Response :=
  asKind "Response" (also ((given "description" text description).map fun description mediaType =>
    { description, mediaType, sketch }) (given "media_type" text mediaType))

/-! ## Authentication -/

def Auth.bearer (description : Value) : Except Failure Auth :=
  asKind "BearerAuth" (Auth.checkKind "bearer" [(.text "description", description)])

def Auth.basic (description : Value) : Except Failure Auth :=
  asKind "BasicAuth" (Auth.checkKind "basic" [(.text "description", description)])

def Auth.oauth2 (description : Value) : Except Failure Auth :=
  asKind "OAuth2Auth" (Auth.checkKind "oauth2" [(.text "description", description)])

/-- A key in the header or query of a name. Any other place stands for the header. -/
def Auth.apiKey (name place description : Value) : Except Failure Auth :=
  let place := if place.isText KeyPlace.query.name then KeyPlace.query else KeyPlace.header
  asKind "ApiKeyAuth" (Auth.checkKind "apiKey" [(.text "description", description),
    (.text "name", name), (.text "location", .text place.name)])

/-! ## Endpoints and the whole -/

/-- The endpoint of some fields, with values of a document for others. -/
def Endpoint.make (f : EndpointFields) (summary description security tags : Value) :
    Except Failure Endpoint :=
  let change (summary description : String) (security : List (List (String × Value)))
      (tags : List String) : EndpointFields := { f with summary, description, security, tags }
  let all : Checked EndpointFields :=
    ((((pure change : Checked _).also (given "summary" text summary)).also
      (given "description" text description)).also
      (given "security" (list .document (object .document free)) security)).also
      (given "tags" (list .document text) tags)
  asKind "ApiEndpoint" (all.bind EndpointFields.endpoint)

/-- The API of some endpoints, with values of a document for its title and description. -/
def Api.make (baseUrl : String) (auth : Auth) (title : Value) (version : String) (description : Value)
    (endpoints : List Endpoint) : Except Failure Api :=
  asKind "ApiDescription" (also ((given "title" text title).map fun title description =>
    { baseUrl, auth, title, version, description, endpoints }) (given "description" text description))

/-- The note on an endpoint with a new operation id. -/
def Endpoint.renaming (e : Endpoint) (new : String) : Traced Unit :=
  if e.operationId = new then pure ()
  else
    Traced.note .debug .naming ("Renaming duplicate operationId " ++ e.operationId ++ " -> " ++ new ++
      " (" ++ e.method.name ++ " " ++ e.path ++ ")")

/-- The endpoints with different operation ids. -/
def Endpoint.renamed (es : List Endpoint) : Traced (List Endpoint) := do
  let new := Endpoint.withDistinctIds es
  (es.zip new).forM fun (e, n) => e.renaming n.operationId
  return new

end ClientForge
