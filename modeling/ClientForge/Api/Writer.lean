import ClientForge.Api.Basic
import ClientForge.Json.Writer
import ClientForge.Value.Json

/-!
Writing an API as JSON (`model_dump_json`). An API with a free value that has no JSON image or is too deep
cannot be written.
-/

namespace ClientForge

namespace Json

def textOrNull : Option String → Json
  | none => .null
  | some s => .text s

def texts (ss : List String) : Json := .array (ss.map .text)

/-- What the function gives for the value, or null. -/
def orNull {α : Type} (f : α → Option Json) : Option α → Option Json
  | none => some .null
  | some a => f a

/-- Values under their names. -/
def members? {α : Type} (f : α → Option Json) (ms : List (String × α)) : Option Json :=
  (ms.mapM fun m : String × α => (f m.2).map (m.1, ·)).map .object

/-- Values in order. -/
def items? {α : Type} (f : α → Option Json) (xs : List α) : Option Json := (xs.mapM f).map .array

end Json

open Json

/-- Free values under their names. -/
def freeMembers (ms : List (String × Value)) : Option Json := members? Value.written? ms

def Sketch.toJson? (s : Sketch) : Option Json := do
  return .object [
    ("type", textOrNull s.type),
    ("properties", ← freeMembers s.properties),
    ("required", texts s.required),
    ("example", ← s.example?.written?)]

def Param.toJson? (p : Param) : Option Json := do
  return .object [
    ("name", .text p.name),
    ("in", .text p.location.name),
    ("required", .bool p.required),
    ("type", .text p.type),
    ("description", .text p.description),
    ("example", ← p.example?.written?),
    ("format", textOrNull p.format),
    ("enum", ← orNull (items? Value.written?) p.choices)]

def Body.toJson? (b : Body) : Option Json := do
  return .object [
    ("required", .bool b.required),
    ("mediaType", .text b.mediaType),
    ("schema", ← b.sketch.toJson?)]

def Response.toJson? (r : Response) : Option Json := do
  return .object [
    ("description", .text r.description),
    ("mediaType", .text r.mediaType),
    ("schema", ← orNull Sketch.toJson? r.sketch)]

def Auth.toJson (a : Auth) : Json :=
  let carrier : List (String × Json) :=
    match a.scheme with
    | .none => []
    | .bearer n | .basic n | .oauth2 n => [("name", .text n)]
    | .apiKey n p => [("name", .text n), ("in", .text p.name)]
  .object ([("description", textOrNull a.description), ("type", .text a.scheme.kind)] ++ carrier)

def Endpoint.toJson? (e : Endpoint) : Option Json := do
  return .object [
    ("method", .text e.method.name),
    ("path", .text e.path),
    ("operationId", .text e.operationId),
    ("summary", .text e.summary),
    ("description", .text e.description),
    ("parameters", ← items? Param.toJson? e.parameters),
    ("requestBody", ← orNull Body.toJson? e.body),
    ("responses", ← members? Response.toJson? e.responses),
    ("security", ← items? freeMembers e.security),
    ("tags", texts e.tags)]

def Api.toJson? (a : Api) : Option Json := do
  return .object [
    ("baseUrl", .text a.baseUrl),
    ("authMethod", a.auth.toJson),
    ("title", .text a.title),
    ("version", .text a.version),
    ("description", .text a.description),
    ("endpoints", ← items? Endpoint.toJson? a.endpoints)]

end ClientForge
