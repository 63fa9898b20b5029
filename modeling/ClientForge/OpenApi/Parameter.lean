import ClientForge.Api.Part
import ClientForge.Keyed

/-!
Parameters as an OpenAPI document declares them: on a path for all its operations, or on one
(`_merge_parameters`, `_parse_parameters`).
-/

namespace ClientForge.OpenApi

/-- A declaration of a parameter. -/
structure Declaration where
  name : Value
  /-- Where the parameter stands: in the query, if the document does not say. -/
  place : Value
  fields : Entries
deriving Repr

namespace Declaration

/-- The declaration that a value is: a map with a name. -/
def ofValue? : Value → Option Declaration
  | .map es =>
    (Entries.get? es "name").map fun name =>
      ⟨name, (Entries.get? es "in").getD (.text Location.query.name), es⟩
  | _ => none

/-- The key of a declaration: its name and its place. -/
def key (d : Declaration) : Value := .tuple [d.name, d.place]

def field (d : Declaration) (name : String) : Value := Entries.get d.fields name

def isIn (d : Declaration) (place : String) : Bool := d.place.isText place

/-- Is the parameter required? Those in a path are, if the document does not say. -/
def required (d : Declaration) : Bool :=
  match Entries.get? d.fields "required" with
  | some v => v.truthy
  | none => d.isIn Location.path.name

/-- Add a declaration to others; it replaces one of the same key. -/
def addTo (ds : List Declaration) (d : Declaration) : Except Failure (List Declaration) := do
  d.key.checkKey
  return putBy (fun a b => a.key.sameKey b.key) d ds

/-- The declarations of a path (`_merge_parameters`), overlaid by those of an operation. -/
def merge (shared own : Value) : Except Failure (List Declaration) := do
  let shared ← shared.items
  let own ← own.items
  ((shared ++ own).filterMap ofValue?).foldlM addTo []

end Declaration

/-- The name of a type (`_type_name`): the first but `null` of several, and text if there is none. -/
def typeName (v : Value) : Value :=
  let one :=
    match v with
    | .list types => (types.find? fun t : Value => !t.isText "null").getD .null
    | v => v
  one.orElse (.text "string")

/-- The choices, if a value lists any. -/
def choices : Value → Value
  | .list [] => .null
  | .list xs => .list xs
  | _ => .null

/-- The places of parameters that make a payload. -/
def payloadPlaces : List String := ["body", "formData"]

/-- The parameter of a declaration. None, if it stands in no place for parameters. -/
def Declaration.param? (d : Declaration) (method : Method) (path : String) : Traced (Option Param) := do
  if Location.all.any fun l => d.isIn l.name then
    let name ← d.name.described
    let schema ← (d.field "schema").entriesOf ("parameter " ++ name ++ " schema")
    let param ← Param.make [
      ("name", d.name),
      ("location", d.place),
      ("required", .bool d.required),
      ("type", typeName ((Entries.get schema "type").orElse (d.field "type"))),
      ("description", (d.field "description").orElse (.text "")),
      ("example", (Entries.get? d.fields "example").getD (Entries.get schema "example")),
      ("format", (Entries.get schema "format").orElse (d.field "format")),
      ("enum", choices ((Entries.get? schema "enum").getD (d.field "enum")))]
    return some param
  else
    if !payloadPlaces.any d.isIn then
      Traced.note .debug .openApi ("Skipping " ++ d.place.display ++ " parameter " ++ d.name.describe ++
        " on " ++ method.name ++ " " ++ path)
    return none

/-- The parameters of some declarations (`_parse_parameters`). -/
def params (method : Method) (path : String) : List Declaration → Traced (List Param)
  | [] => return []
  | d :: ds => do
    let p ← d.param? method path
    return p.toList ++ (← params method path ds)

end ClientForge.OpenApi
