import ClientForge.Document
import ClientForge.Value.Access

/-!
Formats of API documentation: how they are called (`InputFormat`, `get_normalizer`), and how to tell which one
a text is in (`detect_format`).
-/

namespace ClientForge

/-- A format of API documentation. -/
inductive Format where
  | openApi
  | postman
  | html
deriving DecidableEq, Repr, Inhabited

namespace Format

def all : List Format := [openApi, postman, html]

def name : Format → String
  | openApi => "openapi"
  | postman => "postman"
  | html => "html"

/-- The format of a name, or of one of the other names for some. -/
def ofName? (s : String) : Option Format :=
  match s with
  | "structured-openapi" | "swagger" => some openApi
  | "structured-postman" => some postman
  | "heuristic-html" => some html
  | _ => all.find? (·.name == s)

/-- The format that a tag asks for (`get_normalizer`), in any case. -/
def ofTag (tag : Value) : Except Failure Format :=
  let found :=
    match tag with
    | .text s => ofName? s.lowered
    | _ => none
  match found with
  | some f => .ok f
  | none => do
    let shown ← tag.described
    throw (.refused ("Unknown input format " ++ shown ++ "; supported: " ++ ", ".intercalate (all.map name)))

/-! ## Telling the format of a text -/

/-- Is a map under `info` that of a Postman collection? -/
def isCollectionInfo (info : Entries) : Except Failure Bool := do
  if Entries.has info "_postman_id" then return true
  let url ← ((Entries.get? info "schema").getD (.text "")).shown
  return Text.occurs "postman".toList url.lowered.toList

/-- The structured format of a document (`_classify`), if it is of one. -/
def ofDocument (v : Value) : Except Failure (Option Format) :=
  match v with
  | .map es =>
    if Entries.has es "openapi" || Entries.has es "swagger" then .ok (some openApi)
    else
      match Entries.get es "info" with
      | .map info => (isCollectionInfo info).map fun found => if found then some postman else none
      | _ => .ok none
  | _ => .ok none

/-- The format of a text as JSON. What goes wrong is left to reading the text as YAML. -/
def ofJson? (text : String) : Option Format := do
  let v ← Document.ofJson? text
  (ofDocument v).toOption.join

/-- The format of a text as YAML. -/
def ofYaml? (text : String) : Except Failure (Option Format) :=
  match Document.ofYaml text with
  | .ok v => ofDocument v
  | .error .unstructured => .ok none
  | .error f => .error f

/-- The format of a text (`detect_format`): a structured one, if the text is a document of that kind, else a
page. -/
def detect (text : String) : Except Failure Format :=
  match ofJson? text with
  | some f => .ok f
  | none => (ofYaml? text).map (·.getD html)

end Format

end ClientForge
