import ClientForge.Failure
import ClientForge.Json.Reader
import ClientForge.Value.Json
import ClientForge.Yaml.Reader

/-!
Documents (`load_document`): the free value that a text holds as JSON or, failing that, as YAML.

How deep a document nests makes no difference. Documents so deep that the readers of the program run out of their
stack are left out.
-/

namespace ClientForge.Document

/-- The value of a JSON text. -/
def ofJson? (text : String) : Option Value := (Json.read text).toOption.map Value.ofJson

/-- What a fault of YAML is to the reader of a document. -/
def failure : Yaml.Fault → Failure
  | .malformed => .unstructured
  | .badValue => .broken .badValue
  | .unknownWord => .broken .noEntry
  | .emptyNumber => .broken .outOfRange
  | .badMoment => .broken .noMembers
  | .momentOfMapping => .broken .wrongKind
  | .tooGreat => .broken .tooGreat

/-- The value of a YAML text. -/
def ofYaml (text : String) : Except Failure Value := (Yaml.read text).mapError failure

/-- The value of a text in either language. -/
def read (text : String) : Except Failure Value :=
  match ofJson? text with
  | some v => .ok v
  | none => ofYaml text

/-- The entries of a document (`load_document`), which has to be a map. -/
def entries (text : String) : Except Failure Entries := do
  match ← read text with
  | .map es => return es
  | _ => throw (.refused "Document root must be an object")

end ClientForge.Document
