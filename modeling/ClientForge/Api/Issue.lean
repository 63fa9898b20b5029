/-!
Issues: what is wrong with data that should be an API (`ValidationError`), and where. Data comes from a saved model or
from a document that is being read; the wording tells which.
-/

namespace ClientForge

/-- Where data comes from. -/
inductive Origin where
  | saved
  | document
deriving DecidableEq, Repr, Inhabited

/-- A step into data: to a member, or to an item. -/
inductive Step where
  | member (name : String)
  | item (index : Int)
deriving DecidableEq, Repr

/-- What is wrong with a value. -/
inductive Complaint where
  | missing
  | notText
  | undecodableText
  | notTruth
  | unknownTruth
  | notArray (origin : Origin)
  | notObject (origin : Origin)
  /-- No object, where one of a kind should be. -/
  | notRecord (origin : Origin) (kind : String)
  /-- None of some words. -/
  | notOneOf (words : List String)
  /-- A choice by a word that is none of those expected. -/
  | unknownKind (word : String) (expected : List String)
  /-- A choice without the word it goes by. -/
  | kindMissing
  /-- No JSON at all. -/
  | notJson
  /-- All fields are well, but not together. -/
  | inconsistent (reason : String)
deriving DecidableEq, Repr

namespace Complaint

/-- The short name of a complaint. -/
def code : Complaint → String
  | missing => "missing"
  | notText => "string_type"
  | undecodableText => "string_unicode"
  | notTruth => "bool_type"
  | unknownTruth => "bool_parsing"
  | notArray _ => "tuple_type"
  | notObject _ => "dict_type"
  | notRecord _ _ => "model_type"
  | notOneOf _ => "literal_error"
  | unknownKind _ _ => "union_tag_invalid"
  | kindMissing => "union_tag_not_found"
  | notJson => "json_invalid"
  | inconsistent _ => "value_error"

/-- A word between single quotes. -/
def inQuotes (word : String) : String := "'" ++ word ++ "'"

/-- The words with commas between them, and `or` before the last. -/
def alternatives (words : List String) : String :=
  match words.reverse with
  | [] => ""
  | [w] => inQuotes w
  | w :: ws => ", ".intercalate (ws.reverse.map inQuotes) ++ " or " ++ inQuotes w

def message : Complaint → String
  | missing => "Field required"
  | notText => "Input should be a valid string"
  | undecodableText =>
    "Input should be a valid string, unable to parse raw data as a unicode string"
  | notTruth => "Input should be a valid boolean"
  | unknownTruth => "Input should be a valid boolean, unable to interpret input"
  | notArray .saved => "Input should be a valid array"
  | notArray .document => "Input should be a valid tuple"
  | notObject .saved => "Input should be an object"
  | notObject .document => "Input should be a valid dictionary"
  | notRecord .saved _ => "Input should be an object"
  | notRecord .document kind => "Input should be a valid dictionary or instance of " ++ kind
  | notOneOf words => "Input should be " ++ alternatives words
  | unknownKind word expected =>
    "Input tag '" ++ word ++ "' found using 'type' does not match any of the expected tags: " ++
      ", ".intercalate (expected.map inQuotes)
  | kindMissing => "Unable to extract tag using discriminator 'type'"
  | notJson => "Invalid JSON"
  | inconsistent reason => "Value error, " ++ reason

end Complaint

/-- A complaint about a place. -/
structure Issue where
  place : List Step
  complaint : Complaint
deriving DecidableEq, Repr

/-- A step as text. -/
def Step.text : Step → String
  | member name => name
  | item i => toString i

/-- The place and the message on two lines. -/
def Issue.text (i : Issue) : String :=
  (if i.place.isEmpty then "" else ".".intercalate (i.place.map Step.text) ++ "\n") ++ "  " ++
    i.complaint.message ++ " [type=" ++ i.complaint.code ++ "]"

/-- All issues of data of a kind. -/
def issuesText (kind : String) (is : List Issue) : String :=
  toString is.length ++ (if is.length = 1 then " validation error" else " validation errors") ++ " for " ++
    kind ++ "\n" ++ "\n".intercalate (is.map Issue.text)

end ClientForge
