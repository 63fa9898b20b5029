import ClientForge.Api.Issue

/-!
Why a document gives no API: it is refused (`ParseError`), or its reading breaks off with another error.
-/

namespace ClientForge

/-- What goes wrong where a document holds a value of a kind that nobody looked for. -/
inductive Breakdown where
  /-- A member is asked of a value that has no members. -/
  | noMembers
  /-- A value is used as something that it is not. -/
  | wrongKind
  /-- An entry is asked for by a key that a map does not have. -/
  | noEntry
  /-- An item is asked for beyond the end. -/
  | outOfRange
  /-- A text that is no number, address or date where one should be. -/
  | badValue
  /-- A number too great to compute with, or a value without end. -/
  | tooGreat
  /-- Markup that cannot be read. -/
  | badMarkup
deriving DecidableEq, Repr, Inhabited

/-- Why a document gives no API. -/
inductive Failure where
  /-- The document breaks a rule. -/
  | refused (reason : String)
  /-- A part of the document does not make what it should. -/
  | unfit (part kind : String) (issues : List Issue)
  /-- The text is no structured document of any kind. -/
  | unstructured
  /-- The whole does not make what it should. -/
  | invalid (kind : String) (issues : List Issue)
  /-- Nothing in the reading looks for the value that is there. -/
  | broken (b : Breakdown)
deriving DecidableEq, Repr, Inhabited

/-- The words before the reason why a text is no structured document. -/
def unstructuredText : String := "Document is neither valid JSON nor YAML"

/-- The reason in words. -/
def Failure.message : Failure → String
  | refused reason => reason
  | unfit part kind issues => part ++ ": " ++ issuesText kind issues
  | unstructured => unstructuredText ++ ": the text breaks a rule of the language"
  | invalid kind issues => issuesText kind issues
  | broken _ => ""

/-- The failure of a part of a document, told with the part. -/
def Failure.within (part : String) : Failure → Failure
  | refused reason => refused (part ++ ": " ++ reason)
  | invalid kind issues => unfit part kind issues
  | f => f

/-- The failure of a part of a document, told with the part. If the part cannot be displayed, it fails with
that. -/
def Failure.withinShown (part : Except Failure String) : Failure → Failure
  | broken b => broken b
  | f =>
    match part with
    | .ok part => f.within part
    | .error g => g

end ClientForge
