import ClientForge.Json.Basic
import ClientForge.Json.Literal
import ClientForge.Decimal.Notation

/-!
Writing JSON (`model_dump_json`), on one line or indented. Numbers that are not finite are written as `null`.
-/

namespace ClientForge.Json

/-- How arrays and objects are laid out. -/
inductive Layout where
  /-- Without blanks. -/
  | compact
  /-- One item or member a line, two more spaces at each level. -/
  | indented
deriving DecidableEq, Repr

/-- The start of a line at a level. -/
def Layout.newLine (l : Layout) (level : Nat) : List Char :=
  match l with
  | compact => []
  | indented => '\n' :: List.replicate (2 * level) ' '

/-- Between the name of a member and its value. -/
def Layout.colon (l : Layout) : List Char :=
  match l with
  | compact => [':']
  | indented => [':', ' ']

def writeFloat (x : Double) : List Char :=
  if x.isFinite then Decimal.saved.write x else "null".toList

mutual

/-- The text of a value that starts at a level. -/
def write (l : Layout) (level : Nat) : Json → List Char
  | null => "null".toList
  | bool b => (if b then "true" else "false").toList
  | int n => (toString n).toList
  | float x => writeFloat x
  | text s => encode s.toList
  | array [] => ['[', ']']
  | array (x :: xs) => '[' :: writeItems l (level + 1) (x :: xs) ++ l.newLine level ++ [']']
  | object [] => ['\x7b', '\x7d']
  | object (m :: ms) =>
    '\x7b' :: writeMembers l (level + 1) (m :: ms) ++ l.newLine level ++ ['\x7d']
termination_by structural v => v

/-- Items with commas between them. -/
def writeItems (l : Layout) (level : Nat) : List Json → List Char
  | [] => []
  | x :: xs =>
    l.newLine level ++ write l level x ++ (if xs.isEmpty then [] else [',']) ++ writeItems l level xs
termination_by structural xs => xs

/-- Members with commas between them. -/
def writeMembers (l : Layout) (level : Nat) : List (String × Json) → List Char
  | [] => []
  | (k, v) :: ms =>
    l.newLine level ++ encode k.toList ++ l.colon ++ write l level v ++
      (if ms.isEmpty then [] else [',']) ++ writeMembers l level ms
termination_by structural ms => ms

end

/-- The text of a value on one line. -/
def compactText (v : Json) : String := .ofList (write .compact 0 v)

/-- The text of a value with indentation. -/
def indentedText (v : Json) : String := .ofList (write .indented 0 v)

end ClientForge.Json
