import ClientForge.Text.Search

/-!
File paths, as they are written: the names on the way to a file, from the root or from the folder that
the program runs in.
-/

namespace ClientForge

/-- A path to a file or folder. -/
structure FilePath where
  /-- The slashes of a path from the root, else nothing. -/
  root : String := ""
  /-- The names on the way. None is empty or a single point; two points stand for the folder above. -/
  names : List String := []
deriving DecidableEq, Repr, Inhabited

/-- The steps of a written path, those that lead nowhere with them. -/
def pathSteps (s : String) : List String := (Text.splitAt '/' s.toList).map String.ofList

/-- Does the step lead to another place? -/
def isProperStep (name : String) : Bool := name != "" && name != "."

namespace FilePath

/-- The root of a written path: two slashes are a root of their own, more are like one. -/
def rootOf : List Char → String
  | '/' :: '/' :: '/' :: _ => "/"
  | '/' :: '/' :: _ => "//"
  | '/' :: _ => "/"
  | _ => ""

/-- The path of a text. -/
def ofText (s : String) : FilePath :=
  { root := rootOf s.toList, names := (pathSteps s).filter isProperStep }

/-- The text of a path. The path that leads nowhere is a single point. -/
def text (p : FilePath) : String :=
  if p.root = "" ∧ p.names = [] then "." else p.root ++ "/".intercalate p.names

/-- Does the path start at the root? -/
def isFromRoot (p : FilePath) : Bool := p.root != ""

/-- The path to the folder of the file. -/
def parent (p : FilePath) : FilePath := { p with names := p.names.dropLast }

/-- The path to a file below, by its path from here. -/
def below (p : FilePath) (rest : String) : FilePath :=
  { p with names := p.names ++ (ofText rest).names }

end FilePath

end ClientForge
