import ClientForge.Failure
import ClientForge.Page.Match
import ClientForge.Url

/-!
The path of a request, from the spelling of a path or address on a page (`clean_path`).
-/

namespace ClientForge.Page

/-- The characters that stay in a path. -/
def isPathChar (c : Char) : Bool :=
  Text.isWord c || c == '/' || c == '-' || c == '\x7b' || c == '\x7d' || c == '.'

/-- The path of an address; a text that is none is a path itself. -/
def pathOf (token : List Char) : Except Failure (List Char) :=
  if (afterProtocol? token).isSome then
    match Url.split? token with
    | some url => .ok url.path
    | none => .error (.broken .badValue)
  else .ok token

/-- The path with a slash first. -/
def rooted (path : List Char) : List Char :=
  match path with
  | '/' :: _ => path
  | _ => '/' :: path

/-- The path without its query and fragment, without characters that no path has, and without stops
at its end. -/
def tidyPath (path : List Char) : List Char :=
  let path := (Text.upTo '#' (Text.upTo '?' path)).filter isPathChar
  rooted (Text.stripRightBy (· == '.') path)

/-- The path that a token stands for (`clean_path`). -/
def cleanPath (token : List Char) : Except Failure (List Char) := tidyPath <$> pathOf token

end ClientForge.Page
