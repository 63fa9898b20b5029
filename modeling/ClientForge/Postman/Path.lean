import ClientForge.Text.Blank
import ClientForge.Text.Template
import ClientForge.Url
import ClientForge.Value.Access

/-!
The path of a request of a collection (`_path`): given by its segments, or as part of an address. A segment
that is a variable becomes a placeholder.
-/

namespace ClientForge.Postman

/-- The text after a variable between double braces that it starts with. -/
def afterVariable (s : List Char) : List Char :=
  match Text.after? ['\x7b', '\x7b'] s with
  | none => s
  | some rest => (Text.after? ['\x7d', '\x7d'] (rest.dropWhile (· != '\x7d'))).getD s

/-- The name of a variable between double braces. Blanks around it do not count. -/
def variableName? (s : List Char) : Option (List Char) := do
  let rest ← Text.after? ['\x7b', '\x7b'] s
  let inner := rest.takeWhile (· != '\x7d')
  let last ← inner.getLast?
  if rest.drop inner.length != ['\x7d', '\x7d'] then none
  else if inner.all Text.isBlank then some [last]
  else some (Text.trim inner)

/-- The path in an address. -/
def addressPath (address : List Char) : Except Failure (List Char) :=
  let s := afterVariable (Text.upTo '?' address)
  if Text.occurs "://".toList s then
    match Url.split? s with
    | some url => .ok url.path
    | none => .error (.broken .badValue)
  else .ok s

/-- The segments of a path. -/
def pathSegments (path : List Char) : List Value :=
  (Text.splitAt '/' path).map fun s => .text (.ofList s)

/-- The segments of the path of a request. -/
def segments (url : Entries) : Except Failure (List Value) :=
  match Entries.get url "path" with
  | .text s => .ok (pathSegments s.toList)
  | .null =>
    match (Entries.get url "raw").orElse (.text "") with
    | .text raw => pathSegments <$> addressPath raw.toList
    | _ => .error (.broken .noMembers)
  | v => v.items

/-- A segment as it stands in the path; empty for none. -/
def segmentText (v : Value) : List Char :=
  let v :=
    match v with
    | .map es => (Entries.get es "value").orElse (.text "")
    | v => v
  let s := Text.trim v.display.toList
  match s with
  | ':' :: c :: name => Text.braced (c :: name)
  | _ =>
    match variableName? s with
    | some name => Text.braced name
    | none => s

/-- The path of a request (`_path`). -/
def path (url : Entries) : Except Failure String := do
  let parts := ((← segments url).map segmentText).filter (!·.isEmpty)
  return .ofList ('/' :: Text.join ['/'] parts)

end ClientForge.Postman
