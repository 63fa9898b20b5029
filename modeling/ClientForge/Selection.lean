import ClientForge.Api.Basic
import ClientForge.Glob
import ClientForge.Text.Blank
import ClientForge.Text.Case

/-!
Selections (`_filter_endpoints`, `_select`): the endpoints of an API that some of a list of patterns fit. A
pattern is a glob for paths, perhaps after a verb and a space.
-/

namespace ClientForge

/-- The text before and after the last `c`; all of it is after, if there is none. -/
def Text.cutLast (c : Char) (s : List Char) : List Char × List Char :=
  let after := (s.reverse.takeWhile (· != c)).reverse
  (s.take (s.length - after.length - 1), after)

/-- A pattern for endpoints. -/
structure EndpointPattern where
  /-- The verb in capitals; if empty, any verb fits. -/
  verb : List Char
  path : Glob
deriving DecidableEq, Repr, Inhabited

namespace EndpointPattern

/-- The pattern of a text: what stands before its last space is the verb. -/
def ofText (s : String) : EndpointPattern :=
  let (verb, path) := Text.cutLast ' ' (Text.trim s.toList)
  { verb := Text.upper (Text.trim verb), path := Glob.itemsFrom 0 path }

/-- Does the pattern fit the endpoint? -/
def fits (p : EndpointPattern) (e : Endpoint) : Bool :=
  (p.verb.isEmpty || p.verb = e.method.name.toList) && p.path.accepts e.path.toList

end EndpointPattern

/-- The endpoints that some pattern fits (`_filter_endpoints`), or all if there is no pattern. -/
def selectEndpoints (patterns : List String) (es : List Endpoint) : List Endpoint :=
  if patterns.isEmpty then es
  else es.filter fun e => patterns.any fun s => (EndpointPattern.ofText s).fits e

/-- The API with the selected endpoints (`_select`). -/
def Api.select (patterns : List String) (a : Api) : Api :=
  { a with endpoints := selectEndpoints patterns a.endpoints }

end ClientForge
