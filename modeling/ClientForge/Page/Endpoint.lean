import ClientForge.Api.Part
import ClientForge.Html.Query
import ClientForge.Page.Parameter
import ClientForge.Page.Path
import ClientForge.Text.Line

/-!
The endpoints of a page (`extract_endpoints`): every heading, piece of code and element of a telling class may
mention one.
-/

namespace ClientForge.Page

/-! ## Descriptions -/

/-- Does a line read like prose (`_usable_line`)? It is not too short, not too long, and starts with no verb. -/
def isProse (line : List Char) : Bool :=
  10 ≤ line.length && line.length ≤ 200 && !(verbAt? line).any endsWord

/-- The text of a node by itself. -/
def nodeText (n : Html.Node) : String :=
  match n with
  | .text _ s => s.trimBlank
  | .element name as children => Html.Element.trimmedText ⟨name, as, children⟩ " "

/-- The description of an element (`extract_description`): the first text beside it that reads like prose, after it
and then before it, or the first such line of the element around it. -/
def describe (l : Html.Located) : String :=
  let beside := (l.after ++ l.before).map nodeText
  let around := (Text.lines (l.parent.textWith "\n").toList).map fun s => String.ofList (Text.trim s)
  ((beside ++ around).find? fun s => isProse s.toList).getD ""

/-! ## Endpoints in text -/

/-- The request that a text is about: one that it mentions, or one of a verb that it has a word for, at
the first address in it. -/
def request? (text : List Char) : Option Mention :=
  (mention? text).or ((address? text).map fun token => ⟨(inferMethod text).name.toList, token⟩)

/-- The endpoint of a verb and a path. -/
def endpointAt (verb path description : String) (params : List Param) : Except Failure Endpoint :=
  let summary := if description.isEmpty then verb ++ " " ++ path else description
  Endpoint.make {
    method := verb, path
    operationId := .ofList (derivedIdentifier verb.toList path.toList)
    summary, description, parameters := withPathParams path params
    body := none, responses := [], security := [], tags := [] }
    (.text summary) (.text description) (.list []) (.list [])

/-- The number of characters of a text that a note shows. -/
def shownLength : Nat := 80

/-- The endpoint that a text is about (`parse_endpoint_text`), with the description of the element of the text. -/
def endpointIn? (text description : String) : Traced (Option Endpoint) := do
  match request? text.toList with
  | none => return none
  | some m =>
    let path : String := .ofList (← cleanPath m.token)
    let verb := (String.ofList m.verb).uppered
    match endpointAt verb path description (params text.toList) with
    | .ok e => return some e
    | .error f =>
      Traced.note .debug .html ("Skipping candidate " ++
        Text.quoted (.ofList (text.toList.take shownLength)) ++ ": " ++ f.message)
      return none

/-! ## Endpoints of a page -/

/-- The words of telling classes. -/
def hints : List String := ["endpoint", "api", "route"]

def isTelling (e : Html.Element) : Bool :=
  e.classes.any fun c => hints.any fun h => Text.occurs h.toList c.lowered.toList

/-- The elements that may mention an endpoint (`_candidates`). -/
def candidates (all : List Html.Located) : List (Html.Element × Html.Located) :=
  Html.elementsNamed ["h1", "h2", "h3", "h4", "h5", "h6"] all ++ Html.elementsNamed ["code"] all ++
    Html.elementsNamed ["pre"] all ++ Html.elementsWhere isTelling all

/-- The endpoint that an element mentions. -/
def endpointOf? (e : Html.Element) (l : Html.Located) : Traced (Option Endpoint) :=
  let text := e.trimmedText " "
  if text.isEmpty then return none else endpointIn? text (describe l)

/-- The endpoints that some elements mention, each verb and path once. -/
def endpointsFrom (met : List (Method × String)) :
    List (Html.Element × Html.Located) → Traced (List Endpoint)
  | [] => return []
  | (e, l) :: more => do
    match ← endpointOf? e l with
    | none => endpointsFrom met more
    | some endpoint =>
      let key := (endpoint.method, endpoint.path)
      if met.contains key then
        Traced.note .debug .html ("Discarding duplicate endpoint " ++ key.1.name ++ " " ++ key.2)
        endpointsFrom met more
      else return endpoint :: (← endpointsFrom (key :: met) more)

/-- The endpoints of a page (`extract_endpoints`). -/
def endpoints (all : List Html.Located) : Traced (List Endpoint) := endpointsFrom [] (candidates all)

end ClientForge.Page
