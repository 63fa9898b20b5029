import ClientForge.Page.Endpoint

/-!
Reading a page of documentation (`HtmlNormalizer.normalize`). All that a page tells about an API is found by its
words.
-/

namespace ClientForge.Page

open Html (Element Located)

/-! ## The server -/

/-- The phrases before the address of the server. -/
def serverPhrases : List String := ["base url", "api base", "endpoint base", "server url", "host url"]

/-- What follows a phrase in any case. -/
def afterPhrase? (phrase s : List Char) : Option (List Char) :=
  firstMatch (fun _ s => Text.afterAnyCase? phrase s) none s

/-- The first address after a phrase, without signs of punctuation at its end. -/
def addressAfter? (phrase s : List Char) : Option String := do
  let address ← address? (← afterPhrase? phrase s)
  return .ofList (Text.stripRightBy (".,;:)".toList.contains ·) address)

/-- The address after a phrase in a text of the page, or in the element around it. -/
def serverIn? (phrase : List Char) (l : Located) : Option String :=
  match l.node with
  | .text _ s =>
    if Text.occurs phrase s.lowered.toList then
      (addressAfter? phrase s.toList).or (addressAfter? phrase (l.parent.textWith " ").toList)
    else none
  | .element _ _ _ => none

/-- The server of the first address in a piece of code. None, if the address names no host. -/
def serverOfCode? (e : Element) : Except Failure (Option String) :=
  match address? (e.textWith "").toList with
  | none => .ok none
  | some address =>
    match Url.split? address with
    | none => .error (.broken .badValue)
    | some url =>
      .ok (if url.host.isEmpty then none else some (.ofList (url.scheme ++ "://".toList ++ url.host)))

/-- The server of the first piece of code that names one. -/
def serverOfCodes : List Element → Except Failure String
  | [] => .ok ""
  | e :: es => do
    match ← serverOfCode? e with
    | some s => return s
    | none => serverOfCodes es

/-- The address of the server (`extract_base_url`): after a phrase, or in a piece of code. -/
def baseUrl (all : List Located) : Except Failure String :=
  match serverPhrases.firstM fun p => all.firstM (serverIn? p.toList) with
  | some s => .ok s
  | none => serverOfCodes ((Html.elementsNamed ["code", "pre"] all).map (·.1))

/-! ## Authentication -/

/-- The authentication that the words of a page speak of (`extract_auth_method`). -/
def auth (text : String) : Auth :=
  let text := text.lowered.toList
  let tells (phrase : String) : Bool := Text.occurs phrase.toList text
  if tells "bearer" then ⟨.bearer credentialHeader, some "Bearer token authentication"⟩
  else if tells "api key" || tells "apikey" then
    ⟨.apiKey defaultKeyHeader .header, some "API Key authentication"⟩
  else if tells "basic auth" then ⟨.basic credentialHeader, some "Basic authentication"⟩
  else if tells "oauth" then ⟨.oauth2 credentialHeader, some "OAuth 2.0 authentication"⟩
  else {}

/-! ## Title and description -/

/-- The text of the first element of a name. -/
def textOf (name sep : String) (all : List Located) : String :=
  match Html.first? name all with
  | some e => e.trimmedText sep
  | none => ""

/-- The first of some texts that is not empty. -/
def firstText (texts : List String) : String := (texts.find? (!·.isEmpty)).getD ""

/-- The title (`_title`): that of the page, or the first heading. -/
def title (all : List Located) : String :=
  firstText [textOf "title" "" all, textOf "h1" "" all, "HTML API Documentation"]

/-- A first paragraph of more characters describes the API. -/
def shortLength : Nat := 20

/-- The description that the page gives of itself (`_description`), or its first paragraph. -/
def description (all : List Located) : String :=
  let isDescription (e : Element) : Bool := e.name == "meta" && e.attribute? "name" == some "description"
  let own := do (← (Html.elementsWhere isDescription all).head?).1.attribute? "content"
  match own with
  | some (c) => if c.isEmpty then paragraph all else c.trimBlank
  | none => paragraph all
where
  paragraph (all : List Located) : String :=
    let text := textOf "p" " " all
    if shortLength < text.length then text else ""

/-! ## The page -/

/-- The API that the nodes of a page describe. -/
def ofNodes (nodes : List Html.Node) : Traced Api := do
  let all := Html.allNodes nodes
  let url ← baseUrl all
  let endpoints ← endpoints all
  let endpoints ← Endpoint.renamed endpoints
  return {
    baseUrl := url
    auth := auth ((Element.document nodes).textWith " ")
    title := title all
    description := description all
    endpoints }

/-- What a fault of the markup is to the reader of a page. -/
def failure : Html.Fault → Failure
  | .badSection => .broken .badMarkup
  | .longNumber => .broken .badValue

/-- The API that a page describes (`HtmlNormalizer.normalize`). -/
def read (text : String) : Traced Api := do
  let nodes ← (Html.read text).mapError failure
  ofNodes nodes

end ClientForge.Page
