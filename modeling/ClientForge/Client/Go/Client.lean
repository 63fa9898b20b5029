import ClientForge.Client.Go.Support

/-!
The client type in Go (the template `client.go`): one method per endpoint.
-/

namespace ClientForge.Client.Go

/-- The lines before the methods. -/
def opening (p : ClientPlan) : List String := [
  "package apiclient",
  "",
  "// Client is the " ++ comment p.title ++ " API client.",
  "type Client struct \x7b",
  "\tconfig         *Config",
  "\tauthHandler    *AuthHandler",
  "\trequestHandler *RequestHandler",
  "\x7d",
  "",
  "// NewClient builds a client from config; see LoadConfig.",
  "func NewClient(config *Config) *Client \x7b",
  "\treturn &Client\x7b",
  "\t\tconfig:         config,",
  "\t\tauthHandler:    NewAuthHandler(config),",
  "\t\trequestHandler: NewRequestHandler(config),",
  "\t\x7d",
  "\x7d"]

/-! ## Methods -/

/-- An argument in the signature. -/
def parameter (a : Argument) : String :=
  a.ident ++ " " ++ (if a.place = .body then "any" else "string")

/-- The comment over a method. -/
def documentation (m : MethodPlan) : List String := [
  "// " ++ m.name ++ " " ++ comment m.summary,
  "//",
  "// " ++ m.route .go]

/-- The line that opens a method. -/
def signature (m : MethodPlan) : String :=
  "func (c *Client) " ++ m.name ++ "(" ++ commas (m.arguments.map parameter) ++ ") (*ApiResponse, error) \x7b"

/-- Put the arguments into the path. -/
def pathLines (m : MethodPlan) : List String :=
  ("\trequestPath := " ++ literal m.path) :: m.pathArgs.map fun a =>
    "\trequestPath = replacePathParam(requestPath, " ++ literal a.name ++ ", " ++ a.ident ++ ")"

/-- An argument as an entry of the query. -/
def queryEntry (a : Argument) : String := "\t\t" ++ literal a.name ++ ": " ++ a.ident ++ ","

/-- Put the arguments into the query, and both into the address. -/
def queryLines (m : MethodPlan) : List String :=
  if m.queryArgs.isEmpty then ["\trequestURL := c.config.BaseURL + requestPath"]
  else ["\tqueryParams := map[string]string\x7b"] ++ m.queryArgs.map queryEntry ++ [
  "\t\x7d",
  "\trequestURL := c.config.BaseURL + requestPath + buildQueryString(queryParams)"]

/-- The line that sends the request, with the name of the body. -/
def sendLine (m : MethodPlan) (body : String) : String :=
  "\treturn c.requestHandler.MakeRequest(" ++ literal m.verb.name ++ ", requestURL, " ++ body ++ ", headers)"

/-- Make the body and send the request. -/
def sendLines (m : MethodPlan) : List String :=
  match m.body with
  | none => [sendLine m "nil"]
  | some b => [
  "\trequestBody, err := encodeBody(" ++ b.argument.ident ++ ", " ++ literal b.encoding.name ++ ")",
  "\tif err != nil \x7b",
  "\t\treturn nil, err",
  "\t\x7d",
  "\tif requestBody != nil \x7b",
  "\t\theaders[\"Content-Type\"] = " ++ literal b.mediaType,
  "\t\x7d",
  sendLine m "requestBody"]

/-- A method. -/
def method (m : MethodPlan) : List String :=
  "" :: documentation m ++ signature m :: pathLines m ++ queryLines m ++ [
  "\theaders, err := c.authHandler.GetAuthHeaders()",
  "\tif err != nil \x7b",
  "\t\treturn nil, err",
  "\t\x7d"] ++ sendLines m ++ ["\x7d"]

/-- The lines after the methods. -/
def closing : List String := [
  "",
  "// TestConnection reports whether GET / on the base URL succeeds.",
  "func (c *Client) TestConnection() bool \x7b",
  "\theaders, err := c.authHandler.GetAuthHeaders()",
  "\tif err != nil \x7b",
  "\t\treturn false",
  "\t\x7d",
  "\t_, err = c.requestHandler.MakeRequest(\"GET\", c.config.BaseURL+\"/\", nil, headers)",
  "\treturn err == nil",
  "\x7d"]

/-- The file of the client type. -/
def clientFile (p : ClientPlan) : Artifact :=
  ⟨"client.go", opening p ++ p.methods.flatMap method ++ closing⟩

end ClientForge.Client.Go
