import ClientForge.Client.Node.Support

/-!
The client class in JavaScript (the template `ApiClient.js`): one asynchronous method per endpoint.
-/

namespace ClientForge.Client.Node

/-- The lines before the methods. -/
def opening (p : ClientPlan) : List String := [
  "const AuthHandler = require('./auth/AuthHandler');",
  "const RequestHandler = require('./utils/RequestHandler');",
  "const Config = require('./config/Config');",
  "",
  "/**",
  " * " ++ comment p.title ++ " API client"] ++ (if p.description.isEmpty then [] else [
  " *",
  " * " ++ comment p.description]) ++ [
  " */",
  "class ApiClient \x7b",
  "  constructor(config = \x7b\x7d) \x7b",
  "    this.config = config instanceof Config ? config : new Config(config);",
  "    this.authHandler = new AuthHandler(this.config);",
  "    this.requestHandler = new RequestHandler(this.config);",
  "  \x7d"]

/-! ## Methods -/

/-- The line of an argument in the comment over a method. -/
def argumentLine (a : Argument) : String :=
  "   * @param " ++ inBraces (if a.place = .body then "Object" else "string") ++ " " ++
    (if a.required then a.ident else "[" ++ a.ident ++ "]") ++
    (if a.description.isEmpty then "" else " " ++ comment a.description)

/-- The comment over a method. -/
def documentation (m : MethodPlan) : List String := [
  "  /**",
  "   * " ++ comment m.summary,
  "   *",
  "   * " ++ m.route .node] ++ m.arguments.map argumentLine ++ [
  "   * @returns \x7bPromise<Object>\x7d Response with status, headers and data",
  "   */"]

/-- The line that opens a method. -/
def signature (m : MethodPlan) : String :=
  "  async " ++ m.name ++ "(" ++ commas (m.arguments.map (·.ident)) ++ ") \x7b"

/-- Put the arguments into the path. -/
def pathLines (m : MethodPlan) : List String :=
  ("    let requestPath = " ++ literal m.path ++ ";") :: m.pathArgs.map fun a =>
    "    requestPath = requestPath.split(" ++ literal (inBraces a.name) ++ ").join(String(" ++ a.ident ++ "));"

/-- Put an argument into the query. -/
def queryArgLines (a : Argument) : List String := [
  "    if (" ++ a.ident ++ " !== undefined && " ++ a.ident ++ " !== null && " ++ a.ident ++ " !== '') \x7b",
  "      queryParams.append(" ++ literal a.name ++ ", String(" ++ a.ident ++ "));",
  "    \x7d"]

/-- Put the arguments into the query. -/
def queryLines (m : MethodPlan) : List String :=
  if m.queryArgs.isEmpty then []
  else ["    const queryParams = new URLSearchParams();"] ++ m.queryArgs.flatMap queryArgLines ++ [
  "    const queryString = queryParams.toString();",
  "    if (queryString) \x7b",
  "      requestUrl += '?' + queryString;",
  "    \x7d"]

/-- Put the body into bytes. -/
def encodeLine (b : Payload) : String :=
  match b.encoding with
  | .json => "      requestBody = JSON.stringify(" ++ b.argument.ident ++ ");"
  | .form => "      requestBody = new URLSearchParams(" ++ b.argument.ident ++ ").toString();"
  | .raw => "      requestBody = String(" ++ b.argument.ident ++ ");"

/-- The line that sends the request, with the name of the body. -/
def sendLine (m : MethodPlan) (body : String) : String :=
  "    return this.requestHandler.makeRequest(" ++ literal m.verb.name ++ ", requestUrl, " ++ body ++
    ", headers);"

/-- Make the body and send the request. -/
def sendLines (m : MethodPlan) : List String :=
  match m.body with
  | none => [sendLine m "undefined"]
  | some b => [
  "    let requestBody;",
  "    if (" ++ b.argument.ident ++ " !== undefined && " ++ b.argument.ident ++ " !== null) \x7b",
  encodeLine b,
  "      headers['Content-Type'] = " ++ literal b.mediaType ++ ";",
  "    \x7d",
  sendLine m "requestBody"]

/-- A method. -/
def method (m : MethodPlan) : List String :=
  "" :: documentation m ++ signature m :: pathLines m ++
    "    let requestUrl = this.config.baseUrl + requestPath;" :: queryLines m ++
    "    const headers = this.authHandler.getAuthHeaders();" :: sendLines m ++ ["  \x7d"]

/-- The lines after the methods. -/
def closing : List String := [
  "",
  "  /**",
  "   * Check that the API answers at its base URL.",
  "   * @returns \x7bPromise<boolean>\x7d true when GET / succeeds",
  "   */",
  "  async testConnection() \x7b",
  "    try \x7b",
  "      await this.requestHandler.makeRequest('GET', this.config.baseUrl + '/', undefined, this.authHandler.getAuthHeaders());",
  "      return true;",
  "    \x7d catch (error) \x7b",
  "      return false;",
  "    \x7d",
  "  \x7d",
  "\x7d",
  "",
  "module.exports = ApiClient;"]

/-- The file of the client class. -/
def clientFile (p : ClientPlan) : Artifact :=
  ⟨"src/ApiClient.js", opening p ++ p.methods.flatMap method ++ closing⟩

end ClientForge.Client.Node
