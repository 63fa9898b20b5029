import ClientForge.Client.Python.Support

/-!
The client class in Python (the template `client.py`): one method per endpoint.
-/

namespace ClientForge.Client.Python

/-- Does some method send a body as JSON? -/
def sendsJson (p : ClientPlan) : Bool :=
  p.methods.any fun m => (m.body.map (·.encoding)) == some .json

/-- The lines before the methods. -/
def opening (p : ClientPlan) : List String := [
  "\"\"\"" ++ comment p.title ++ " API client.\"\"\"",
  ""] ++ (if sendsJson p then ["import json"] else []) ++ [
  "from urllib.parse import urlencode",
  "",
  "import requests",
  "",
  "from .auth import AuthHandler",
  "from .config import Config",
  "from .errors import ApiError, ConfigurationError",
  "from .request import RequestHandler",
  "",
  "",
  "class ApiClient:",
  "    \"\"\"Client with one method per API operation."] ++ (if p.description.isEmpty then [] else [
  "",
  "    " ++ comment p.description]) ++ [
  "    \"\"\"",
  "",
  "    def __init__(self, config: Config | None = None, session: requests.Session | None = None):",
  "        self.config = config or Config.from_env()",
  "        self.auth_handler = AuthHandler(self.config)",
  "        self.request_handler = RequestHandler(self.config, session=session)"]

/-! ## Methods -/

/-- An argument in the signature. All but those in the path may be left out. -/
def parameter (a : Argument) : String :=
  match a.place with
  | .path => ", " ++ a.ident
  | _ => ", " ++ a.ident ++ "=None"

/-- The line that opens a method. -/
def signature (m : MethodPlan) : String :=
  "    def " ++ m.name ++ "(self" ++ String.join (m.arguments.map parameter) ++ "):"

/-- The text under a signature. -/
def documentation (m : MethodPlan) : List String := [
  "        \"\"\"" ++ comment m.summary,
  "",
  "        " ++ m.route .python,
  "        \"\"\""]

/-- Put the arguments into the path. -/
def pathLines (m : MethodPlan) : List String :=
  ("        request_path = " ++ literal m.path) :: m.pathArgs.map fun a =>
    "        request_path = request_path.replace(" ++ literal (inBraces a.name) ++ ", str(" ++ a.ident ++ "))"

/-- An argument as an entry of the query. -/
def queryEntry (a : Argument) : String := "            " ++ literal a.name ++ ": " ++ a.ident ++ ","

/-- Put the arguments into the query. -/
def queryLines (m : MethodPlan) : List String :=
  if m.queryArgs.isEmpty then []
  else ["        query_params = \x7b"] ++ m.queryArgs.map queryEntry ++ [
  "        \x7d",
  "        query_params = \x7bk: v for k, v in query_params.items() if v is not None and v != \"\"\x7d",
  "        if query_params:",
  "            request_url += \"?\" + urlencode(query_params)"]

/-- Put the body into bytes. -/
def encodeLine (b : Payload) : String :=
  match b.encoding with
  | .json => "            request_body = json.dumps(" ++ b.argument.ident ++ ")"
  | .form => "            request_body = urlencode(" ++ b.argument.ident ++ ")"
  | .raw => "            request_body = str(" ++ b.argument.ident ++ ")"

/-- The line that sends the request, with the name of the body. -/
def sendLine (m : MethodPlan) (body : String) : String :=
  "        return self.request_handler.make_request(" ++ literal m.verb.name ++ ", request_url, " ++ body ++
    ", headers)"

/-- Make the body and send the request. -/
def sendLines (m : MethodPlan) : List String :=
  match m.body with
  | none => [sendLine m "None"]
  | some b => [
  "        request_body = None",
  "        if " ++ b.argument.ident ++ " is not None:",
  encodeLine b,
  "            headers[\"Content-Type\"] = " ++ literal b.mediaType,
  sendLine m "request_body"]

/-- A method. -/
def method (m : MethodPlan) : List String :=
  "" :: signature m :: documentation m ++ pathLines m ++
    "        request_url = self.config.base_url + request_path" :: queryLines m ++
    "        headers = self.auth_handler.get_auth_headers()" :: sendLines m

/-- The lines after the methods. -/
def closing : List String := [
  "",
  "    def test_connection(self) -> bool:",
  "        \"\"\"Return True when GET / on the base URL succeeds.\"\"\"",
  "        try:",
  "            self.request_handler.make_request(\"GET\", self.config.base_url + \"/\", None, self.auth_handler.get_auth_headers())",
  "        except (ApiError, ConfigurationError, requests.RequestException):",
  "            return False",
  "        return True"]

/-- The file of the client class. -/
def clientFile (p : ClientPlan) : Artifact :=
  ⟨"src/api_client/client.py", opening p ++ p.methods.flatMap method ++ closing⟩

end ClientForge.Client.Python
