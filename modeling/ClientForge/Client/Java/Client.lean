import ClientForge.Client.Java.Support

/-!
The client class in Java (the template `ApiClient.java`): one method per endpoint.
-/

namespace ClientForge.Client.Java

/-- The lines before the methods. -/
def opening (p : ClientPlan) : List String := [
  "package com.example;",
  "",
  "import com.example.auth.AuthHandler;",
  "import com.example.config.Config;",
  "import com.example.models.ApiResponse;",
  "import com.example.utils.RequestHandler;",
  "import java.io.IOException;",
  "import java.util.LinkedHashMap;",
  "import java.util.Map;",
  "",
  "/**",
  " * " ++ comment p.title ++ " API client."] ++ (if p.description.isEmpty then [] else [
  " *",
  " * <p>" ++ comment p.description]) ++ [
  " */",
  "public class ApiClient \x7b",
  "    private final Config config;",
  "    private final AuthHandler authHandler;",
  "    private final RequestHandler requestHandler;",
  "",
  "    public ApiClient() \x7b",
  "        this(Config.fromEnv());",
  "    \x7d",
  "",
  "    public ApiClient(Config config) \x7b",
  "        this(config, new RequestHandler(config));",
  "    \x7d",
  "",
  "    public ApiClient(Config config, RequestHandler requestHandler) \x7b",
  "        this.config = config;",
  "        this.authHandler = new AuthHandler(config);",
  "        this.requestHandler = requestHandler;",
  "    \x7d"]

/-! ## Methods -/

/-- An argument in the signature. -/
def parameter (a : Argument) : String :=
  (if a.place = .body then "Object" else "String") ++ " " ++ a.ident

/-- The comment over a method. -/
def documentation (m : MethodPlan) : List String := [
  "    /**",
  "     * " ++ comment m.summary,
  "     *",
  "     * <p>" ++ m.route .java,
  "     */"]

/-- The line that opens a method. -/
def signature (m : MethodPlan) : String :=
  "    public ApiResponse " ++ m.name ++ "(" ++ commas (m.arguments.map parameter) ++
    ") throws IOException \x7b"

/-- Put the arguments into the path. -/
def pathLines (m : MethodPlan) : List String :=
  ("        String requestPath = " ++ literal m.path ++ ";") :: m.pathArgs.map fun a =>
    "        requestPath = requestPath.replace(" ++ literal (inBraces a.name) ++ ", String.valueOf(" ++ a.ident ++
      "));"

/-- An argument as an entry of the query. -/
def queryEntry (a : Argument) : String :=
  "        queryParams.put(" ++ literal a.name ++ ", " ++ a.ident ++ ");"

/-- Put the arguments into the query, and both into the address. -/
def queryLines (m : MethodPlan) : List String :=
  if m.queryArgs.isEmpty then ["        String requestUrl = config.getBaseUrl() + requestPath;"]
  else "        Map<String, String> queryParams = new LinkedHashMap<>();" :: m.queryArgs.map queryEntry ++
    ["        String requestUrl = config.getBaseUrl() + requestPath + RequestHandler.buildQueryString(queryParams);"]

/-- Put the body into bytes. -/
def encodeLine (b : Payload) : String :=
  match b.encoding with
  | .json => "            requestBody = RequestHandler.encodeJson(" ++ b.argument.ident ++ ");"
  | .form => "            requestBody = RequestHandler.encodeForm(" ++ b.argument.ident ++ ");"
  | .raw => "            requestBody = String.valueOf(" ++ b.argument.ident ++ ");"

/-- The line that sends the request, with the name of the body. -/
def sendLine (m : MethodPlan) (body : String) : String :=
  "        return requestHandler.makeRequest(" ++ literal m.verb.name ++ ", requestUrl, " ++ body ++ ", headers);"

/-- Make the body and send the request. -/
def sendLines (m : MethodPlan) : List String :=
  match m.body with
  | none => [sendLine m "null"]
  | some b => [
  "        String requestBody = null;",
  "        if (" ++ b.argument.ident ++ " != null) \x7b",
  encodeLine b,
  "            headers.put(\"Content-Type\", " ++ literal b.mediaType ++ ");",
  "        \x7d",
  sendLine m "requestBody"]

/-- A method. -/
def method (m : MethodPlan) : List String :=
  "" :: documentation m ++ signature m :: pathLines m ++ queryLines m ++
    "        Map<String, String> headers = authHandler.getAuthHeaders();" :: sendLines m ++ ["    \x7d"]

/-- The lines after the methods. -/
def closing : List String := [
  "",
  "    /**",
  "     * @return true when GET / on the base URL succeeds",
  "     */",
  "    public boolean testConnection() \x7b",
  "        try \x7b",
  "            requestHandler.makeRequest(\"GET\", config.getBaseUrl() + \"/\", null, authHandler.getAuthHeaders());",
  "            return true;",
  "        \x7d catch (IOException | RuntimeException e) \x7b",
  "            return false;",
  "        \x7d",
  "    \x7d",
  "\x7d"]

/-- The file of the client class. -/
def clientFile (p : ClientPlan) : Artifact :=
  ⟨sources ++ "ApiClient.java", opening p ++ p.methods.flatMap method ++ closing⟩

end ClientForge.Client.Java
