import ClientForge.Client.Php.Support

/-!
The client class in PHP (the template `ApiClient.php`): one method per endpoint.
-/

namespace ClientForge.Client.Php

/-- The lines before the methods. -/
def opening (p : ClientPlan) : List String := [
  "<?php",
  "",
  "namespace ApiClient;",
  "",
  "use ApiClient\\Auth\\AuthHandler;",
  "use ApiClient\\Config\\Config;",
  "use ApiClient\\Models\\ApiResponse;",
  "use ApiClient\\Utils\\RequestHandler;",
  "",
  "/**",
  " * " ++ comment p.title ++ " API client."] ++ (if p.description.isEmpty then [] else [
  " *",
  " * " ++ comment p.description]) ++ [
  " */",
  "class ApiClient",
  "\x7b",
  "    private Config $config;",
  "    private AuthHandler $authHandler;",
  "    private RequestHandler $requestHandler;",
  "",
  "    public function __construct(?Config $config = null, ?RequestHandler $requestHandler = null)",
  "    \x7b",
  "        $this->config = $config ?? Config::fromEnv();",
  "        $this->authHandler = new AuthHandler($this->config);",
  "        $this->requestHandler = $requestHandler ?? new RequestHandler($this->config);",
  "    \x7d"]

/-! ## Methods -/

/-- An argument in the signature. All but those in the path may be left out. -/
def parameter (a : Argument) : String :=
  match a.place with
  | .path => "string $" ++ a.ident
  | _ => "$" ++ a.ident ++ " = null"

/-- The comment over a method. -/
def documentation (m : MethodPlan) : List String := [
  "    /**",
  "     * " ++ comment m.summary,
  "     *",
  "     * " ++ m.route .php,
  "     */"]

/-- The line with the signature of a method. -/
def signature (m : MethodPlan) : String :=
  "    public function " ++ m.name ++ "(" ++ commas (m.arguments.map parameter) ++ "): ApiResponse"

/-- Put the arguments into the path. -/
def pathLines (m : MethodPlan) : List String :=
  ("        $requestPath = " ++ literal m.path ++ ";") :: m.pathArgs.map fun a =>
    "        $requestPath = str_replace(" ++ literal (inBraces a.name) ++ ", $" ++ a.ident ++ ", $requestPath);"

/-- An argument as an entry of the query. -/
def queryEntry (a : Argument) : String := "            " ++ literal a.name ++ " => $" ++ a.ident ++ ","

/-- Put the arguments into the query, and both into the address. -/
def queryLines (m : MethodPlan) : List String :=
  if m.queryArgs.isEmpty then ["        $requestUrl = $this->config->baseUrl . $requestPath;"]
  else "        $queryParams = [" :: m.queryArgs.map queryEntry ++ [
  "        ];",
  "        $requestUrl = $this->config->baseUrl . $requestPath . RequestHandler::buildQueryString($queryParams);"]

/-- Put the body into bytes. -/
def encodeLine (b : Payload) : String :=
  match b.encoding with
  | .json => "            $requestBody = json_encode($" ++ b.argument.ident ++ ", JSON_THROW_ON_ERROR);"
  | .form => "            $requestBody = http_build_query($" ++ b.argument.ident ++ ");"
  | .raw => "            $requestBody = (string) $" ++ b.argument.ident ++ ";"

/-- The line that sends the request, with the name of the body. -/
def sendLine (m : MethodPlan) (body : String) : String :=
  "        return $this->requestHandler->makeRequest(" ++ literal m.verb.name ++ ", $requestUrl, " ++ body ++
    ", $headers);"

/-- Make the body and send the request. -/
def sendLines (m : MethodPlan) : List String :=
  match m.body with
  | none => [sendLine m "null"]
  | some b => [
  "        $requestBody = null;",
  "        if ($" ++ b.argument.ident ++ " !== null) \x7b",
  encodeLine b,
  "            $headers['Content-Type'] = " ++ literal b.mediaType ++ ";",
  "        \x7d",
  sendLine m "$requestBody"]

/-- A method. -/
def method (m : MethodPlan) : List String :=
  "" :: documentation m ++ signature m :: "    \x7b" :: pathLines m ++ queryLines m ++
    "        $headers = $this->authHandler->getAuthHeaders();" :: sendLines m ++ ["    \x7d"]

/-- The lines after the methods. -/
def closing : List String := [
  "",
  "    /**",
  "     * True when GET / on the base URL succeeds.",
  "     */",
  "    public function testConnection(): bool",
  "    \x7b",
  "        try \x7b",
  "            $this->requestHandler->makeRequest('GET', $this->config->baseUrl . '/', null, $this->authHandler->getAuthHeaders());",
  "            return true;",
  "        \x7d catch (\\Throwable $e) \x7b",
  "            return false;",
  "        \x7d",
  "    \x7d",
  "\x7d"]

/-- The file of the client class. -/
def clientFile (p : ClientPlan) : Artifact :=
  ⟨"src/ApiClient.php", opening p ++ p.methods.flatMap method ++ closing⟩

end ClientForge.Client.Php
