import ClientForge.Client.Environment
import ClientForge.Client.Php.Client

/-!
A project in PHP: its manifest, its tests, an example of usage (the templates `composer.json`,
`ApiClientTest.php`, `basic-usage.php`), and all files in order.
-/

namespace ClientForge.Client.Php

/-- The manifest. -/
def manifestFile (p : ClientPlan) : Artifact := ⟨"composer.json", [
  "\x7b",
  "    \"name\": " ++ Json.literal ("example/" ++ p.slug ++ "-integration") ++ ",",
  "    \"description\": " ++ Json.literal ("Generated integration client for " ++ p.title) ++ ",",
  "    \"type\": \"library\",",
  "    \"require\": \x7b",
  "        \"php\": \">=7.4\",",
  "        \"guzzlehttp/guzzle\": \"^7.8\",",
  "        \"vlucas/phpdotenv\": \"^5.6\"",
  "    \x7d,",
  "    \"require-dev\": \x7b",
  "        \"phpunit/phpunit\": \"^9.6\"",
  "    \x7d,",
  "    \"autoload\": \x7b",
  "        \"psr-4\": \x7b",
  "            \"ApiClient\\\\\": \"src/\"",
  "        \x7d",
  "    \x7d,",
  "    \"autoload-dev\": \x7b",
  "        \"psr-4\": \x7b",
  "            \"ApiClient\\\\Tests\\\\\": \"tests/\"",
  "        \x7d",
  "    \x7d,",
  "    \"scripts\": \x7b",
  "        \"test\": \"phpunit tests\"",
  "    \x7d",
  "\x7d"]⟩

/-- The lines of the test of a method before the call. -/
def testOpening (m : MethodPlan) : List String :=
  "" :: m.testComment .php "    //" ++ [
  "    public function test" ++ .ofList (capitalize m.name.toList) ++ "(): void",
  "    \x7b",
  "        $this->markTestSkipped('stub: point the client at a test server and assert on the response');"]

/-- The test of a method. -/
def methodTest (m : MethodPlan) : List String := testOpening m ++ [
  "        $this->assertNotNull($this->client->" ++ m.call .php ++ ");",
  "    \x7d"]

/-- The file of the tests. -/
def testFile (p : ClientPlan) : Artifact := ⟨"tests/ApiClientTest.php", [
  "<?php",
  "",
  "namespace ApiClient\\Tests;",
  "",
  "use ApiClient\\ApiClient;",
  "use ApiClient\\Config\\Config;",
  "use PHPUnit\\Framework\\TestCase;",
  "",
  "class ApiClientTest extends TestCase",
  "\x7b",
  "    private ApiClient $client;",
  "",
  "    protected function setUp(): void",
  "    \x7b",
  "        $this->client = new ApiClient(new Config(['baseUrl' => 'http://localhost:8080', 'maxRetries' => 1]));",
  "    \x7d",
  "",
  "    public function test_client_is_constructed(): void",
  "    \x7b",
  "        $this->assertInstanceOf(ApiClient::class, $this->client);",
  "    \x7d"] ++ p.methods.flatMap methodTest ++ ["\x7d"]⟩

/-- The usage of a method. -/
def methodUsage (m : MethodPlan) (number : Nat) : List String :=
  let result := "$result" ++ toString number
  [
  "",
  "// " ++ comment m.summary,
  result ++ " = $client->" ++ m.call .php ++ ";",
  "echo " ++ literal (m.name ++ ": ") ++ " . " ++ result ++ "->statusCode . ' ' . " ++ result ++
    "->body . PHP_EOL;"]

/-- The file of an example of usage. -/
def usageFile (p : ClientPlan) : Artifact := ⟨"examples/basic-usage.php", [
  "<?php",
  "",
  "require __DIR__ . '/../vendor/autoload.php';",
  "",
  "use ApiClient\\ApiClient;",
  "use ApiClient\\Config\\Config;",
  "",
  "// Settings come from the environment or ../.env; see .env.example.",
  "$client = new ApiClient(Config::fromEnv(__DIR__ . '/..'));",
  "echo 'Connected: ' . ($client->testConnection() ? 'yes' : 'no') . PHP_EOL;"] ++ p.shown.flatMap (fun (m, number) => methodUsage m number)⟩

/-- The files of the project. -/
def files (p : ClientPlan) : List Artifact := [
  manifestFile p, clientFile p, modelFile, authFile, requestFile, errorFile, configFile p, testFile p,
  usageFile p, Environment.file p]

end ClientForge.Client.Php
