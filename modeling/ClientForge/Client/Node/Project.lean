import ClientForge.Client.Environment
import ClientForge.Client.Node.Client

/-!
A project in JavaScript: its manifest, its tests, an example of usage (the templates `package.json`,
`ApiClient.test.js`, `basic-usage.js`), and all files in order.
-/

namespace ClientForge.Client.Node

/-- The manifest. -/
def manifestFile (p : ClientPlan) : Artifact := ⟨"package.json", [
  "\x7b",
  "  \"name\": " ++ Json.literal (p.slug ++ "-integration") ++ ",",
  "  \"version\": \"1.0.0\",",
  "  \"description\": " ++ Json.literal ("Generated integration client for " ++ p.title) ++ ",",
  "  \"main\": \"src/ApiClient.js\",",
  "  \"scripts\": \x7b",
  "    \"start\": \"node examples/basic-usage.js\",",
  "    \"test\": \"jest\"",
  "  \x7d,",
  "  \"dependencies\": \x7b",
  "    \"axios\": \"^1.6.0\",",
  "    \"dotenv\": \"^16.3.1\"",
  "  \x7d,",
  "  \"devDependencies\": \x7b",
  "    \"jest\": \"^29.7.0\"",
  "  \x7d",
  "\x7d"]⟩

/-- The lines of the test of a method before the call. -/
def testOpening (m : MethodPlan) : List String :=
  "" :: m.testComment .node "  //" ++ ["  test.skip(" ++ literal m.name ++ ", async () => \x7b"]

/-- The test of a method. -/
def methodTest (m : MethodPlan) : List String := testOpening m ++ [
  "    const response = await client." ++ m.call .node ++ ";",
  "    expect(response.status).toBeLessThan(400);",
  "  \x7d);"]

/-- The file of the tests. -/
def testFile (p : ClientPlan) : Artifact := ⟨"tests/ApiClient.test.js", [
  "const ApiClient = require('../src/ApiClient');",
  "",
  "describe('ApiClient', () => \x7b",
  "  let client;",
  "",
  "  beforeEach(() => \x7b",
  "    client = new ApiClient(\x7b baseUrl: 'http://localhost:3000', authType: 'none', maxRetries: 1 \x7d);",
  "  \x7d);",
  "",
  "  test('builds a client', () => \x7b",
  "    expect(client).toBeInstanceOf(ApiClient);",
  "  \x7d);"] ++ p.methods.flatMap methodTest ++ ["\x7d);"]⟩

/-- The usage of a method. -/
def methodUsage (m : MethodPlan) (number : Nat) : List String :=
  let result := "result" ++ toString number
  [
  "",
  "  // " ++ comment m.summary,
  "  const " ++ result ++ " = await client." ++ m.call .node ++ ";",
  "  console.log(" ++ literal (m.name ++ ":") ++ ", " ++ result ++ ".status, " ++ result ++ ".data);"]

/-- The file of an example of usage. -/
def usageFile (p : ClientPlan) : Artifact := ⟨"examples/basic-usage.js", [
  "require('dotenv').config();",
  "const ApiClient = require('../src/ApiClient');",
  "",
  "async function main() \x7b",
  "  const client = new ApiClient();",
  "",
  "  const connected = await client.testConnection();",
  "  console.log('Connected:', connected);"] ++ p.shown.flatMap (fun (m, number) => methodUsage m number) ++ [
  "\x7d",
  "",
  "main().catch((error) => \x7b",
  "  console.error(error.message);",
  "  process.exit(1);",
  "\x7d);"]⟩

/-- The files of the project. -/
def files (p : ClientPlan) : List Artifact := [
  manifestFile p, clientFile p, authFile, requestFile, errorFile, configFile p, testFile p, usageFile p,
  Environment.file p]

end ClientForge.Client.Node
