import ClientForge.Client.Environment
import ClientForge.Client.Go.Client

/-!
A project in Go: its manifest, its tests, an example of usage (the templates `go.mod`, `client_test.go`,
`main.go`), and all files in order.
-/

namespace ClientForge.Client.Go

/-- The manifest. -/
def manifestFile (p : ClientPlan) : Artifact := ⟨"go.mod", [
  "module " ++ p.slug ++ "-integration",
  "",
  "go 1.21",
  "",
  "require github.com/joho/godotenv v1.5.1"]⟩

/-- The lines of the test of a method before the call. -/
def testOpening (m : MethodPlan) : List String :=
  "" :: m.testComment .go "//" ++ [
  "func Test" ++ m.name ++ "(t *testing.T) \x7b",
  "\tt.Skip(\"stub: point the client at a test server and assert on the response\")",
  "\tclient := newTestClient()"]

/-- The test of a method. -/
def methodTest (m : MethodPlan) : List String := testOpening m ++ [
  "\tif _, err := client." ++ m.call .go ++ "; err != nil \x7b",
  "\t\tt.Fatal(err)",
  "\t\x7d",
  "\x7d"]

/-- The file of the tests. -/
def testFile (p : ClientPlan) : Artifact := ⟨"client_test.go", [
  "package apiclient",
  "",
  "import \"testing\"",
  "",
  "func newTestClient() *Client \x7b",
  "\treturn NewClient(&Config\x7bBaseURL: \"http://localhost:8080\", Timeout: 1000, MaxRetries: 1, AuthType: \"none\"\x7d)",
  "\x7d",
  "",
  "func TestClient_Construction(t *testing.T) \x7b",
  "\tif newTestClient() == nil \x7b",
  "\t\tt.Fatal(\"expected a client\")",
  "\t\x7d",
  "\x7d"] ++ p.methods.flatMap methodTest⟩

/-- The usage of a method. -/
def methodUsage (m : MethodPlan) (number : Nat) : List String :=
  let result := "result" ++ toString number
  [
  "",
  "\t// " ++ comment m.summary,
  "\t" ++ result ++ ", err := client." ++ m.call .go,
  "\tif err != nil \x7b",
  "\t\tlog.Fatal(err)",
  "\t\x7d",
  "\tfmt.Println(" ++ literal (m.name ++ ":") ++ ", " ++ result ++ ".StatusCode, string(" ++ result ++ ".Body))"]

/-- The file of an example of usage. -/
def usageFile (p : ClientPlan) : Artifact := ⟨"example/main.go", [
  "package main",
  "",
  "import (",
  "\t\"fmt\"",
  "\t\"log\"",
  "",
  "\tapiclient \"" ++ p.slug ++ "-integration\"",
  ")",
  "",
  "func main() \x7b",
  "\tconfig, err := apiclient.LoadConfig()",
  "\tif err != nil \x7b",
  "\t\tlog.Fatal(err)",
  "\t\x7d",
  "\tclient := apiclient.NewClient(config)",
  "\tfmt.Println(\"Connected:\", client.TestConnection())"] ++ p.shown.flatMap (fun (m, number) => methodUsage m number) ++ ["\x7d"]⟩

/-- The files of the project. -/
def files (p : ClientPlan) : List Artifact := [
  manifestFile p, clientFile p, modelFile, authFile, requestFile, errorFile, configFile p, testFile p,
  usageFile p, Environment.file p]

end ClientForge.Client.Go
