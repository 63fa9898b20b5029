import ClientForge.Client.Environment
import ClientForge.Client.Python.Client

/-!
A project in Python: its manifest, its tests, an example of usage (the templates `pyproject.toml`,
`test_client.py`, `basic_usage.py`), and all files in order.
-/

namespace ClientForge.Client.Python

/-- The manifest. -/
def manifestFile (p : ClientPlan) : Artifact := ⟨"pyproject.toml", [
  "[build-system]",
  "requires = [\"setuptools>=68.0\"]",
  "build-backend = \"setuptools.build_meta\"",
  "",
  "[project]",
  "name = " ++ Json.literal (p.slug ++ "-integration"),
  "version = \"1.0.0\"",
  "description = " ++ Json.literal ("Generated integration client for " ++ p.title),
  "requires-python = \">=3.10\"",
  "dependencies = [",
  "    \"requests>=2.31\",",
  "    \"python-dotenv>=1.0\",",
  "]",
  "",
  "[project.optional-dependencies]",
  "test = [",
  "    \"pytest>=8.0\",",
  "]",
  "",
  "[tool.setuptools.packages.find]",
  "where = [\"src\"]",
  "",
  "[tool.pytest.ini_options]",
  "pythonpath = [\"src\"]",
  "testpaths = [\"tests\"]"]⟩

/-- The lines of the test of a method before the call. -/
def testOpening (m : MethodPlan) : List String :=
  "" :: "" :: m.testComment .python "#" ++ [
  "@pytest.mark.skip(reason=\"stub: point the client at a test server and assert on the response\")",
  "def test_" ++ m.name ++ "(client):"]

/-- The test of a method. -/
def methodTest (m : MethodPlan) : List String := testOpening m ++ [
  "    result = client." ++ m.call .python,
  "    assert result is not None"]

/-- The file of the tests. -/
def testFile (p : ClientPlan) : Artifact := ⟨"tests/test_client.py", [
  "import pytest",
  "",
  "from api_client import ApiClient, Config",
  "",
  "",
  "@pytest.fixture",
  "def client():",
  "    return ApiClient(Config(base_url=\"http://localhost:8000\", max_retries=1))",
  "",
  "",
  "def test_client_uses_given_config(client):",
  "    assert client.config.base_url == \"http://localhost:8000\""] ++ p.methods.flatMap methodTest⟩

/-- The usage of a method. -/
def methodUsage (m : MethodPlan) : List String := [
  "",
  "    # " ++ comment m.summary,
  "    result = client." ++ m.call .python,
  "    print(" ++ literal (m.name ++ ":") ++ ", result)"]

/-- The file of an example of usage. -/
def usageFile (p : ClientPlan) : Artifact := ⟨"examples/basic_usage.py", [
  "\"\"\"Example usage of the " ++ comment p.title ++ " API client.",
  "",
  "Settings come from the environment or a .env file; see .env.example.",
  "\"\"\"",
  "",
  "from api_client import ApiClient",
  "",
  "",
  "def main():",
  "    client = ApiClient()",
  "    print(\"Connected:\", client.test_connection())"] ++ p.shown.flatMap (fun (m, _) => methodUsage m) ++ [
  "",
  "",
  "if __name__ == \"__main__\":",
  "    main()"]⟩

/-- The files of the project. -/
def files (p : ClientPlan) : List Artifact := [
  manifestFile p, packageFile p, clientFile p, authFile, requestFile, errorFile, configFile p, testFile p,
  usageFile p, Environment.file p]

end ClientForge.Client.Python
