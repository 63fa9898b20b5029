import ClientForge.Client.Environment
import ClientForge.Client.Java.Client

/-!
A project in Java: its manifest, its tests, an example of usage (the templates `pom.xml`, `ApiClientTest.java`,
`ExampleUsage.java`), and all files in order.
-/

namespace ClientForge.Client.Java

/-- One character in the text of an XML document. -/
def escapeMarkupChar (c : Char) : List Char :=
  if c = '&' then "&amp;".toList
  else if c = '<' then "&lt;".toList
  else if c = '>' then "&gt;".toList
  else if c = '"' then "&#34;".toList
  else if c = '\'' then "&#39;".toList
  else [c]

/-- A text as it stands in an XML document. -/
def escapeMarkup (s : String) : String := .ofList (s.toList.flatMap escapeMarkupChar)

/-- The manifest. -/
def manifestFile (p : ClientPlan) : Artifact := ⟨"pom.xml", [
  "<?xml version=\"1.0\" encoding=\"UTF-8\"?>",
  "<project xmlns=\"http://maven.apache.org/POM/4.0.0\"",
  "         xmlns:xsi=\"http://www.w3.org/2001/XMLSchema-instance\"",
  "         xsi:schemaLocation=\"http://maven.apache.org/POM/4.0.0 http://maven.apache.org/xsd/maven-4.0.0.xsd\">",
  "    <modelVersion>4.0.0</modelVersion>",
  "",
  "    <groupId>com.example</groupId>",
  "    <artifactId>" ++ p.slug ++ "-integration</artifactId>",
  "    <version>1.0.0</version>",
  "    <packaging>jar</packaging>",
  "",
  "    <name>" ++ escapeMarkup p.title ++ " Integration</name>",
  "    <description>Generated integration client for " ++ escapeMarkup p.title ++ "</description>",
  "",
  "    <properties>",
  "        <maven.compiler.source>11</maven.compiler.source>",
  "        <maven.compiler.target>11</maven.compiler.target>",
  "        <project.build.sourceEncoding>UTF-8</project.build.sourceEncoding>",
  "    </properties>",
  "",
  "    <dependencies>",
  "        <dependency>",
  "            <groupId>com.squareup.okhttp3</groupId>",
  "            <artifactId>okhttp</artifactId>",
  "            <version>4.12.0</version>",
  "        </dependency>",
  "        <dependency>",
  "            <groupId>com.fasterxml.jackson.core</groupId>",
  "            <artifactId>jackson-databind</artifactId>",
  "            <version>2.17.1</version>",
  "        </dependency>",
  "        <dependency>",
  "            <groupId>org.junit.jupiter</groupId>",
  "            <artifactId>junit-jupiter</artifactId>",
  "            <version>5.10.2</version>",
  "            <scope>test</scope>",
  "        </dependency>",
  "    </dependencies>",
  "",
  "    <build>",
  "        <plugins>",
  "            <plugin>",
  "                <groupId>org.apache.maven.plugins</groupId>",
  "                <artifactId>maven-surefire-plugin</artifactId>",
  "                <version>3.2.5</version>",
  "            </plugin>",
  "        </plugins>",
  "    </build>",
  "</project>"]⟩

/-- The lines of the test of a method before the call. -/
def testOpening (m : MethodPlan) : List String :=
  "" :: m.testComment .java "    //" ++ [
  "    @Test",
  "    @Disabled(\"stub: point the client at a test server and assert on the response\")",
  "    void test" ++ .ofList (capitalize m.name.toList) ++ "() throws Exception \x7b"]

/-- The test of a method. -/
def methodTest (m : MethodPlan) : List String := testOpening m ++ [
  "        assertNotNull(client." ++ m.call .java ++ ");",
  "    \x7d"]

/-- The file of the tests. -/
def testFile (p : ClientPlan) : Artifact := ⟨"src/test/java/com/example/ApiClientTest.java", [
  "package com.example;",
  "",
  "import static org.junit.jupiter.api.Assertions.assertNotNull;",
  "",
  "import com.example.config.Config;",
  "import org.junit.jupiter.api.BeforeEach;",
  "import org.junit.jupiter.api.Disabled;",
  "import org.junit.jupiter.api.Test;",
  "",
  "class ApiClientTest \x7b",
  "    private ApiClient client;",
  "",
  "    @BeforeEach",
  "    void setUp() \x7b",
  "        client = new ApiClient(new Config().setBaseUrl(\"http://localhost:8080\").setMaxRetries(1));",
  "    \x7d",
  "",
  "    @Test",
  "    void constructsClient() \x7b",
  "        assertNotNull(client);",
  "    \x7d"] ++ p.methods.flatMap methodTest ++ ["\x7d"]⟩

/-- The usage of a method. -/
def methodUsage (m : MethodPlan) (number : Nat) : List String :=
  let result := "result" ++ toString number
  [
  "",
  "        // " ++ comment m.summary,
  "        ApiResponse " ++ result ++ " = client." ++ m.call .java ++ ";",
  "        System.out.println(" ++ literal (m.name ++ ": ") ++ " + " ++ result ++ ".getStatusCode() + \" \" + " ++
    result ++ ".getBody());"]

/-- The file of an example of usage. -/
def usageFile (p : ClientPlan) : Artifact := ⟨sources ++ "ExampleUsage.java", [
  "package com.example;",
  "",
  "import com.example.config.Config;"] ++ (if p.methods.isEmpty then [] else [
  "import com.example.models.ApiResponse;"]) ++ [
  "",
  "/**",
  " * Example usage of the " ++ comment p.title ++ " API client. Settings come",
  " * from the environment; see .env.example.",
  " */",
  "public class ExampleUsage \x7b",
  "    public static void main(String[] args) throws Exception \x7b",
  "        ApiClient client = new ApiClient(Config.fromEnv());",
  "        System.out.println(\"Connected: \" + client.testConnection());"] ++ p.shown.flatMap (fun (m, number) => methodUsage m number) ++ [
  "    \x7d",
  "\x7d"]⟩

/-- The files of the project. -/
def files (p : ClientPlan) : List Artifact := [
  manifestFile p, clientFile p, modelFile, authFile, requestFile, errorFile, configFile p, testFile p,
  usageFile p, Environment.file p]

end ClientForge.Client.Java
