import ClientForge.Client.Artifact
import ClientForge.Client.Setting

/-!
The example of an environment file (the template `env.example`): the settings of a client and what they are
set to.
-/

namespace ClientForge.Environment

/-- A setting and what it is set to. -/
def assignment (s : Setting) (value : String) : String := s.variable ++ "=" ++ value

/-- The lines for a kind of authentication. -/
def authLines : Scheme → List String
  | .none => []
  | .bearer _ => [
    "",
    "# Bearer token (" ++ Setting.apiKey.variable ++ " is used first when both are set)",
    assignment .bearerToken "your-bearer-token"]
  | .apiKey header _ => [
    "",
    "# API key, sent in the " ++ header.oneLine ++ " header",
    assignment .apiKey "your-api-key",
    assignment .authHeaderName header.oneLine]
  | .basic _ => [
    "",
    "# Basic authentication",
    assignment .username "your-username",
    assignment .password "your-password"]
  | .oauth2 _ => [
    "",
    "# OAuth 2.0 access token",
    assignment .accessToken "your-access-token"]

/-- The environment file of a client. -/
def file (p : ClientPlan) : Artifact := ⟨".env.example", [
  "# " ++ p.title.oneLine ++ " API configuration",
  "# Authentication type: " ++ p.scheme.kind,
  "",
  assignment .baseUrl (firstFilled [p.baseUrl] Setting.exampleUrl).oneLine,
  assignment .timeout Setting.defaultTimeout,
  assignment .maxRetries Setting.defaultRetries,
  assignment .authType p.scheme.kind] ++ authLines p.scheme⟩

end ClientForge.Environment
