import ClientForge.Client.Artifact
import ClientForge.Client.Setting

/-!
The parts of a client in Python that are the same for every API, but for its address and its title:
the package, authentication, sending requests, errors and settings.
-/

namespace ClientForge.Client.Python

abbrev literal (s : String) : String := Target.python.literal s
abbrev comment (s : String) : String := Target.python.comment s

/-- The file of the package. -/
def packageFile (p : ClientPlan) : Artifact := ⟨"src/api_client/__init__.py", [
  "\"\"\"" ++ comment p.title ++ " API client.\"\"\"",
  "",
  "from .client import ApiClient",
  "from .config import Config",
  "from .errors import ApiError, ConfigurationError",
  "",
  "__all__ = [\"ApiClient\", \"ApiError\", \"Config\", \"ConfigurationError\"]"]⟩

/-- The file that makes the headers for authentication. -/
def authFile : Artifact := ⟨"src/api_client/auth.py", [
  "\"\"\"Authentication header derivation.\"\"\"",
  "",
  "import base64",
  "",
  "from .config import Config",
  "from .errors import ConfigurationError",
  "",
  "DEFAULT_API_KEY_HEADER = " ++ literal defaultKeyHeader,
  "",
  "",
  "class AuthHandler:",
  "    def __init__(self, config: Config):",
  "        self.config = config",
  "",
  "    def get_auth_headers(self) -> dict[str, str]:",
  "        \"\"\"Headers for the configured auth type; empty when auth is off.\"\"\"",
  "        config = self.config",
  "        auth_type = config.auth_type",
  "",
  "        if auth_type == \"bearer\":",
  "            token = config.api_key or config.bearer_token",
  "            if not token:",
  "                raise ConfigurationError(\"Bearer token is required: set " ++ Setting.apiKey.variable ++ " or " ++ Setting.bearerToken.variable ++ "\")",
  "            return \x7b\"Authorization\": f\"Bearer \x7btoken\x7d\"\x7d",
  "",
  "        if auth_type == \"apiKey\":",
  "            if not config.api_key:",
  "                raise ConfigurationError(\"API key is required: set " ++ Setting.apiKey.variable ++ "\")",
  "            return \x7bconfig.auth_header_name or DEFAULT_API_KEY_HEADER: config.api_key\x7d",
  "",
  "        if auth_type == \"basic\":",
  "            if not config.username or not config.password:",
  "                raise ConfigurationError(\"Username and password are required: set " ++ Setting.username.variable ++ " and " ++ Setting.password.variable ++ "\")",
  "            credentials = base64.b64encode(f\"\x7bconfig.username\x7d:\x7bconfig.password\x7d\".encode()).decode()",
  "            return \x7b\"Authorization\": f\"Basic \x7bcredentials\x7d\"\x7d",
  "",
  "        if auth_type == \"oauth2\":",
  "            if not config.access_token:",
  "                raise ConfigurationError(\"OAuth2 access token is required: set " ++ Setting.accessToken.variable ++ "\")",
  "            return \x7b\"Authorization\": f\"Bearer \x7bconfig.access_token\x7d\"\x7d",
  "",
  "        return \x7b\x7d"]⟩

/-- The file that sends requests. -/
def requestFile : Artifact := ⟨"src/api_client/request.py", [
  "\"\"\"HTTP transport with retry and exponential backoff.\"\"\"",
  "",
  "import time",
  "",
  "import requests",
  "",
  "from .config import Config",
  "from .errors import ApiError",
  "",
  "BACKOFF_BASE_MS = " ++ Setting.firstPause,
  "BACKOFF_CAP_MS = " ++ Setting.longestPause,
  "",
  "",
  "def backoff_ms(attempt: int) -> int:",
  "    \"\"\"Delay after the 1-based ``attempt`` failed.\"\"\"",
  "    return min(BACKOFF_BASE_MS * 2 ** (attempt - 1), BACKOFF_CAP_MS)",
  "",
  "",
  "class RequestHandler:",
  "    \"\"\"Sends requests, retrying 5xx, 429 and transport failures.",
  "",
  "    Other 4xx responses are raised immediately. At most ``config.max_retries``",
  "    attempts are made in total.",
  "    \"\"\"",
  "",
  "    def __init__(self, config: Config, session: requests.Session | None = None):",
  "        self.config = config",
  "        self.session = session or requests.Session()",
  "",
  "    def make_request(self, method: str, url: str, body: str | None = None, headers: dict[str, str] | None = None):",
  "        attempts = max(1, self.config.max_retries)",
  "        request_headers = \x7b\"Accept\": \"application/json\", **(headers or \x7b\x7d)\x7d",
  "",
  "        for attempt in range(1, attempts + 1):",
  "            try:",
  "                response = self.session.request(",
  "                    method,",
  "                    url,",
  "                    data=body,",
  "                    headers=request_headers,",
  "                    timeout=self.config.timeout / 1000,",
  "                )",
  "            except requests.RequestException:",
  "                if attempt == attempts:",
  "                    raise",
  "                time.sleep(backoff_ms(attempt) / 1000)",
  "                continue",
  "",
  "            if response.status_code < 400:",
  "                return _decode(response)",
  "",
  "            error = ApiError(response.status_code, response.reason, response.text)",
  "            if not error.retryable or attempt == attempts:",
  "                raise error",
  "            time.sleep(backoff_ms(attempt) / 1000)",
  "",
  "",
  "def _decode(response: requests.Response):",
  "    if not response.content:",
  "        return None",
  "    if \"json\" in response.headers.get(\"Content-Type\", \"\"):",
  "        return response.json()",
  "    return response.text"]⟩

/-- The file of the errors. -/
def errorFile : Artifact := ⟨"src/api_client/errors.py", [
  "\"\"\"Errors raised by the API client.\"\"\"",
  "",
  "",
  "class ConfigurationError(Exception):",
  "    \"\"\"The selected auth type is missing a credential, or a setting is malformed.\"\"\"",
  "",
  "",
  "class ApiError(Exception):",
  "    \"\"\"Non-2xx response from the API.\"\"\"",
  "",
  "    def __init__(self, status_code: int, status_text: str, body: str):",
  "        super().__init__(f\"API request failed with status \x7bstatus_code\x7d \x7bstatus_text or ''\x7d\".strip())",
  "        self.status_code = status_code",
  "        self.status_text = status_text",
  "        self.body = body",
  "",
  "    @property",
  "    def retryable(self) -> bool:",
  "        return self.status_code >= 500 or self.status_code == 429"]⟩

/-- The file of the settings. -/
def configFile (p : ClientPlan) : Artifact := ⟨"src/api_client/config.py", [
  "\"\"\"Client settings resolved from explicit values, the environment, then defaults.\"\"\"",
  "",
  "import os",
  "from dataclasses import dataclass",
  "",
  "from dotenv import load_dotenv",
  "",
  "from .errors import ConfigurationError",
  "",
  "DEFAULT_BASE_URL = " ++ literal p.baseUrl,
  "DEFAULT_TIMEOUT_MS = " ++ Setting.defaultTimeout,
  "DEFAULT_MAX_RETRIES = " ++ Setting.defaultRetries,
  "DEFAULT_AUTH_TYPE = " ++ literal Setting.defaultAuthType,
  "",
  "",
  "def _int_from_env(name: str, default: int) -> int:",
  "    value = os.getenv(name)",
  "    if value is None or value == \"\":",
  "        return default",
  "    try:",
  "        return int(value)",
  "    except ValueError:",
  "        raise ConfigurationError(f\"\x7bname\x7d must be an integer, got \x7bvalue!r\x7d\") from None",
  "",
  "",
  "@dataclass",
  "class Config:",
  "    base_url: str = DEFAULT_BASE_URL",
  "    timeout: int = DEFAULT_TIMEOUT_MS",
  "    max_retries: int = DEFAULT_MAX_RETRIES",
  "    auth_type: str = DEFAULT_AUTH_TYPE",
  "    api_key: str | None = None",
  "    bearer_token: str | None = None",
  "    username: str | None = None",
  "    password: str | None = None",
  "    access_token: str | None = None",
  "    auth_header_name: str | None = None",
  "",
  "    @classmethod",
  "    def from_env(cls, load_env_file: bool = True) -> \"Config\":",
  "        \"\"\"Build a config from ``" ++ Setting.baseUrl.variable ++ "`` and friends, reading ``.env`` first.\"\"\"",
  "        if load_env_file:",
  "            load_dotenv()",
  "        return cls(",
  "            base_url=os.getenv(\"" ++ Setting.baseUrl.variable ++ "\") or DEFAULT_BASE_URL,",
  "            timeout=_int_from_env(\"" ++ Setting.timeout.variable ++ "\", DEFAULT_TIMEOUT_MS),",
  "            max_retries=_int_from_env(\"" ++ Setting.maxRetries.variable ++ "\", DEFAULT_MAX_RETRIES),",
  "            auth_type=os.getenv(\"" ++ Setting.authType.variable ++ "\") or DEFAULT_AUTH_TYPE,",
  "            api_key=os.getenv(\"" ++ Setting.apiKey.variable ++ "\"),",
  "            bearer_token=os.getenv(\"" ++ Setting.bearerToken.variable ++ "\"),",
  "            username=os.getenv(\"" ++ Setting.username.variable ++ "\"),",
  "            password=os.getenv(\"" ++ Setting.password.variable ++ "\"),",
  "            access_token=os.getenv(\"" ++ Setting.accessToken.variable ++ "\"),",
  "            auth_header_name=os.getenv(\"" ++ Setting.authHeaderName.variable ++ "\"),",
  "        )"]⟩

end ClientForge.Client.Python
