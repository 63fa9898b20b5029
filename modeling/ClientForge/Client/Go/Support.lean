import ClientForge.Client.Artifact
import ClientForge.Client.Setting

/-!
The parts of a client in Go that are the same for every API, but for its address: responses,
authentication, sending requests, errors and settings.
-/

namespace ClientForge.Client.Go

abbrev literal (s : String) : String := Target.go.literal s
abbrev comment (s : String) : String := Target.go.comment s

/-- The file of responses. -/
def modelFile : Artifact := ⟨"models.go", [
  "package apiclient",
  "",
  "import (",
  "\t\"encoding/json\"",
  "\t\"net/http\"",
  ")",
  "",
  "// ApiResponse is a successful (status < 400) HTTP response.",
  "type ApiResponse struct \x7b",
  "\tStatusCode int",
  "\tHeaders    http.Header",
  "\tBody       []byte",
  "\x7d",
  "",
  "// JSON decodes the response body into v.",
  "func (r *ApiResponse) JSON(v any) error \x7b",
  "\treturn json.Unmarshal(r.Body, v)",
  "\x7d"]⟩

/-- The file that makes the headers for authentication. -/
def authFile : Artifact := ⟨"auth.go", [
  "package apiclient",
  "",
  "import (",
  "\t\"encoding/base64\"",
  "\t\"errors\"",
  ")",
  "",
  "// AuthHandler derives authentication headers from the config.",
  "type AuthHandler struct \x7b",
  "\tconfig *Config",
  "\x7d",
  "",
  "func NewAuthHandler(config *Config) *AuthHandler \x7b",
  "\treturn &AuthHandler\x7bconfig: config\x7d",
  "\x7d",
  "",
  "// GetAuthHeaders returns the headers for the configured auth type, or an",
  "// error when that type is missing a credential.",
  "func (a *AuthHandler) GetAuthHeaders() (map[string]string, error) \x7b",
  "\tswitch a.config.AuthType \x7b",
  "\tcase \"bearer\":",
  "\t\ttoken := a.config.APIKey",
  "\t\tif token == \"\" \x7b",
  "\t\t\ttoken = a.config.BearerToken",
  "\t\t\x7d",
  "\t\tif token == \"\" \x7b",
  "\t\t\treturn nil, errors.New(\"bearer token is required: set " ++ Setting.apiKey.variable ++ " or " ++ Setting.bearerToken.variable ++ "\")",
  "\t\t\x7d",
  "\t\treturn map[string]string\x7b\"Authorization\": \"Bearer \" + token\x7d, nil",
  "\tcase \"apiKey\":",
  "\t\tif a.config.APIKey == \"\" \x7b",
  "\t\t\treturn nil, errors.New(\"API key is required: set " ++ Setting.apiKey.variable ++ "\")",
  "\t\t\x7d",
  "\t\theaderName := a.config.AuthHeaderName",
  "\t\tif headerName == \"\" \x7b",
  "\t\t\theaderName = " ++ literal defaultKeyHeader,
  "\t\t\x7d",
  "\t\treturn map[string]string\x7bheaderName: a.config.APIKey\x7d, nil",
  "\tcase \"basic\":",
  "\t\tif a.config.Username == \"\" || a.config.Password == \"\" \x7b",
  "\t\t\treturn nil, errors.New(\"username and password are required: set " ++ Setting.username.variable ++ " and " ++ Setting.password.variable ++ "\")",
  "\t\t\x7d",
  "\t\tcredentials := base64.StdEncoding.EncodeToString([]byte(a.config.Username + \":\" + a.config.Password))",
  "\t\treturn map[string]string\x7b\"Authorization\": \"Basic \" + credentials\x7d, nil",
  "\tcase \"oauth2\":",
  "\t\tif a.config.AccessToken == \"\" \x7b",
  "\t\t\treturn nil, errors.New(\"OAuth2 access token is required: set " ++ Setting.accessToken.variable ++ "\")",
  "\t\t\x7d",
  "\t\treturn map[string]string\x7b\"Authorization\": \"Bearer \" + a.config.AccessToken\x7d, nil",
  "\tdefault:",
  "\t\treturn map[string]string\x7b\x7d, nil",
  "\t\x7d",
  "\x7d"]⟩

/-- The file that sends requests. -/
def requestFile : Artifact := ⟨"request.go", [
  "package apiclient",
  "",
  "import (",
  "\t\"bytes\"",
  "\t\"encoding/json\"",
  "\t\"errors\"",
  "\t\"fmt\"",
  "\t\"io\"",
  "\t\"net/http\"",
  "\t\"net/url\"",
  "\t\"strings\"",
  "\t\"time\"",
  ")",
  "",
  "const (",
  "\tbackoffBaseMs = " ++ Setting.firstPause,
  "\tbackoffCapMs  = " ++ Setting.longestPause,
  ")",
  "",
  "// RequestHandler sends requests with retry and exponential backoff.",
  "// 4xx responses other than 429 fail immediately; 5xx, 429 and transport",
  "// errors are retried up to MaxRetries attempts in total.",
  "type RequestHandler struct \x7b",
  "\tconfig     *Config",
  "\thttpClient *http.Client",
  "\tsleep      func(time.Duration)",
  "\x7d",
  "",
  "func NewRequestHandler(config *Config) *RequestHandler \x7b",
  "\treturn &RequestHandler\x7b",
  "\t\tconfig:     config,",
  "\t\thttpClient: &http.Client\x7bTimeout: time.Duration(config.Timeout) * time.Millisecond\x7d,",
  "\t\tsleep:      time.Sleep,",
  "\t\x7d",
  "\x7d",
  "",
  "func backoff(attempt int) time.Duration \x7b",
  "\tdelay := backoffBaseMs << (attempt - 1)",
  "\tif delay <= 0 || delay > backoffCapMs \x7b",
  "\t\tdelay = backoffCapMs",
  "\t\x7d",
  "\treturn time.Duration(delay) * time.Millisecond",
  "\x7d",
  "",
  "// MakeRequest sends the request, retrying retryable failures. A nil body sends no payload.",
  "func (h *RequestHandler) MakeRequest(method, requestURL string, body []byte, headers map[string]string) (*ApiResponse, error) \x7b",
  "\tattempts := h.config.MaxRetries",
  "\tif attempts < 1 \x7b",
  "\t\tattempts = 1",
  "\t\x7d",
  "",
  "\tvar lastErr error",
  "\tfor attempt := 1; attempt <= attempts; attempt++ \x7b",
  "\t\tresponse, err := h.send(method, requestURL, body, headers)",
  "\t\tif err == nil \x7b",
  "\t\t\treturn response, nil",
  "\t\t\x7d",
  "\t\tlastErr = err",
  "",
  "\t\tvar apiErr *APIError",
  "\t\tif errors.As(err, &apiErr) && !apiErr.Retryable() \x7b",
  "\t\t\treturn nil, err",
  "\t\t\x7d",
  "\t\tif attempt < attempts \x7b",
  "\t\t\th.sleep(backoff(attempt))",
  "\t\t\x7d",
  "\t\x7d",
  "\treturn nil, lastErr",
  "\x7d",
  "",
  "func (h *RequestHandler) send(method, requestURL string, body []byte, headers map[string]string) (*ApiResponse, error) \x7b",
  "\tvar reader io.Reader",
  "\tif body != nil \x7b",
  "\t\treader = bytes.NewReader(body)",
  "\t\x7d",
  "\treq, err := http.NewRequest(method, requestURL, reader)",
  "\tif err != nil \x7b",
  "\t\treturn nil, err",
  "\t\x7d",
  "\treq.Header.Set(\"Accept\", \"application/json\")",
  "\tfor name, value := range headers \x7b",
  "\t\treq.Header.Set(name, value)",
  "\t\x7d",
  "",
  "\tresp, err := h.httpClient.Do(req)",
  "\tif err != nil \x7b",
  "\t\treturn nil, err",
  "\t\x7d",
  "\tdefer resp.Body.Close()",
  "",
  "\tdata, err := io.ReadAll(resp.Body)",
  "\tif err != nil \x7b",
  "\t\treturn nil, err",
  "\t\x7d",
  "\tif resp.StatusCode >= 400 \x7b",
  "\t\treturn nil, &APIError\x7bStatusCode: resp.StatusCode, StatusText: http.StatusText(resp.StatusCode), Body: string(data)\x7d",
  "\t\x7d",
  "\treturn &ApiResponse\x7bStatusCode: resp.StatusCode, Headers: resp.Header, Body: data\x7d, nil",
  "\x7d",
  "",
  "func replacePathParam(path, name, value string) string \x7b",
  "\treturn strings.ReplaceAll(path, \"\x7b\"+name+\"\x7d\", value)",
  "\x7d",
  "",
  "// buildQueryString encodes the non-empty values, with a leading \"?\" when any remain.",
  "func buildQueryString(params map[string]string) string \x7b",
  "\tvalues := url.Values\x7b\x7d",
  "\tfor name, value := range params \x7b",
  "\t\tif value != \"\" \x7b",
  "\t\t\tvalues.Set(name, value)",
  "\t\t\x7d",
  "\t\x7d",
  "\tif len(values) == 0 \x7b",
  "\t\treturn \"\"",
  "\t\x7d",
  "\treturn \"?\" + values.Encode()",
  "\x7d",
  "",
  "func encodeBody(body any, encoding string) ([]byte, error) \x7b",
  "\tif body == nil \x7b",
  "\t\treturn nil, nil",
  "\t\x7d",
  "\tswitch encoding \x7b",
  "\tcase \"json\":",
  "\t\treturn json.Marshal(body)",
  "\tcase \"form\":",
  "\t\tfields, ok := body.(map[string]string)",
  "\t\tif !ok \x7b",
  "\t\t\treturn nil, fmt.Errorf(\"form body must be a map[string]string, got %T\", body)",
  "\t\t\x7d",
  "\t\tform := url.Values\x7b\x7d",
  "\t\tfor name, value := range fields \x7b",
  "\t\t\tform.Set(name, value)",
  "\t\t\x7d",
  "\t\treturn []byte(form.Encode()), nil",
  "\tdefault:",
  "\t\tswitch v := body.(type) \x7b",
  "\t\tcase []byte:",
  "\t\t\treturn v, nil",
  "\t\tcase string:",
  "\t\t\treturn []byte(v), nil",
  "\t\tdefault:",
  "\t\t\treturn []byte(fmt.Sprint(v)), nil",
  "\t\t\x7d",
  "\t\x7d",
  "\x7d"]⟩

/-- The file of the error for answers that are no success. -/
def errorFile : Artifact := ⟨"errors.go", [
  "package apiclient",
  "",
  "import \"fmt\"",
  "",
  "// APIError is returned when the API answers with a 4xx or 5xx status.",
  "type APIError struct \x7b",
  "\tStatusCode int",
  "\tStatusText string",
  "\tBody       string",
  "\x7d",
  "",
  "func (e *APIError) Error() string \x7b",
  "\treturn fmt.Sprintf(\"API request failed with status %d %s\", e.StatusCode, e.StatusText)",
  "\x7d",
  "",
  "// Retryable reports whether sending the request again may succeed.",
  "func (e *APIError) Retryable() bool \x7b",
  "\treturn e.StatusCode >= 500 || e.StatusCode == 429",
  "\x7d"]⟩

/-- The file of the settings. -/
def configFile (p : ClientPlan) : Artifact := ⟨"config.go", [
  "package apiclient",
  "",
  "import (",
  "\t\"fmt\"",
  "\t\"os\"",
  "\t\"strconv\"",
  "",
  "\t\"github.com/joho/godotenv\"",
  ")",
  "",
  "const (",
  "\tDefaultBaseURL    = " ++ literal p.baseUrl,
  "\tDefaultTimeoutMs  = " ++ Setting.defaultTimeout,
  "\tDefaultMaxRetries = " ++ Setting.defaultRetries,
  "\tDefaultAuthType   = " ++ literal Setting.defaultAuthType,
  ")",
  "",
  "// Config holds client settings. Timeout is in milliseconds.",
  "type Config struct \x7b",
  "\tBaseURL        string",
  "\tTimeout        int",
  "\tMaxRetries     int",
  "\tAuthType       string",
  "\tAPIKey         string",
  "\tBearerToken    string",
  "\tUsername       string",
  "\tPassword       string",
  "\tAccessToken    string",
  "\tAuthHeaderName string",
  "\x7d",
  "",
  "// LoadConfig reads settings from the environment, loading .env first when present.",
  "func LoadConfig() (*Config, error) \x7b",
  "\t_ = godotenv.Load()",
  "",
  "\ttimeout, err := intFromEnv(\"" ++ Setting.timeout.variable ++ "\", DefaultTimeoutMs)",
  "\tif err != nil \x7b",
  "\t\treturn nil, err",
  "\t\x7d",
  "\tmaxRetries, err := intFromEnv(\"" ++ Setting.maxRetries.variable ++ "\", DefaultMaxRetries)",
  "\tif err != nil \x7b",
  "\t\treturn nil, err",
  "\t\x7d",
  "",
  "\treturn &Config\x7b",
  "\t\tBaseURL:        stringFromEnv(\"" ++ Setting.baseUrl.variable ++ "\", DefaultBaseURL),",
  "\t\tTimeout:        timeout,",
  "\t\tMaxRetries:     maxRetries,",
  "\t\tAuthType:       stringFromEnv(\"" ++ Setting.authType.variable ++ "\", DefaultAuthType),",
  "\t\tAPIKey:         os.Getenv(\"" ++ Setting.apiKey.variable ++ "\"),",
  "\t\tBearerToken:    os.Getenv(\"" ++ Setting.bearerToken.variable ++ "\"),",
  "\t\tUsername:       os.Getenv(\"" ++ Setting.username.variable ++ "\"),",
  "\t\tPassword:       os.Getenv(\"" ++ Setting.password.variable ++ "\"),",
  "\t\tAccessToken:    os.Getenv(\"" ++ Setting.accessToken.variable ++ "\"),",
  "\t\tAuthHeaderName: os.Getenv(\"" ++ Setting.authHeaderName.variable ++ "\"),",
  "\t\x7d, nil",
  "\x7d",
  "",
  "func stringFromEnv(name, fallback string) string \x7b",
  "\tif value := os.Getenv(name); value != \"\" \x7b",
  "\t\treturn value",
  "\t\x7d",
  "\treturn fallback",
  "\x7d",
  "",
  "func intFromEnv(name string, fallback int) (int, error) \x7b",
  "\tvalue := os.Getenv(name)",
  "\tif value == \"\" \x7b",
  "\t\treturn fallback, nil",
  "\t\x7d",
  "\tparsed, err := strconv.Atoi(value)",
  "\tif err != nil \x7b",
  "\t\treturn 0, fmt.Errorf(\"%s must be an integer, got %q\", name, value)",
  "\t\x7d",
  "\treturn parsed, nil",
  "\x7d"]⟩

end ClientForge.Client.Go
