import ClientForge.Client.Artifact
import ClientForge.Client.Setting

/-!
The parts of a client in PHP that are the same for every API, but for its address: responses,
authentication, sending requests, errors and settings.
-/

namespace ClientForge.Client.Php

abbrev literal (s : String) : String := Target.php.literal s
abbrev comment (s : String) : String := Target.php.comment s

/-- The file of responses. -/
def modelFile : Artifact := ⟨"src/Models/ApiResponse.php", [
  "<?php",
  "",
  "namespace ApiClient\\Models;",
  "",
  "/**",
  " * A successful (status below 400) HTTP response.",
  " */",
  "class ApiResponse",
  "\x7b",
  "    public int $statusCode;",
  "    public array $headers;",
  "    public string $body;",
  "",
  "    public function __construct(int $statusCode, array $headers, string $body)",
  "    \x7b",
  "        $this->statusCode = $statusCode;",
  "        $this->headers = $headers;",
  "        $this->body = $body;",
  "    \x7d",
  "",
  "    /**",
  "     * @return mixed",
  "     */",
  "    public function json()",
  "    \x7b",
  "        return json_decode($this->body, true, 512, JSON_THROW_ON_ERROR);",
  "    \x7d",
  "\x7d"]⟩

/-- The file that makes the headers for authentication. -/
def authFile : Artifact := ⟨"src/Auth/AuthHandler.php", [
  "<?php",
  "",
  "namespace ApiClient\\Auth;",
  "",
  "use ApiClient\\Config\\Config;",
  "",
  "/**",
  " * Derives authentication headers from the client configuration.",
  " */",
  "class AuthHandler",
  "\x7b",
  "    private const DEFAULT_API_KEY_HEADER = " ++ literal defaultKeyHeader ++ ";",
  "",
  "    private Config $config;",
  "",
  "    public function __construct(Config $config)",
  "    \x7b",
  "        $this->config = $config;",
  "    \x7d",
  "",
  "    /**",
  "     * @return array<string, string>",
  "     * @throws \\RuntimeException when the selected auth type is missing a credential",
  "     */",
  "    public function getAuthHeaders(): array",
  "    \x7b",
  "        switch ($this->config->authType) \x7b",
  "            case 'bearer':",
  "                $token = $this->config->apiKey ?: $this->config->bearerToken;",
  "                if (!$token) \x7b",
  "                    throw new \\RuntimeException('Bearer token is required: set " ++ Setting.apiKey.variable ++ " or " ++ Setting.bearerToken.variable ++ "');",
  "                \x7d",
  "                return ['Authorization' => 'Bearer ' . $token];",
  "            case 'apiKey':",
  "                if (!$this->config->apiKey) \x7b",
  "                    throw new \\RuntimeException('API key is required: set " ++ Setting.apiKey.variable ++ "');",
  "                \x7d",
  "                $headerName = $this->config->authHeaderName ?: self::DEFAULT_API_KEY_HEADER;",
  "                return [$headerName => $this->config->apiKey];",
  "            case 'basic':",
  "                if (!$this->config->username || !$this->config->password) \x7b",
  "                    throw new \\RuntimeException('Username and password are required: set " ++ Setting.username.variable ++ " and " ++ Setting.password.variable ++ "');",
  "                \x7d",
  "                return ['Authorization' => 'Basic ' . base64_encode($this->config->username . ':' . $this->config->password)];",
  "            case 'oauth2':",
  "                if (!$this->config->accessToken) \x7b",
  "                    throw new \\RuntimeException('OAuth2 access token is required: set " ++ Setting.accessToken.variable ++ "');",
  "                \x7d",
  "                return ['Authorization' => 'Bearer ' . $this->config->accessToken];",
  "            default:",
  "                return [];",
  "        \x7d",
  "    \x7d",
  "\x7d"]⟩

/-- The file that sends requests. -/
def requestFile : Artifact := ⟨"src/Utils/RequestHandler.php", [
  "<?php",
  "",
  "namespace ApiClient\\Utils;",
  "",
  "use ApiClient\\Config\\Config;",
  "use ApiClient\\Models\\ApiResponse;",
  "use GuzzleHttp\\Client;",
  "use GuzzleHttp\\ClientInterface;",
  "use GuzzleHttp\\Exception\\GuzzleException;",
  "",
  "/**",
  " * Sends requests with retry and exponential backoff.",
  " *",
  " * 4xx responses other than 429 are thrown immediately. 5xx, 429 and",
  " * transport failures are retried up to maxRetries attempts in total.",
  " */",
  "class RequestHandler",
  "\x7b",
  "    private const BACKOFF_BASE_MS = " ++ Setting.firstPause ++ ";",
  "    private const BACKOFF_CAP_MS = " ++ Setting.longestPause ++ ";",
  "",
  "    private Config $config;",
  "    private ClientInterface $httpClient;",
  "",
  "    public function __construct(Config $config, ?ClientInterface $httpClient = null)",
  "    \x7b",
  "        $this->config = $config;",
  "        $this->httpClient = $httpClient ?? new Client([",
  "            'timeout' => $config->timeout / 1000,",
  "            'http_errors' => false,",
  "        ]);",
  "    \x7d",
  "",
  "    /**",
  "     * @param array<string, string> $headers",
  "     * @throws ApiException|GuzzleException",
  "     */",
  "    public function makeRequest(string $method, string $url, ?string $body, array $headers): ApiResponse",
  "    \x7b",
  "        $attempts = max(1, $this->config->maxRetries);",
  "        for ($attempt = 1; ; $attempt++) \x7b",
  "            try \x7b",
  "                return $this->send($method, $url, $body, $headers);",
  "            \x7d catch (ApiException $e) \x7b",
  "                if (!$e->isRetryable() || $attempt >= $attempts) \x7b",
  "                    throw $e;",
  "                \x7d",
  "            \x7d catch (GuzzleException $e) \x7b",
  "                if ($attempt >= $attempts) \x7b",
  "                    throw $e;",
  "                \x7d",
  "            \x7d",
  "            $this->sleep(self::backoffMs($attempt));",
  "        \x7d",
  "    \x7d",
  "",
  "    public static function backoffMs(int $attempt): int",
  "    \x7b",
  "        return (int) min(self::BACKOFF_BASE_MS * (2 ** ($attempt - 1)), self::BACKOFF_CAP_MS);",
  "    \x7d",
  "",
  "    protected function sleep(int $milliseconds): void",
  "    \x7b",
  "        usleep($milliseconds * 1000);",
  "    \x7d",
  "",
  "    private function send(string $method, string $url, ?string $body, array $headers): ApiResponse",
  "    \x7b",
  "        $options = [",
  "            'headers' => array_merge(['Accept' => 'application/json'], $headers),",
  "            'http_errors' => false,",
  "        ];",
  "        if ($body !== null) \x7b",
  "            $options['body'] = $body;",
  "        \x7d",
  "",
  "        $response = $this->httpClient->request($method, $url, $options);",
  "        $status = $response->getStatusCode();",
  "        $content = (string) $response->getBody();",
  "        if ($status >= 400) \x7b",
  "            throw new ApiException($status, $response->getReasonPhrase(), $content);",
  "        \x7d",
  "        return new ApiResponse($status, $response->getHeaders(), $content);",
  "    \x7d",
  "",
  "    /**",
  "     * Encodes the non-empty values, with a leading \"?\" when any remain.",
  "     */",
  "    public static function buildQueryString(array $params): string",
  "    \x7b",
  "        $params = array_filter($params, function ($value) \x7b",
  "            return $value !== null && $value !== '';",
  "        \x7d);",
  "        return $params ? '?' . http_build_query($params) : '';",
  "    \x7d",
  "\x7d"]⟩

/-- The file of the error for answers that are no success. -/
def errorFile : Artifact := ⟨"src/Utils/ApiException.php", [
  "<?php",
  "",
  "namespace ApiClient\\Utils;",
  "",
  "/**",
  " * Thrown when the API answers with a 4xx or 5xx status.",
  " */",
  "class ApiException extends \\RuntimeException",
  "\x7b",
  "    public int $statusCode;",
  "    public string $statusText;",
  "    public string $body;",
  "",
  "    public function __construct(int $statusCode, string $statusText, string $body)",
  "    \x7b",
  "        parent::__construct(trim('API request failed with status ' . $statusCode . ' ' . $statusText), $statusCode);",
  "        $this->statusCode = $statusCode;",
  "        $this->statusText = $statusText;",
  "        $this->body = $body;",
  "    \x7d",
  "",
  "    public function isRetryable(): bool",
  "    \x7b",
  "        return $this->statusCode >= 500 || $this->statusCode === 429;",
  "    \x7d",
  "\x7d"]⟩

/-- The file of the settings. -/
def configFile (p : ClientPlan) : Artifact := ⟨"src/Config/Config.php", [
  "<?php",
  "",
  "namespace ApiClient\\Config;",
  "",
  "use Dotenv\\Dotenv;",
  "",
  "/**",
  " * Client settings. Explicit options win over environment variables, which",
  " * win over the built-in defaults. Timeout is in milliseconds.",
  " */",
  "class Config",
  "\x7b",
  "    public const DEFAULT_BASE_URL = " ++ literal p.baseUrl ++ ";",
  "    public const DEFAULT_TIMEOUT_MS = " ++ Setting.defaultTimeout ++ ";",
  "    public const DEFAULT_MAX_RETRIES = " ++ Setting.defaultRetries ++ ";",
  "    public const DEFAULT_AUTH_TYPE = " ++ literal Setting.defaultAuthType ++ ";",
  "",
  "    public string $baseUrl;",
  "    public int $timeout;",
  "    public int $maxRetries;",
  "    public string $authType;",
  "    public ?string $apiKey;",
  "    public ?string $bearerToken;",
  "    public ?string $username;",
  "    public ?string $password;",
  "    public ?string $accessToken;",
  "    public ?string $authHeaderName;",
  "",
  "    public function __construct(array $options = [])",
  "    \x7b",
  "        $this->baseUrl = $options['baseUrl'] ?? self::env('" ++ Setting.baseUrl.variable ++ "') ?? self::DEFAULT_BASE_URL;",
  "        $this->timeout = (int) ($options['timeout'] ?? self::intEnv('" ++ Setting.timeout.variable ++ "', self::DEFAULT_TIMEOUT_MS));",
  "        $this->maxRetries = (int) ($options['maxRetries'] ?? self::intEnv('" ++ Setting.maxRetries.variable ++ "', self::DEFAULT_MAX_RETRIES));",
  "        $this->authType = $options['authType'] ?? self::env('" ++ Setting.authType.variable ++ "') ?? self::DEFAULT_AUTH_TYPE;",
  "        $this->apiKey = $options['apiKey'] ?? self::env('" ++ Setting.apiKey.variable ++ "');",
  "        $this->bearerToken = $options['bearerToken'] ?? self::env('" ++ Setting.bearerToken.variable ++ "');",
  "        $this->username = $options['username'] ?? self::env('" ++ Setting.username.variable ++ "');",
  "        $this->password = $options['password'] ?? self::env('" ++ Setting.password.variable ++ "');",
  "        $this->accessToken = $options['accessToken'] ?? self::env('" ++ Setting.accessToken.variable ++ "');",
  "        $this->authHeaderName = $options['authHeaderName'] ?? self::env('" ++ Setting.authHeaderName.variable ++ "');",
  "    \x7d",
  "",
  "    /**",
  "     * Build a config from the environment, loading $directory/.env first when given.",
  "     */",
  "    public static function fromEnv(?string $directory = null): self",
  "    \x7b",
  "        if ($directory !== null) \x7b",
  "            Dotenv::createImmutable($directory)->safeLoad();",
  "        \x7d",
  "        return new self();",
  "    \x7d",
  "",
  "    private static function env(string $name): ?string",
  "    \x7b",
  "        $value = $_ENV[$name] ?? getenv($name);",
  "        if ($value === false || $value === null || $value === '') \x7b",
  "            return null;",
  "        \x7d",
  "        return (string) $value;",
  "    \x7d",
  "",
  "    private static function intEnv(string $name, int $default): int",
  "    \x7b",
  "        $value = self::env($name);",
  "        if ($value === null) \x7b",
  "            return $default;",
  "        \x7d",
  "        if (!ctype_digit($value)) \x7b",
  "            throw new \\RuntimeException($name . ' must be an integer, got ' . $value);",
  "        \x7d",
  "        return (int) $value;",
  "    \x7d",
  "\x7d"]⟩

end ClientForge.Client.Php
