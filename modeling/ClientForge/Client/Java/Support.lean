import ClientForge.Client.Artifact
import ClientForge.Client.Setting

/-!
The parts of a client in Java that are the same for every API, but for its address: responses,
authentication, sending requests, errors and settings.
-/

namespace ClientForge.Client.Java

abbrev literal (s : String) : String := Target.java.literal s
abbrev comment (s : String) : String := Target.java.comment s

/-- The folder of the sources. -/
def sources : String := "src/main/java/com/example/"

/-- The file of responses. -/
def modelFile : Artifact := ⟨sources ++ "models/ApiResponse.java", [
  "package com.example.models;",
  "",
  "import java.util.List;",
  "import java.util.Map;",
  "",
  "/**",
  " * A successful (status below 400) HTTP response.",
  " */",
  "public class ApiResponse \x7b",
  "    private final int statusCode;",
  "    private final Map<String, List<String>> headers;",
  "    private final String body;",
  "",
  "    public ApiResponse(int statusCode, Map<String, List<String>> headers, String body) \x7b",
  "        this.statusCode = statusCode;",
  "        this.headers = headers;",
  "        this.body = body;",
  "    \x7d",
  "",
  "    public int getStatusCode() \x7b return statusCode; \x7d",
  "    public Map<String, List<String>> getHeaders() \x7b return headers; \x7d",
  "    public String getBody() \x7b return body; \x7d",
  "\x7d"]⟩

/-- The file that makes the headers for authentication. -/
def authFile : Artifact := ⟨sources ++ "auth/AuthHandler.java", [
  "package com.example.auth;",
  "",
  "import com.example.config.Config;",
  "import java.nio.charset.StandardCharsets;",
  "import java.util.Base64;",
  "import java.util.HashMap;",
  "import java.util.Map;",
  "",
  "/**",
  " * Derives authentication headers from the client configuration.",
  " */",
  "public class AuthHandler \x7b",
  "    private static final String DEFAULT_API_KEY_HEADER = " ++ literal defaultKeyHeader ++ ";",
  "",
  "    private final Config config;",
  "",
  "    public AuthHandler(Config config) \x7b",
  "        this.config = config;",
  "    \x7d",
  "",
  "    /**",
  "     * @return a mutable header map for the configured auth type",
  "     * @throws IllegalStateException when the selected auth type is missing a credential",
  "     */",
  "    public Map<String, String> getAuthHeaders() \x7b",
  "        Map<String, String> headers = new HashMap<>();",
  "        String authType = config.getAuthType() == null ? \"none\" : config.getAuthType();",
  "",
  "        switch (authType) \x7b",
  "            case \"bearer\": \x7b",
  "                String token = isSet(config.getApiKey()) ? config.getApiKey() : config.getBearerToken();",
  "                if (!isSet(token)) \x7b",
  "                    throw new IllegalStateException(\"Bearer token is required: set " ++ Setting.apiKey.variable ++ " or " ++ Setting.bearerToken.variable ++ "\");",
  "                \x7d",
  "                headers.put(\"Authorization\", \"Bearer \" + token);",
  "                break;",
  "            \x7d",
  "            case \"apiKey\": \x7b",
  "                if (!isSet(config.getApiKey())) \x7b",
  "                    throw new IllegalStateException(\"API key is required: set " ++ Setting.apiKey.variable ++ "\");",
  "                \x7d",
  "                String headerName = isSet(config.getAuthHeaderName()) ? config.getAuthHeaderName() : DEFAULT_API_KEY_HEADER;",
  "                headers.put(headerName, config.getApiKey());",
  "                break;",
  "            \x7d",
  "            case \"basic\": \x7b",
  "                if (!isSet(config.getUsername()) || !isSet(config.getPassword())) \x7b",
  "                    throw new IllegalStateException(\"Username and password are required: set " ++ Setting.username.variable ++ " and " ++ Setting.password.variable ++ "\");",
  "                \x7d",
  "                String credentials = config.getUsername() + \":\" + config.getPassword();",
  "                headers.put(\"Authorization\", \"Basic \" + Base64.getEncoder().encodeToString(credentials.getBytes(StandardCharsets.UTF_8)));",
  "                break;",
  "            \x7d",
  "            case \"oauth2\": \x7b",
  "                if (!isSet(config.getAccessToken())) \x7b",
  "                    throw new IllegalStateException(\"OAuth2 access token is required: set " ++ Setting.accessToken.variable ++ "\");",
  "                \x7d",
  "                headers.put(\"Authorization\", \"Bearer \" + config.getAccessToken());",
  "                break;",
  "            \x7d",
  "            default:",
  "                break;",
  "        \x7d",
  "        return headers;",
  "    \x7d",
  "",
  "    private static boolean isSet(String value) \x7b",
  "        return value != null && !value.isEmpty();",
  "    \x7d",
  "\x7d"]⟩

/-- The file that sends requests. -/
def requestFile : Artifact := ⟨sources ++ "utils/RequestHandler.java", [
  "package com.example.utils;",
  "",
  "import com.example.config.Config;",
  "import com.example.models.ApiResponse;",
  "import com.fasterxml.jackson.core.JsonProcessingException;",
  "import com.fasterxml.jackson.databind.ObjectMapper;",
  "import java.io.IOException;",
  "import java.net.URLEncoder;",
  "import java.nio.charset.StandardCharsets;",
  "import java.util.Map;",
  "import java.util.StringJoiner;",
  "import java.util.concurrent.TimeUnit;",
  "import okhttp3.MediaType;",
  "import okhttp3.OkHttpClient;",
  "import okhttp3.Request;",
  "import okhttp3.RequestBody;",
  "import okhttp3.Response;",
  "import okhttp3.ResponseBody;",
  "",
  "/**",
  " * Sends requests with retry and exponential backoff.",
  " *",
  " * <p>4xx responses other than 429 are thrown immediately. 5xx, 429 and I/O",
  " * failures are retried up to \x7b@code maxRetries\x7d attempts in total.",
  " */",
  "public class RequestHandler \x7b",
  "    private static final long BACKOFF_BASE_MS = " ++ Setting.firstPause ++ ";",
  "    private static final long BACKOFF_CAP_MS = " ++ Setting.longestPause ++ ";",
  "    private static final ObjectMapper MAPPER = new ObjectMapper();",
  "",
  "    private final Config config;",
  "    private final OkHttpClient httpClient;",
  "",
  "    public RequestHandler(Config config) \x7b",
  "        this(config, new OkHttpClient.Builder().callTimeout(config.getTimeout(), TimeUnit.MILLISECONDS).build());",
  "    \x7d",
  "",
  "    public RequestHandler(Config config, OkHttpClient httpClient) \x7b",
  "        this.config = config;",
  "        this.httpClient = httpClient;",
  "    \x7d",
  "",
  "    public ApiResponse makeRequest(String method, String url, String body, Map<String, String> headers) throws IOException \x7b",
  "        int attempts = Math.max(1, config.getMaxRetries());",
  "        for (int attempt = 1; ; attempt++) \x7b",
  "            try \x7b",
  "                return send(method, url, body, headers);",
  "            \x7d catch (ApiException e) \x7b",
  "                if (!e.isRetryable() || attempt >= attempts) \x7b",
  "                    throw e;",
  "                \x7d",
  "            \x7d catch (IOException e) \x7b",
  "                if (attempt >= attempts) \x7b",
  "                    throw e;",
  "                \x7d",
  "            \x7d",
  "            sleep(backoffMs(attempt));",
  "        \x7d",
  "    \x7d",
  "",
  "    static long backoffMs(int attempt) \x7b",
  "        return Math.min(BACKOFF_BASE_MS << Math.min(attempt - 1, 20), BACKOFF_CAP_MS);",
  "    \x7d",
  "",
  "    protected void sleep(long millis) throws IOException \x7b",
  "        try \x7b",
  "            Thread.sleep(millis);",
  "        \x7d catch (InterruptedException e) \x7b",
  "            Thread.currentThread().interrupt();",
  "            throw new IOException(\"Interrupted while waiting to retry\", e);",
  "        \x7d",
  "    \x7d",
  "",
  "    private ApiResponse send(String method, String url, String body, Map<String, String> headers) throws IOException \x7b",
  "        RequestBody requestBody = null;",
  "        if (body != null) \x7b",
  "            requestBody = RequestBody.create(body, MediaType.parse(headers.getOrDefault(\"Content-Type\", \"application/json\")));",
  "        \x7d else if (method.equals(\"POST\") || method.equals(\"PUT\") || method.equals(\"PATCH\")) \x7b",
  "            requestBody = RequestBody.create(new byte[0], (MediaType) null);",
  "        \x7d",
  "",
  "        Request.Builder builder = new Request.Builder()",
  "                .url(url)",
  "                .method(method, requestBody)",
  "                .header(\"Accept\", \"application/json\");",
  "        for (Map.Entry<String, String> header : headers.entrySet()) \x7b",
  "            builder.header(header.getKey(), header.getValue());",
  "        \x7d",
  "",
  "        try (Response response = httpClient.newCall(builder.build()).execute()) \x7b",
  "            ResponseBody responseBody = response.body();",
  "            String text = responseBody == null ? \"\" : responseBody.string();",
  "            if (response.code() >= 400) \x7b",
  "                throw new ApiException(response.code(), response.message(), text);",
  "            \x7d",
  "            return new ApiResponse(response.code(), response.headers().toMultimap(), text);",
  "        \x7d",
  "    \x7d",
  "",
  "    /** Encodes the non-empty values, with a leading \"?\" when any remain. */",
  "    public static String buildQueryString(Map<String, String> params) \x7b",
  "        StringJoiner joiner = new StringJoiner(\"&\");",
  "        for (Map.Entry<String, String> param : params.entrySet()) \x7b",
  "            if (param.getValue() != null && !param.getValue().isEmpty()) \x7b",
  "                joiner.add(encode(param.getKey()) + \"=\" + encode(param.getValue()));",
  "            \x7d",
  "        \x7d",
  "        return joiner.length() == 0 ? \"\" : \"?\" + joiner;",
  "    \x7d",
  "",
  "    public static String encodeJson(Object body) \x7b",
  "        try \x7b",
  "            return MAPPER.writeValueAsString(body);",
  "        \x7d catch (JsonProcessingException e) \x7b",
  "            throw new IllegalArgumentException(\"Request body cannot be serialised as JSON\", e);",
  "        \x7d",
  "    \x7d",
  "",
  "    public static String encodeForm(Object body) \x7b",
  "        if (!(body instanceof Map)) \x7b",
  "            throw new IllegalArgumentException(\"Form request body must be a Map\");",
  "        \x7d",
  "        StringJoiner joiner = new StringJoiner(\"&\");",
  "        for (Map.Entry<?, ?> field : ((Map<?, ?>) body).entrySet()) \x7b",
  "            joiner.add(encode(String.valueOf(field.getKey())) + \"=\" + encode(String.valueOf(field.getValue())));",
  "        \x7d",
  "        return joiner.toString();",
  "    \x7d",
  "",
  "    private static String encode(String value) \x7b",
  "        return URLEncoder.encode(value, StandardCharsets.UTF_8);",
  "    \x7d",
  "\x7d"]⟩

/-- The file of the error for answers that are no success. -/
def errorFile : Artifact := ⟨sources ++ "utils/ApiException.java", [
  "package com.example.utils;",
  "",
  "/**",
  " * Thrown when the API answers with a 4xx or 5xx status.",
  " */",
  "public class ApiException extends RuntimeException \x7b",
  "    private final int statusCode;",
  "    private final String statusText;",
  "    private final String body;",
  "",
  "    public ApiException(int statusCode, String statusText, String body) \x7b",
  "        super((\"API request failed with status \" + statusCode + \" \" + (statusText == null ? \"\" : statusText)).trim());",
  "        this.statusCode = statusCode;",
  "        this.statusText = statusText;",
  "        this.body = body;",
  "    \x7d",
  "",
  "    public int getStatusCode() \x7b return statusCode; \x7d",
  "    public String getStatusText() \x7b return statusText; \x7d",
  "    public String getBody() \x7b return body; \x7d",
  "",
  "    public boolean isRetryable() \x7b",
  "        return statusCode >= 500 || statusCode == 429;",
  "    \x7d",
  "\x7d"]⟩

/-- The file of the settings. -/
def configFile (p : ClientPlan) : Artifact := ⟨sources ++ "config/Config.java", [
  "package com.example.config;",
  "",
  "/**",
  " * Client settings. \x7b@link #fromEnv()\x7d reads them from environment variables,",
  " * falling back to the built-in defaults. Timeout is in milliseconds.",
  " */",
  "public class Config \x7b",
  "    public static final String DEFAULT_BASE_URL = " ++ literal p.baseUrl ++ ";",
  "    public static final int DEFAULT_TIMEOUT_MS = " ++ Setting.defaultTimeout ++ ";",
  "    public static final int DEFAULT_MAX_RETRIES = " ++ Setting.defaultRetries ++ ";",
  "    public static final String DEFAULT_AUTH_TYPE = " ++ literal Setting.defaultAuthType ++ ";",
  "",
  "    private String baseUrl = DEFAULT_BASE_URL;",
  "    private int timeout = DEFAULT_TIMEOUT_MS;",
  "    private int maxRetries = DEFAULT_MAX_RETRIES;",
  "    private String authType = DEFAULT_AUTH_TYPE;",
  "    private String apiKey;",
  "    private String bearerToken;",
  "    private String username;",
  "    private String password;",
  "    private String accessToken;",
  "    private String authHeaderName;",
  "",
  "    public static Config fromEnv() \x7b",
  "        Config config = new Config();",
  "        config.baseUrl = stringFromEnv(\"" ++ Setting.baseUrl.variable ++ "\", DEFAULT_BASE_URL);",
  "        config.timeout = intFromEnv(\"" ++ Setting.timeout.variable ++ "\", DEFAULT_TIMEOUT_MS);",
  "        config.maxRetries = intFromEnv(\"" ++ Setting.maxRetries.variable ++ "\", DEFAULT_MAX_RETRIES);",
  "        config.authType = stringFromEnv(\"" ++ Setting.authType.variable ++ "\", DEFAULT_AUTH_TYPE);",
  "        config.apiKey = System.getenv(\"" ++ Setting.apiKey.variable ++ "\");",
  "        config.bearerToken = System.getenv(\"" ++ Setting.bearerToken.variable ++ "\");",
  "        config.username = System.getenv(\"" ++ Setting.username.variable ++ "\");",
  "        config.password = System.getenv(\"" ++ Setting.password.variable ++ "\");",
  "        config.accessToken = System.getenv(\"" ++ Setting.accessToken.variable ++ "\");",
  "        config.authHeaderName = System.getenv(\"" ++ Setting.authHeaderName.variable ++ "\");",
  "        return config;",
  "    \x7d",
  "",
  "    private static String stringFromEnv(String name, String fallback) \x7b",
  "        String value = System.getenv(name);",
  "        return value == null || value.isEmpty() ? fallback : value;",
  "    \x7d",
  "",
  "    private static int intFromEnv(String name, int fallback) \x7b",
  "        String value = System.getenv(name);",
  "        if (value == null || value.isEmpty()) \x7b",
  "            return fallback;",
  "        \x7d",
  "        try \x7b",
  "            return Integer.parseInt(value);",
  "        \x7d catch (NumberFormatException e) \x7b",
  "            throw new IllegalStateException(name + \" must be an integer, got \" + value, e);",
  "        \x7d",
  "    \x7d",
  "",
  "    public String getBaseUrl() \x7b return baseUrl; \x7d",
  "    public int getTimeout() \x7b return timeout; \x7d",
  "    public int getMaxRetries() \x7b return maxRetries; \x7d",
  "    public String getAuthType() \x7b return authType; \x7d",
  "    public String getApiKey() \x7b return apiKey; \x7d",
  "    public String getBearerToken() \x7b return bearerToken; \x7d",
  "    public String getUsername() \x7b return username; \x7d",
  "    public String getPassword() \x7b return password; \x7d",
  "    public String getAccessToken() \x7b return accessToken; \x7d",
  "    public String getAuthHeaderName() \x7b return authHeaderName; \x7d",
  "",
  "    public Config setBaseUrl(String baseUrl) \x7b this.baseUrl = baseUrl; return this; \x7d",
  "    public Config setTimeout(int timeout) \x7b this.timeout = timeout; return this; \x7d",
  "    public Config setMaxRetries(int maxRetries) \x7b this.maxRetries = maxRetries; return this; \x7d",
  "    public Config setAuthType(String authType) \x7b this.authType = authType; return this; \x7d",
  "    public Config setApiKey(String apiKey) \x7b this.apiKey = apiKey; return this; \x7d",
  "    public Config setBearerToken(String bearerToken) \x7b this.bearerToken = bearerToken; return this; \x7d",
  "    public Config setUsername(String username) \x7b this.username = username; return this; \x7d",
  "    public Config setPassword(String password) \x7b this.password = password; return this; \x7d",
  "    public Config setAccessToken(String accessToken) \x7b this.accessToken = accessToken; return this; \x7d",
  "    public Config setAuthHeaderName(String authHeaderName) \x7b this.authHeaderName = authHeaderName; return this; \x7d",
  "\x7d"]⟩

end ClientForge.Client.Java
