import ClientForge.Client.Artifact
import ClientForge.Client.Setting

/-!
The parts of a client in JavaScript that are the same for every API, but for its address:
authentication, sending requests, errors and settings.
-/

namespace ClientForge.Client.Node

abbrev literal (s : String) : String := Target.node.literal s
abbrev comment (s : String) : String := Target.node.comment s

/-- The file that makes the headers for authentication. -/
def authFile : Artifact := ⟨"src/auth/AuthHandler.js", [
  "/**",
  " * Builds authentication headers from the client configuration.",
  " */",
  "class AuthHandler \x7b",
  "  constructor(config) \x7b",
  "    this.config = config;",
  "  \x7d",
  "",
  "  /**",
  "   * @returns \x7bObject\x7d Headers for the configured auth type",
  "   * @throws \x7bError\x7d when the selected auth type is missing a credential",
  "   */",
  "  getAuthHeaders() \x7b",
  "    switch (this.config.authType) \x7b",
  "      case 'bearer': \x7b",
  "        const token = this.config.apiKey || this.config.bearerToken;",
  "        if (!token) \x7b",
  "          throw new Error('Bearer token is required: set " ++ Setting.apiKey.variable ++ " or " ++ Setting.bearerToken.variable ++ "');",
  "        \x7d",
  "        return \x7b Authorization: `Bearer $\x7btoken\x7d` \x7d;",
  "      \x7d",
  "      case 'apiKey': \x7b",
  "        if (!this.config.apiKey) \x7b",
  "          throw new Error('API key is required: set " ++ Setting.apiKey.variable ++ "');",
  "        \x7d",
  "        const headerName = this.config.authHeaderName || " ++ literal defaultKeyHeader ++ ";",
  "        return \x7b [headerName]: this.config.apiKey \x7d;",
  "      \x7d",
  "      case 'basic': \x7b",
  "        const \x7b username, password \x7d = this.config;",
  "        if (!username || !password) \x7b",
  "          throw new Error('Username and password are required: set " ++ Setting.username.variable ++ " and " ++ Setting.password.variable ++ "');",
  "        \x7d",
  "        const credentials = Buffer.from(`$\x7busername\x7d:$\x7bpassword\x7d`).toString('base64');",
  "        return \x7b Authorization: `Basic $\x7bcredentials\x7d` \x7d;",
  "      \x7d",
  "      case 'oauth2': \x7b",
  "        if (!this.config.accessToken) \x7b",
  "          throw new Error('OAuth2 access token is required: set " ++ Setting.accessToken.variable ++ "');",
  "        \x7d",
  "        return \x7b Authorization: `Bearer $\x7bthis.config.accessToken\x7d` \x7d;",
  "      \x7d",
  "      default:",
  "        return \x7b\x7d;",
  "    \x7d",
  "  \x7d",
  "\x7d",
  "",
  "module.exports = AuthHandler;"]⟩

/-- The file that sends requests. -/
def requestFile : Artifact := ⟨"src/utils/RequestHandler.js", [
  "const axios = require('axios');",
  "const ApiError = require('./ApiError');",
  "",
  "/**",
  " * Sends requests with retry and exponential backoff.",
  " *",
  " * 4xx responses other than 429 fail immediately. 5xx, 429 and network",
  " * failures are retried up to maxRetries attempts in total.",
  " */",
  "class RequestHandler \x7b",
  "  constructor(config, httpClient = axios) \x7b",
  "    this.config = config;",
  "    this.httpClient = httpClient;",
  "  \x7d",
  "",
  "  async makeRequest(method, url, body, headers = \x7b\x7d) \x7b",
  "    const maxRetries = Math.max(1, this.config.maxRetries);",
  "",
  "    for (let attempt = 1; attempt <= maxRetries; attempt++) \x7b",
  "      let response;",
  "      try \x7b",
  "        response = await this.httpClient.request(\x7b",
  "          method,",
  "          url,",
  "          data: body,",
  "          headers: \x7b Accept: 'application/json', ...headers \x7d,",
  "          timeout: this.config.timeout,",
  "          validateStatus: () => true,",
  "          transformResponse: [(data) => data],",
  "        \x7d);",
  "      \x7d catch (error) \x7b",
  "        if (attempt === maxRetries) \x7b",
  "          throw error;",
  "        \x7d",
  "        await this.sleep(this.backoff(attempt));",
  "        continue;",
  "      \x7d",
  "",
  "      if (response.status < 400) \x7b",
  "        return \x7b status: response.status, headers: response.headers, data: this.parseBody(response) \x7d;",
  "      \x7d",
  "",
  "      const error = new ApiError(response.status, response.statusText, response.data);",
  "      if (!error.isRetryable() || attempt === maxRetries) \x7b",
  "        throw error;",
  "      \x7d",
  "      await this.sleep(this.backoff(attempt));",
  "    \x7d",
  "  \x7d",
  "",
  "  parseBody(response) \x7b",
  "    const contentType = String((response.headers || \x7b\x7d)['content-type'] || '');",
  "    if (!response.data || !contentType.includes('json')) \x7b",
  "      return response.data;",
  "    \x7d",
  "    return JSON.parse(response.data);",
  "  \x7d",
  "",
  "  backoff(attempt) \x7b",
  "    return Math.min(" ++ Setting.firstPause ++ " * Math.pow(2, attempt - 1), " ++ Setting.longestPause ++ ");",
  "  \x7d",
  "",
  "  sleep(ms) \x7b",
  "    return new Promise((resolve) => setTimeout(resolve, ms));",
  "  \x7d",
  "\x7d",
  "",
  "module.exports = RequestHandler;"]⟩

/-- The file of the error for answers that are no success. -/
def errorFile : Artifact := ⟨"src/utils/ApiError.js", [
  "/**",
  " * Error for a non-2xx API response.",
  " */",
  "class ApiError extends Error \x7b",
  "  constructor(statusCode, statusText, body) \x7b",
  "    super(`API request failed with status $\x7bstatusCode\x7d $\x7bstatusText || ''\x7d`.trim());",
  "    this.name = 'ApiError';",
  "    this.statusCode = statusCode;",
  "    this.statusText = statusText;",
  "    this.body = body;",
  "  \x7d",
  "",
  "  isRetryable() \x7b",
  "    return this.statusCode >= 500 || this.statusCode === 429;",
  "  \x7d",
  "\x7d",
  "",
  "module.exports = ApiError;"]⟩

/-- The file of the settings. -/
def configFile (p : ClientPlan) : Artifact := ⟨"src/config/Config.js", [
  "require('dotenv').config();",
  "",
  "function intFromEnv(name, fallback) \x7b",
  "  const value = process.env[name];",
  "  if (value === undefined || value === '') \x7b",
  "    return fallback;",
  "  \x7d",
  "  const parsed = parseInt(value, 10);",
  "  if (Number.isNaN(parsed)) \x7b",
  "    throw new Error(`$\x7bname\x7d must be an integer, got $\x7bvalue\x7d`);",
  "  \x7d",
  "  return parsed;",
  "\x7d",
  "",
  "/**",
  " * Client settings. Explicit options win over environment variables, which",
  " * win over the built-in defaults.",
  " */",
  "class Config \x7b",
  "  constructor(options = \x7b\x7d) \x7b",
  "    this.baseUrl = options.baseUrl || process.env." ++ Setting.baseUrl.variable ++ " || " ++ literal p.baseUrl ++ ";",
  "    this.timeout = options.timeout ?? intFromEnv('" ++ Setting.timeout.variable ++ "', " ++ Setting.defaultTimeout ++ ");",
  "    this.maxRetries = options.maxRetries ?? intFromEnv('" ++ Setting.maxRetries.variable ++ "', " ++ Setting.defaultRetries ++ ");",
  "    this.authType = options.authType || process.env." ++ Setting.authType.variable ++ " || " ++ literal Setting.defaultAuthType ++ ";",
  "    this.apiKey = options.apiKey || process.env." ++ Setting.apiKey.variable ++ ";",
  "    this.bearerToken = options.bearerToken || process.env." ++ Setting.bearerToken.variable ++ ";",
  "    this.username = options.username || process.env." ++ Setting.username.variable ++ ";",
  "    this.password = options.password || process.env." ++ Setting.password.variable ++ ";",
  "    this.accessToken = options.accessToken || process.env." ++ Setting.accessToken.variable ++ ";",
  "    this.authHeaderName = options.authHeaderName || process.env." ++ Setting.authHeaderName.variable ++ ";",
  "  \x7d",
  "\x7d",
  "",
  "module.exports = Config;"]⟩

end ClientForge.Client.Node
