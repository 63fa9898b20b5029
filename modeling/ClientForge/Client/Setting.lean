/-!
The settings of generated clients: the environment variables that they read (`EnvVars`), and what holds where
none is set (`ClientDefaults`).
-/

namespace ClientForge

/-- A setting of a generated client. -/
inductive Setting where
  | baseUrl
  | timeout
  | maxRetries
  | authType
  | apiKey
  | bearerToken
  | username
  | password
  | accessToken
  | authHeaderName
deriving DecidableEq, Repr

/-- The environment variable of a setting. -/
def Setting.variable : Setting → String
  | baseUrl => "API_BASE_URL"
  | timeout => "API_TIMEOUT"
  | maxRetries => "API_MAX_RETRIES"
  | authType => "API_AUTH_TYPE"
  | apiKey => "API_KEY"
  | bearerToken => "API_BEARER_TOKEN"
  | username => "API_USERNAME"
  | password => "API_PASSWORD"
  | accessToken => "API_ACCESS_TOKEN"
  | authHeaderName => "API_AUTH_HEADER_NAME"

namespace Setting

/-- How long a client waits for an answer, in milliseconds. -/
def defaultTimeout : String := "30000"

/-- How often a client tries a request. -/
def defaultRetries : String := "3"

/-- The kind of authentication of a client that is told none. -/
def defaultAuthType : String := "none"

/-- The first pause before another try, in milliseconds. -/
def firstPause : String := "1000"

/-- The longest pause before another try, in milliseconds. -/
def longestPause : String := "10000"

/-- The address that stands for a server where an API names none. -/
def exampleUrl : String := "https://api.example.com"

end Setting

end ClientForge
