import ClientForge.Api.Basic
import ClientForge.Json.Literal
import ClientForge.Text.Blank

/-!
Target languages: how a client in each of them spells names, literals and comments (`Renderer` and the renderer
of each language).
-/

namespace ClientForge

/-- A language that clients are written in. -/
inductive Target where
  | node
  | python
  | go
  | java
  | php
deriving DecidableEq, Repr, Inhabited

namespace Target

def all : List Target := [node, python, go, java, php]

def name : Target → String
  | node => "node"
  | python => "python"
  | go => "go"
  | java => "java"
  | php => "php"

def ofName? (s : String) : Option Target := all.find? (·.name == s)

/-- The names of all targets in one text. -/
def names (sep : String) : String := sep.intercalate (all.map name)

/-! ## Words that are taken -/

/-- The words that no parameter of a generated method may be called (`Renderer.reserved`), nor the method itself:
those of the language and those that the method uses. -/
def reserved : Target → List String
  | node => [
    "arguments", "await", "break", "case", "catch", "class", "const", "continue", "debugger", "default",
    "delete", "do", "else", "enum", "eval", "export", "extends", "false", "finally", "for", "function",
    "if", "implements", "import", "in", "instanceof", "interface", "let", "new", "null", "package",
    "private", "protected", "public", "return", "static", "super", "switch", "this", "throw", "true",
    "try", "typeof", "undefined", "var", "void", "while", "with", "yield",
    "requestPath", "requestUrl", "queryParams", "requestBody", "headers"]
  | python => [
    "False", "None", "True", "and", "as", "assert", "async", "await", "break", "class", "continue", "def",
    "del", "elif", "else", "except", "finally", "for", "from", "global", "if", "import", "in", "is",
    "lambda", "nonlocal", "not", "or", "pass", "raise", "return", "try", "while", "with", "yield",
    "self", "request_path", "request_url", "query_params", "request_body", "headers"]
  | go => [
    "break", "case", "chan", "const", "continue", "default", "defer", "else", "fallthrough", "for", "func",
    "go", "goto", "if", "import", "interface", "map", "package", "range", "return", "select", "struct",
    "switch", "type", "var",
    "any", "bool", "byte", "error", "false", "float64", "int", "int64", "iota", "len", "make", "new",
    "nil", "rune", "string", "true",
    "c", "err", "headers", "requestPath", "requestURL", "queryParams", "requestBody",
    "buildQueryString", "encodeBody", "replacePathParam"]
  | java => [
    "abstract", "assert", "boolean", "break", "byte", "case", "catch", "char", "class", "const", "continue",
    "default", "do", "double", "else", "enum", "extends", "false", "final", "finally", "float", "for",
    "goto", "if", "implements", "import", "instanceof", "int", "interface", "long", "native", "new",
    "null", "package", "private", "protected", "public", "return", "short", "static", "strictfp", "super",
    "switch", "synchronized", "this", "throw", "throws", "transient", "true", "try", "var", "void",
    "volatile", "while", "record", "yield",
    "config", "authHandler", "requestHandler", "requestPath", "requestUrl", "queryParams", "requestBody",
    "headers"]
  | php => ["this", "requestPath", "requestUrl", "queryParams", "requestBody", "headers"]

/-- The members of a client that no generated method may hide (`Renderer.client_members`). -/
def members : Target → List String
  | node => ["constructor", "testConnection", "config", "authHandler", "requestHandler"]
  | python => ["test_connection", "config", "auth_handler", "request_handler", "session"]
  | go => ["TestConnection"]
  | java => [
    "testConnection", "getClass", "hashCode", "equals", "toString", "notify", "notifyAll", "wait", "clone",
    "finalize"]
  | php => ["__construct", "testConnection"]

/-! ## Names -/

/-- The case of method names. -/
def methodCase : Target → List Char → List Char
  | python => snake
  | go => pascal
  | _ => camel

/-- The case of parameter names. -/
def paramCase : Target → List Char → List Char
  | python => snake
  | _ => camel

/-- What makes two method names the same (`Renderer.method_key`): their letters, in any case if the language does
not tell the cases apart. -/
def methodKey (t : Target) (name : List Char) : List Char :=
  match t with
  | php => Text.lower name
  | _ => name

/-- The keys that no method may have. -/
def blockedKeys (t : Target) : List (List Char) :=
  (t.reserved ++ t.members).map fun w => t.methodKey w.toList

/-- The method name of an operation id (`Renderer.method_name`), perhaps empty. -/
def methodName (t : Target) (operationId : List Char) : List Char :=
  let name := t.methodCase operationId
  if t.blockedKeys.contains (t.methodKey name) then name ++ ['_'] else name

/-- The name of a parameter in a signature (`Renderer.param_name`). -/
def paramName (t : Target) (raw : List Char) : List Char :=
  let ident :=
    match t.paramCase raw with
    | [] => "param".toList
    | c :: w => if c.isDigit then 'p' :: c :: w else c :: w
  if t.reserved.contains (.ofList ident) then ident ++ ['_'] else ident

/-! ## Literals -/

/-- One character of a literal between single quotes, where a backslash stands only before a quote
and before itself. -/
def singleQuotedChar (c : Char) : List Char := if c = '\\' || c = '\'' then ['\\', c] else [c]

/-- A literal between single quotes. -/
def singleQuoted (s : List Char) : List Char := '\'' :: s.flatMap singleQuotedChar ++ ['\'']

/-- The literal of a text (`Renderer.literal`). -/
def literal (t : Target) (s : String) : String :=
  match t with
  | php => .ofList (singleQuoted s.toList)
  | _ => Json.literal s

/-! ## Comments -/

/-- A text on one line that does not end a comment. -/
def plainComment (s : List Char) : List Char :=
  Text.replace ['*', '/'] ['*', ' ', '/'] (Text.oneLine s)

/-- A text in a form that stays inside a comment of the language. -/
def commentChars (t : Target) (s : List Char) : List Char :=
  match t with
  | python => Text.replace ['"'] ['\''] (Text.replace ['\\'] ['\\', '\\'] (plainComment s))
  | php => Text.replace ['?', '>'] ['?', ' ', '>'] (plainComment s)
  | _ => plainComment s

/-- A text in a form that stays inside a comment of the language (`Renderer.comment`). -/
def comment (t : Target) (s : String) : String := .ofList (t.commentChars s.toList)

end Target

end ClientForge
