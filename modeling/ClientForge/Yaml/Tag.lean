import ClientForge.Yaml.Moment

/-!
Tags: what a scalar or collection stands for. A plain scalar without a tag gets one by its spelling (`Resolver`).
-/

namespace ClientForge.Yaml

/-- The kinds of values. -/
inductive Tag where
  | null
  | bool
  | int
  | float
  | moment
  | binary
  | text
  | sequence
  | mapping
  | set
  /-- A list of pairs, written as a sequence of mappings of one entry. -/
  | pairs
  /-- The key under which the entries of other mappings are included. -/
  | merge
  /-- The key under which a mapping holds a plain value. -/
  | value
  /-- Any other tag: it has no values here. -/
  | unknown
deriving DecidableEq, Repr

/-- The tag of a full name. -/
def Tag.ofName (name : String) : Tag :=
  match Text.after? "tag:yaml.org,2002:".toList name.toList with
  | none => .unknown
  | some short =>
    match String.ofList short with
    | "null" => .null
    | "bool" => .bool
    | "int" => .int
    | "float" => .float
    | "timestamp" => .moment
    | "binary" => .binary
    | "str" => .text
    | "seq" => .sequence
    | "map" => .mapping
    | "set" => .set
    | "omap" | "pairs" => .pairs
    | "merge" => .merge
    | "value" => .value
    | _ => .unknown

/-! ## Spellings -/

/-- Is the text one or more characters of a class? -/
def isRun (p : Char → Bool) (s : List Char) : Bool := !s.isEmpty && s.all p

/-- The text without a sign before it. -/
def unsigned : List Char → List Char
  | '+' :: s => s
  | '-' :: s => s
  | s => s

/-- A digit, then digits and underscores. -/
def isDigits : List Char → Bool
  | [] => false
  | c :: s => isDigit c && s.all fun c => isDigit c || c == '_'

/-- A whole number below sixty, of one or two digits. -/
def isSixtieth : List Char → Bool
  | [d] => isDigit d
  | [t, d] => '0' ≤ t && t ≤ '5' && isDigit d
  | _ => false

/-- The spellings of integers: binary, octal, decimal, hexadecimal, and to the base sixty. -/
def isInteger (s : List Char) : Bool :=
  match unsigned s with
  | '0' :: 'b' :: s => isRun (fun c => c == '0' || c == '1' || c == '_') s
  | '0' :: 'x' :: s => isRun (fun c => (Text.hexValue? c).isSome || c == '_') s
  | ['0'] => true
  | '0' :: s => isRun (fun c => ('0' ≤ c && c ≤ '7') || c == '_') s
  | s =>
    match Text.splitAt ':' s with
    | first :: more => isDigits first && more.all isSixtieth
    | [] => false

/-- An exponent with its sign, or nothing. -/
def isExponent : List Char → Bool
  | [] => true
  | e :: s :: ds => (e == 'e' || e == 'E') && (s == '+' || s == '-') && isRun isDigit ds
  | _ => false

/-- What may follow the point of a number: digits and underscores, and an exponent. -/
def isFraction (s : List Char) : Bool := isExponent (s.dropWhile fun c => isDigit c || c == '_')

/-- The spellings of numbers with a point: decimal, to the base sixty, infinite, and not a
number. -/
def isFloat (s : List Char) : Bool :=
  let word := String.ofList s
  let isInfinity := [".inf", ".Inf", ".INF"].contains (String.ofList (unsigned s))
  let isNaN := [".nan", ".NaN", ".NAN"].contains word
  let isPoint :=
    match s with
    | '.' :: d :: s => isDigit d && isFraction s
    | _ => false
  let isDecimal :=
    match Text.cut? ['.'] (unsigned s) with
    | some (whole, rest) =>
      match Text.splitAt ':' whole with
      | [whole] => isDigits whole && isFraction rest
      | first :: more => isDigits first && more.all isSixtieth && rest.all fun c => isDigit c || c == '_'
      | [] => false
    | none => false
  isInfinity || isNaN || isPoint || isDecimal

/-- The words of truth values. -/
def truthWords : List String :=
  ["yes", "Yes", "YES", "no", "No", "NO", "true", "True", "TRUE", "false", "False", "FALSE", "on", "On",
    "ON", "off", "Off", "OFF"]

/-- The text without a line feed at its end. -/
def withoutLineFeed (s : List Char) : List Char :=
  if s.getLast? = some '\n' then s.dropLast else s

/-- The tag of a plain scalar. -/
def Tag.ofPlain (text : List Char) : Tag :=
  let s := withoutLineFeed text
  let word := String.ofList s
  if text.isEmpty || ["~", "null", "Null", "NULL"].contains word then .null
  else if truthWords.contains word then .bool
  else if isFloat s then .float
  else if isInteger s then .int
  else if word = "<<" then .merge
  else if (MomentText.read? s).any (·.isPlain) then .moment
  else if word = "=" then .value
  else if word = "!" || word = "&" || word = "*" then .unknown
  else .text

end ClientForge.Yaml
