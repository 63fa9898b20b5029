/-!
Why a text is no JSON document (`JSONDecodeError`), and where.
-/

namespace ClientForge.Json

/-- What is wrong with a text. -/
inductive Cause where
  | noValue
  | noName
  | noColon
  | noComma
  | unterminated
  | controlCharacter
  | badEscape
  | badCode
  | extraData
  | byteOrderMark
  /-- An integer of more digits than are read. -/
  | longInteger (digits : Nat)
  /-- Half of a character without its other half. -/
  | halfCharacter
  /-- More levels of arrays and objects than allowed. -/
  | tooDeep
deriving DecidableEq, Repr

/-- The greatest number of digits of an integer; for a strict reader its sign counts as one of them. -/
def integerLimit : Nat := 4300

def Cause.message : Cause → String
  | noValue => "Expecting value"
  | noName => "Expecting property name enclosed in double quotes"
  | noColon => "Expecting ':' delimiter"
  | noComma => "Expecting ',' delimiter"
  | unterminated => "Unterminated string starting at"
  | controlCharacter => "Invalid control character at"
  | badEscape => "Invalid \\escape"
  | badCode => "Invalid \\uXXXX escape"
  | extraData => "Extra data"
  | byteOrderMark => "Unexpected UTF-8 BOM (decode using utf-8-sig)"
  | longInteger digits =>
    "Exceeds the limit (" ++ toString integerLimit ++ " digits) for integer string conversion: value has " ++
      toString digits ++ " digits; use sys.set_int_max_str_digits() to increase the limit"
  | halfCharacter => "lone surrogate in hex escape"
  | tooDeep => "recursion limit exceeded"

/-- A fault while reading, with the number of characters from it to the end of the text. -/
structure Stop where
  cause : Cause
  left : Nat
deriving DecidableEq, Repr

/-- A fault with its place. -/
structure Error where
  cause : Cause
  /-- The number of characters before the fault. -/
  position : Nat
  /-- The line of the fault, from one. -/
  line : Nat
  /-- The place in the line, from one. -/
  column : Nat
deriving DecidableEq, Repr

/-- The place of a fault in a text. -/
def Stop.locate (stop : Stop) (text : List Char) : Error :=
  let before := text.take (text.length - stop.left)
  { cause := stop.cause
    position := before.length
    line := before.count '\n' + 1
    column := (before.reverse.takeWhile (· != '\n')).length + 1 }

/-- The cause and the place; a long integer is reported without its place. -/
def Error.message (e : Error) : String :=
  match e.cause with
  | .longInteger _ => e.cause.message
  | _ =>
    e.cause.message ++ ": line " ++ toString e.line ++ " column " ++ toString e.column ++
      " (char " ++ toString e.position ++ ")"

end ClientForge.Json
