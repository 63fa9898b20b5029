import ClientForge.Text.Search

/-!
Text literals: text between double quotes.

Quotes, backslashes and control characters are written as escapes, all else as it is. Code escapes
denote 16-bit units, and a high unit before a low one is one character.

A half without its other half is no character, and no text here holds one. Documents that write such a
half are left out: its place is taken by the replacement character. A strict reader refuses it.
-/

namespace ClientForge.Json

/-- The letter that stands for a control character in an escape. -/
def escapeLetter? (c : Char) : Option Char :=
  if c = '\x08' then some 'b'
  else if c = '\x0c' then some 'f'
  else if c = '\n' then some 'n'
  else if c = '\r' then some 'r'
  else if c = '\t' then some 't'
  else none

/-- One character of a literal. -/
def encodeChar (c : Char) : List Char :=
  if c = '"' || c = '\\' then ['\\', c]
  else
    match escapeLetter? c with
    | some e => ['\\', e]
    | none => if c.toNat < 0x20 then '\\' :: 'u' :: Text.hex 4 c.toNat else [c]

/-- The literal of a text. -/
def encode (s : List Char) : List Char := '"' :: s.flatMap encodeChar ++ ['"']

/-- The literal of a text. -/
def literal (s : String) : String := .ofList (encode s.toList)

/-! ## Reading -/

/-- The character that an escape of one sign denotes. -/
def unescape? (e : Char) : Option Char :=
  match e with
  | '"' | '\\' | '/' => some e
  | 'b' => some '\x08'
  | 'f' => some '\x0c'
  | 'n' => some '\n'
  | 'r' => some '\r'
  | 't' => some '\t'
  | _ => none

/-- Is the 16-bit unit the first half of a character? -/
def isHighUnit (n : Nat) : Bool := 0xD800 ≤ n && n < 0xDC00

/-- Is the 16-bit unit the second half of a character? -/
def isLowUnit (n : Nat) : Bool := 0xDC00 ≤ n && n < 0xE000

/-- The characters denoted by code points and 16-bit units. A half without its other half becomes
the replacement character. -/
def joinUnits : List Nat → List Char
  | [] => []
  | [n] => [if isHighUnit n || isLowUnit n then '\uFFFD' else Char.ofNat n]
  | m :: n :: ns =>
    if isHighUnit m && isLowUnit n then
      Char.ofNat (0x10000 + (m - 0xD800) * 0x400 + (n - 0xDC00)) :: joinUnits ns
    else if isHighUnit m || isLowUnit m then '\uFFFD' :: joinUnits (n :: ns)
    else Char.ofNat m :: joinUnits (n :: ns)

/-- Is there a half without its other half? -/
def holdsHalf : List Nat → Bool
  | [] => false
  | [n] => isHighUnit n || isLowUnit n
  | m :: n :: ns =>
    if isHighUnit m && isLowUnit n then holdsHalf ns
    else isHighUnit m || isLowUnit m || holdsHalf (n :: ns)

end ClientForge.Json
