import ClientForge.Json.Basic
import ClientForge.Json.Error
import ClientForge.Json.Literal

/-!
Reading JSON: documents as they come (`json.loads`), and saved models strictly (`model_validate_json`).

Beside the standard values the numbers `NaN`, `Infinity` and `-Infinity` are read. Of members of one
name the last value counts, in the place of the first. A strict reader refuses halves of characters, and
counts the sign with the digits of a number, of which it limits those before the point even where there is
a point.

Each reader returns the value and the rest of the text. A fault carries the number of characters
left, from which its place follows.
-/

namespace ClientForge.Json

/-- A value read from the front of a text, and the rest. -/
abbrev Read (α : Type) := Except Stop (α × List Char)

/-- The blanks between tokens. -/
def isBlank (c : Char) : Bool := c == ' ' || c == '\t' || c == '\n' || c == '\r'

def skipBlanks (s : List Char) : List Char := s.dropWhile isBlank

/-! ## Texts -/

/-- The units of a text after its opening quote. -/
def readUnits (acc : List Nat) : List Char → Read (List Nat)
  | [] => .error ⟨.unterminated, 0⟩
  | '"' :: s => .ok (acc.reverse, s)
  | ['\\'] => .error ⟨.unterminated, 0⟩
  | '\\' :: 'u' :: a :: b :: c :: d :: s =>
    match Text.inBase? 16 [a, b, c, d] with
    | some n => if s.isEmpty then .error ⟨.badCode, 5⟩ else readUnits (n :: acc) s
    | none => .error ⟨.badCode, s.length + 5⟩
  | '\\' :: 'u' :: s => .error ⟨.badCode, s.length + 1⟩
  | '\\' :: e :: s =>
    match unescape? e with
    | some c => readUnits (c.toNat :: acc) s
    | none => .error ⟨.badEscape, s.length + 2⟩
  | c :: s =>
    if c.toNat < 0x20 then .error ⟨.controlCharacter, s.length + 1⟩
    else readUnits (c.toNat :: acc) s

/-- A text after its opening quote. Where the closing quote is missing, the fault is at the opening
one. -/
def readText (strict : Bool) (s : List Char) : Read String :=
  match readUnits [] s with
  | .ok (units, rest) =>
    if strict && holdsHalf units then .error ⟨.halfCharacter, s.length + 1⟩
    else .ok (.ofList (joinUnits units), rest)
  | .error ⟨.unterminated, _⟩ => .error ⟨.unterminated, s.length + 1⟩
  | .error stop => .error stop

/-! ## Numbers -/

def isDigit (c : Char) : Bool := '0' ≤ c && c ≤ '9'

/-- The digits at the front of a text, and the rest. -/
def digits (s : List Char) : List Char × List Char := (s.takeWhile isDigit, s.dropWhile isDigit)

/-- The number written by decimal digits. -/
def natOf (ds : List Char) : Nat := ds.foldl (fun n d => n * 10 + (d.toNat - 48)) 0

/-- The digits before the point: a zero alone, or digits that do not start with zero. -/
def wholeDigits? : List Char → Option (List Char × List Char)
  | '0' :: s => some (['0'], s)
  | s =>
    match digits s with
    | ([], _) => none
    | found => some found

/-- The digits after a point, if a point and a digit come next. -/
def fractionDigits? : List Char → Option (List Char × List Char)
  | '.' :: s =>
    match digits s with
    | ([], _) => none
    | found => some found
  | _ => none

/-- The exponent, if the letter, an optional sign and a digit come next. -/
def exponent? : List Char → Option (Int × List Char)
  | e :: s =>
    if e = 'e' || e = 'E' then
      let (negative, s) :=
        match s with
        | '-' :: s => (true, s)
        | '+' :: s => (false, s)
        | s => (false, s)
      match digits s with
      | ([], _) => none
      | (ds, rest) => some (if negative then -(natOf ds : Int) else natOf ds, rest)
    else none
  | [] => none

/-- How much of the limit the digits before a point take up. -/
def width (strict negative : Bool) (whole : List Char) : Nat :=
  if strict && negative then whole.length + 1 else whole.length

/-- A number after its sign; `left` is the number of characters from the start of the number. -/
def readNumber (strict negative : Bool) (left : Nat) (s : List Char) : Read Json :=
  match wholeDigits? s with
  | none => .error ⟨.noValue, left⟩
  | some (whole, s) =>
    let isLong : Bool := integerLimit < width strict negative whole
    let fraction := fractionDigits? s
    let s := (fraction.map (·.2)).getD s
    let scale := exponent? s
    let s := (scale.map (·.2)).getD s
    if fraction.isNone && scale.isNone then
      if isLong then .error ⟨.longInteger whole.length, left⟩
      else .ok (.int (if negative then -(natOf whole : Int) else natOf whole), s)
    else if strict && isLong then .error ⟨.longInteger whole.length, left⟩
    else
      let places := (fraction.map (·.1)).getD []
      let exponent := (scale.map (·.1)).getD 0 - places.length
      .ok (.float (.ofDecimal negative (natOf (whole ++ places)) exponent), s)

/-! ## Values -/

/-- The values written by a word or a number. -/
def readScalar (strict : Bool) (s : List Char) : Read Json :=
  let word (w : String) (v : Json) : Option (Json × List Char) :=
    (Text.after? w.toList s).map fun rest => (v, rest)
  let words := word "null" .null <|> word "true" (.bool true) <|> word "false" (.bool false) <|>
    word "NaN" (.float .nan) <|> word "Infinity" (.float (.infinity false)) <|>
    word "-Infinity" (.float (.infinity true))
  match words, s with
  | some found, _ => .ok found
  | none, '-' :: t => readNumber strict true s.length t
  | none, _ => readNumber strict false s.length s

mutual

/-- A value at the front of a text. `levels` is how much deeper arrays and objects may nest. -/
def readValue (strict : Bool) (levels : Nat) : Nat → List Char → Read Json
  | 0, s => .error ⟨.noValue, s.length⟩
  | fuel + 1, s =>
    match s with
    | '"' :: s => (readText strict s).map fun (t, rest) => (.text t, rest)
    | '[' :: s =>
      match skipBlanks s with
      | ']' :: rest => .ok (.array [], rest)
      | s =>
        if levels = 0 then .error ⟨.tooDeep, s.length⟩
        else (readItems strict (levels - 1) fuel [] s).map fun (xs, rest) => (.array xs, rest)
    | '\x7b' :: s =>
      match skipBlanks s with
      | '\x7d' :: rest => .ok (.object [], rest)
      | s =>
        if levels = 0 then .error ⟨.tooDeep, s.length⟩
        else (readMembers strict (levels - 1) fuel [] s).map fun (ms, rest) => (.object ms, rest)
    | s => readScalar strict s
termination_by structural fuel => fuel

/-- The items of an array from one of them to the closing bracket. -/
def readItems (strict : Bool) (levels : Nat) : Nat → List Json → List Char → Read (List Json)
  | 0, _, s => .error ⟨.noValue, s.length⟩
  | fuel + 1, acc, s =>
    match readValue strict levels fuel s with
    | .error stop => .error stop
    | .ok (v, rest) =>
      match skipBlanks rest with
      | ']' :: rest => .ok ((v :: acc).reverse, rest)
      | ',' :: rest => readItems strict levels fuel (v :: acc) (skipBlanks rest)
      | rest => .error ⟨.noComma, rest.length⟩
termination_by structural fuel => fuel

/-- The members of an object from one of them to the closing brace. -/
def readMembers (strict : Bool) (levels : Nat) :
    Nat → List (String × Json) → List Char → Read (List (String × Json))
  | 0, _, s => .error ⟨.noName, s.length⟩
  | fuel + 1, acc, s =>
    match s with
    | '"' :: s =>
      match readText strict s with
      | .error stop => .error stop
      | .ok (name, rest) =>
        match skipBlanks rest with
        | ':' :: rest =>
          match readValue strict levels fuel (skipBlanks rest) with
          | .error stop => .error stop
          | .ok (v, rest) =>
            let acc := put name v acc
            match skipBlanks rest with
            | '\x7d' :: rest => .ok (acc, rest)
            | ',' :: rest => readMembers strict levels fuel acc (skipBlanks rest)
            | rest => .error ⟨.noComma, rest.length⟩
        | rest => .error ⟨.noColon, rest.length⟩
    | s => .error ⟨.noName, s.length⟩
termination_by structural fuel => fuel

end

/-- A text that is one value between blanks. -/
def readDocument (strict : Bool) (levels : Nat) (s : List Char) : Except Stop Json :=
  match s with
  | '\uFEFF' :: _ => .error ⟨.byteOrderMark, s.length⟩
  | _ =>
    match readValue strict levels (2 * s.length + 2) (skipBlanks s) with
    | .error stop => .error stop
    | .ok (v, rest) =>
      match skipBlanks rest with
      | [] => .ok v
      | rest => .error ⟨.extraData, rest.length⟩

/-- The value of a JSON text whose arrays and objects nest no deeper than `levels`. -/
def readWithin (strict : Bool) (levels : Nat) (text : String) : Except Error Json :=
  let s := text.toList
  (readDocument strict levels s).mapError (·.locate s)

/-- The value of a JSON text. -/
def read (text : String) : Except Error Json := readWithin false text.length text

end ClientForge.Json
