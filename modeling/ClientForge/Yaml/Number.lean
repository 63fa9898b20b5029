import ClientForge.Decimal.Double
import ClientForge.Text.Case
import ClientForge.Text.Blank
import ClientForge.Text.Word
import ClientForge.Text.Search
import ClientForge.Yaml.Fault

/-!
The numbers that scalars denote (`construct_yaml_int`, `construct_yaml_float`). Underscores in them say nothing. A
number may be written to the base sixty, with colons between its places.
-/

namespace ClientForge.Yaml

/-- Blanks around a number. -/
def isNumberBlank (c : Char) : Bool := Text.isBlank c && !(0x1C ≤ c.toNat && c.toNat ≤ 0x1F)

/-- Digits of every script as ASCII digits. -/
def plainDigits (s : List Char) : List Char :=
  s.map fun c => ((Text.digitValue? c).map fun d => Char.ofNat (48 + d)).getD c

/-- The sign of a number, and the rest. -/
def signOf : List Char → Bool × List Char
  | '-' :: s => (true, s)
  | '+' :: s => (false, s)
  | s => (false, s)

def withSign (negative : Bool) (n : Int) : Int := if negative then -n else n

/-- The letter that may stand after a zero before digits of a base. -/
def baseLetter (base : Nat) : List Char :=
  if base = 2 then ['b', 'B'] else if base = 8 then ['o', 'O'] else if base = 16 then ['x', 'X'] else []

/-- The greatest number of decimal digits of an integer. -/
def decimalLimit : Nat := 4300

/-- The integer that is written with digits of a base, between blanks, perhaps after a sign. -/
def integerIn (base : Nat) (s : List Char) : Except Fault Int :=
  let (negative, s) := signOf (Text.stripBy isNumberBlank (plainDigits s))
  let s :=
    match s with
    | '0' :: c :: rest => if (baseLetter base).contains c then rest else s
    | s => s
  if base = 10 && decimalLimit < s.length then .error .badValue
  else
    match Text.inBase? base s with
    | some n => .ok (withSign negative n)
    | none => .error .badValue

/-- Places to the base sixty, most significant first. -/
def sixties (places : List Int) : Int := places.foldl (fun n d => n * 60 + d) 0

/-- The integer that is written after a sign, to the base that its start shows. -/
def magnitude (s : List Char) : Except Fault Int :=
  match s with
  | [] => .error .emptyNumber
  | ['0'] => .ok 0
  | '0' :: 'b' :: s => integerIn 2 s
  | '0' :: 'x' :: s => integerIn 16 s
  | '0' :: _ => integerIn 8 s
  | _ =>
    if s.contains ':' then ((Text.splitAt ':' s).mapM (integerIn 10)).map sixties
    else integerIn 10 s

/-- The integer that a scalar denotes. -/
def readInteger (text : List Char) : Except Fault Int :=
  let s := text.filter (· != '_')
  if s.isEmpty then .error .emptyNumber
  else
    let (negative, s) := signOf s
    (magnitude s).map (withSign negative)

/-! ## Numbers with a point -/

/-- The digits at the front, and the rest. -/
def digitRun (s : List Char) : List Char × List Char := (s.takeWhile Char.isDigit, s.dropWhile Char.isDigit)

/-- The exponent that is the rest of a text, or none. -/
def exponentOf? : List Char → Option Int
  | [] => some 0
  | e :: s =>
    if e = 'e' || e = 'E' then
      let (negative, s) := signOf s
      (Text.inBase? 10 s).map fun n => withSign negative n
    else none

/-- A decimal number without a sign, or one of the words for no number and infinity. -/
def decimal? (negative : Bool) (s : List Char) : Option Double :=
  let word := String.ofList (Text.lower s)
  if word = "inf" || word = "infinity" then some (.infinity negative)
  else if word = "nan" then some .nan
  else
    let (whole, rest) := digitRun s
    let (places, rest) :=
      match rest with
      | '.' :: rest => digitRun rest
      | rest => ([], rest)
    if whole.isEmpty && places.isEmpty then none
    else do
      let e ← exponentOf? rest
      let n ← Text.inBase? 10 (whole ++ places)
      return .ofDecimal negative n (e - places.length)

/-- The number that is written in decimal between blanks, perhaps after a sign. -/
def readDecimal (s : List Char) : Except Fault Double :=
  let (negative, s) := signOf (Text.stripBy isNumberBlank (plainDigits s))
  match decimal? negative s with
  | some x => .ok x
  | none => .error .badValue

/-- Places to the base sixty, least significant first, added up in this order; `unit` is the weight
of the first. -/
def sixtieths (unit : Nat) (sum : Float) : List Double → Except Fault Float
  | [] => .ok sum
  | d :: ds =>
    if Nat.pow 2 1024 ≤ unit then .error .tooGreat
    else sixtieths (unit * 60) (sum + d.toFloat * Float.ofNat unit) ds

/-- The number with a point that a scalar denotes. -/
def readFloat (text : List Char) : Except Fault Double :=
  let s := Text.lower (text.filter (· != '_'))
  if s.isEmpty then .error .emptyNumber
  else
    let (negative, s) := signOf s
    let sign (x : Double) : Double := if negative then x.neg else x
    if s = ".inf".toList then .ok (.infinity negative)
    else if s = ".nan".toList then .ok .nan
    else if s.contains ':' then do
      let places ← (Text.splitAt ':' s).mapM readDecimal
      return sign (.ofFloat (← sixtieths 1 0 places.reverse))
    else (readDecimal s).map sign

/-! ## Bytes -/

/-- The value of a sign of base 64. -/
def sextet? (c : Char) : Option Nat :=
  if 'A' ≤ c && c ≤ 'Z' then some (c.toNat - 65)
  else if 'a' ≤ c && c ≤ 'z' then some (c.toNat - 71)
  else if '0' ≤ c && c ≤ '9' then some (c.toNat + 4)
  else if c = '+' then some 62
  else if c = '/' then some 63
  else none

/-- The bytes of a text to the base 64. `place` is the place in a group of four signs, `left` the
bits not yet in a byte, and `pads` the padding signs read last. Other signs say nothing, and what
follows a complete padding neither. -/
def sextets (place left pads : Nat) (acc : List UInt8) : List Char → Option (List UInt8)
  | [] => if place = 0 then some acc.reverse else none
  | c :: s =>
    if c = '=' then
      if 2 ≤ place then
        if 4 ≤ place + (pads + 1) then some acc.reverse else sextets place left (pads + 1) acc s
      else sextets place left pads acc s
    else
      match sextet? c with
      | none => sextets place left pads acc s
      | some n =>
        match place with
        | 0 => sextets 1 n 0 acc s
        | 1 => sextets 2 (n % 16) 0 ((left * 4 + n / 16).toUInt8 :: acc) s
        | 2 => sextets 3 (n % 4) 0 ((left * 16 + n / 4).toUInt8 :: acc) s
        | _ => sextets 0 0 0 ((left * 64 + n).toUInt8 :: acc) s

/-- The bytes that a scalar denotes. -/
def readBytes (s : List Char) : Except Fault (List UInt8) :=
  if s.all (·.toNat < 0x80) then
    match sextets 0 0 0 [] s with
    | some bs => .ok bs
    | none => .error .malformed
  else .error .malformed

end ClientForge.Yaml
