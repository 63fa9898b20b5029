import ClientForge.Html.NameTable
import ClientForge.Text.Search

/-!
Character references (`unescape`, `handle_charref`): characters written by number or by name.
-/

namespace ClientForge.Html

/-- The greatest number of digits of a decimal character number. -/
def digitLimit : Nat := 4300

/-- The characters of the numbers 128 to 159, which are those of an old code page. -/
def oldPage : List Char :=
  ['\u20ac', '\u0081', '\u201a', '\u0192', '\u201e', '\u2026', '\u2020', '\u2021', '\u02c6', '\u2030',
    '\u0160', '\u2039', '\u0152', '\u008d', '\u017d', '\u008f', '\u0090', '\u2018', '\u2019', '\u201c',
    '\u201d', '\u2022', '\u2013', '\u2014', '\u02dc', '\u2122', '\u0161', '\u203a', '\u0153', '\u009d',
    '\u017e', '\u0178']

/-- The character of a number; the replacement character where there is none. Texts that name half of a character
are left out: there is none for it. -/
def charOf (n : Nat) : Char :=
  if 0x110000 ≤ n || (0xD800 ≤ n && n < 0xE000) then '\uFFFD'
  else if 0x80 ≤ n && n < 0xA0 then (oldPage[n - 0x80]?).getD '\uFFFD'
  else Char.ofNat n

/-- Is there no character of the number, or one that stands for nothing? -/
def isInvalid (n : Nat) : Bool :=
  (0x1 ≤ n && n ≤ 0x8) || n == 0xB || (0xE ≤ n && n ≤ 0x1F) || n == 0x7F || (0xFDD0 ≤ n && n ≤ 0xFDEF) ||
    n % 0x10000 == 0xFFFE || n % 0x10000 == 0xFFFF

/-- A number written in decimal, or after an `x` in hexadecimal. Decimal numbers have a greatest
length. -/
def number? (s : List Char) : Option Nat :=
  match s with
  | 'x' :: ds => Text.inBase? 16 ds
  | 'X' :: ds => Text.inBase? 16 ds
  | ds => if digitLimit < ds.length then none else Text.inBase? 10 ds

/-- The characters of a name. -/
def named? (name : String) : Option (List Char) :=
  (characterNames.lookup name).map fun ns => ns.map Char.ofNat

/-! ## Attribute values -/

def isDecimal (c : Char) : Bool := '0' ≤ c && c ≤ '9'
def isHex (c : Char) : Bool := (Text.hexValue? c).isSome

/-- The characters of a name that may lack its semicolon. -/
def openNamed? (name : List Char) : Option (List Char) :=
  let s := String.ofList name
  if openNames.contains s then named? s else none

/-- The longest beginning, of two or more characters, that is a name without semicolon, replaced. -/
def longestNamed? (name : List Char) : Nat → Option (List Char)
  | 0 | 1 => none
  | n + 2 =>
    match openNamed? (name.take (n + 2)) with
    | some cs => some (cs ++ name.drop (n + 2))
    | none => longestNamed? name (n + 1)

/-- A named reference after its ampersand. -/
def namedText (name : List Char) (closed : Bool) : List Char :=
  let known := if closed then named? (.ofList name) else openNamed? name
  let longest := longestNamed? name (if closed then name.length else name.length - 1)
  match known, longest with
  | some cs, _ => cs
  | none, some cs => cs ++ (if closed then [';'] else [])
  | none, none => '&' :: name ++ (if closed then [';'] else [])

/-- A numeric reference after its number sign. -/
def numericText? (digits : List Char) : Option (List Char) :=
  (number? digits).map fun n =>
    if n = 0 then ['\uFFFD'] else if isInvalid n then [] else [charOf n]

/-- May the character stand in the name of a reference? -/
def isNameChar (c : Char) : Bool := !("\t\n\x0c <&#;".toList.contains c)

/-- The digits of a numeric reference after its number sign. -/
def referenceDigits : List Char → List Char
  | 'x' :: s => if s.head?.any isHex then 'x' :: s.takeWhile isHex else []
  | 'X' :: s => if s.head?.any isHex then 'X' :: s.takeWhile isHex else []
  | s => s.takeWhile isDecimal

/-- The text with its character references replaced. Nothing, if a number is too long. -/
def unescapeFrom : Nat → List Char → Option (List Char)
  | 0, s => some s
  | _ + 1, [] => some []
  | fuel + 1, c :: s =>
    if c ≠ '&' then (unescapeFrom fuel s).map (c :: ·)
    else
      let close (t : List Char) : Bool × List Char :=
        match t with
        | ';' :: t => (true, t)
        | t => (false, t)
      match s with
      | '#' :: t =>
        let ds := referenceDigits t
        if ds.isEmpty then (unescapeFrom fuel s).map (c :: ·)
        else
          match numericText? ds with
          | none => none
          | some cs => (unescapeFrom fuel (close (t.drop ds.length)).2).map (cs ++ ·)
      | _ =>
        let name := (s.take 32).takeWhile isNameChar
        if name.isEmpty then (unescapeFrom fuel s).map (c :: ·)
        else
          let (closed, rest) := close (s.drop name.length)
          (unescapeFrom fuel rest).map (namedText name closed ++ ·)

/-- The text of an attribute value with its character references replaced. -/
def unescape? (s : List Char) : Option (List Char) := unescapeFrom s.length s

end ClientForge.Html
