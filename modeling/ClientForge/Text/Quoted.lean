import ClientForge.Text.HiddenTable
import ClientForge.Text.Word
import ClientForge.Text.Search

/-!
Quoted text, as messages show it (`repr`): between quotes, with escapes for quotes, backslashes and
everything that has no visible form.
-/

namespace ClientForge.Text

/-- Has the character a visible form? Of the blanks only the space has one. -/
def isVisible (c : Char) : Bool :=
  if c.toNat < 0x80 then 0x20 ≤ c.toNat && c.toNat < 0x7F else !inRanges hiddenRanges c.toNat

/-- One character between the quotes `q`. -/
def quotedChar (q c : Char) : List Char :=
  if c = q || c = '\\' then ['\\', c]
  else if c = '\t' then ['\\', 't']
  else if c = '\n' then ['\\', 'n']
  else if c = '\r' then ['\\', 'r']
  else if isVisible c then [c]
  else if c.toNat < 0x100 then '\\' :: 'x' :: hex 2 c.toNat
  else if c.toNat < 0x10000 then '\\' :: 'u' :: hex 4 c.toNat
  else '\\' :: 'U' :: hex 8 c.toNat

/-- Single quotes, unless the text has a single quote and no double one. -/
def quoteFor (s : List Char) : Char :=
  if s.contains '\'' && !s.contains '"' then '"' else '\''

def quotedChars (s : List Char) : List Char :=
  let q := quoteFor s
  q :: s.flatMap (quotedChar q) ++ [q]

/-- The text between quotes. -/
def quoted (s : String) : String := .ofList (quotedChars s.toList)

/-- A byte string between quotes: ASCII as it is, all else by escapes. -/
def quotedBytes (bs : List UInt8) : String :=
  let cs := bs.map fun b => Char.ofNat b.toNat
  let q := quoteFor cs
  let body := cs.flatMap fun c =>
    if c.toNat < 0x7F then quotedChar q c else '\\' :: 'x' :: hex 2 c.toNat
  .ofList ('b' :: q :: body ++ [q])

end ClientForge.Text
