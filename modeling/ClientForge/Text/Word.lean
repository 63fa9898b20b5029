import ClientForge.Text.WordTable
import ClientForge.Text.DigitTable

/-!
Word characters and digits in every script.
-/

namespace ClientForge.Text

/-- Does one of the ranges hold the code point? -/
def inRanges (ranges : List (Nat × Nat)) (n : Nat) : Bool :=
  ranges.any fun r => r.1 ≤ n && n ≤ r.2

/-- Letters, digits and other numerals of any script, and the underscore. -/
def isWord (c : Char) : Bool :=
  if c.toNat < 0x80 then c.isAlphanum || c == '_' else inRanges wordRanges c.toNat

/-- The place value of a decimal digit of any script. -/
def digitValue? (c : Char) : Option Nat :=
  (digitZeros.find? fun z => z ≤ c.toNat && c.toNat < z + 10).map (c.toNat - ·)

/-- Decimal digits of any script, and digits without a place value. -/
def isDigit (c : Char) : Bool :=
  (digitValue? c).isSome || inRanges ornamentalDigits c.toNat

/-- Is there a word boundary between a character and the one after it? Text has no word
character before its start or after its end. -/
def isBoundary (before after : Option Char) : Bool :=
  before.any isWord != after.any isWord

/-- The number written by decimal digits of any script, most significant first. -/
def number? (s : List Char) : Option Nat :=
  if s.isEmpty then none
  else s.foldl (fun acc c => do return (← acc) * 10 + (← digitValue? c)) (some 0)

end ClientForge.Text
