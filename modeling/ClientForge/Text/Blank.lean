/-!
Blank characters, and trimming and collapsing text at them.
-/

namespace ClientForge.Text

/-- The characters with the Unicode white-space property, and the four ASCII information
separators. -/
def isBlank (c : Char) : Bool :=
  let n := c.toNat
  (0x9 ≤ n && n ≤ 0xD) || (0x1C ≤ n && n ≤ 0x20) || n == 0x85 || n == 0xA0 || n == 0x1680 ||
    (0x2000 ≤ n && n ≤ 0x200A) || n == 0x2028 || n == 0x2029 || n == 0x202F || n == 0x205F ||
    n == 0x3000

/-- Drop the leading characters that satisfy `p`, and the trailing ones. -/
def stripBy (p : Char → Bool) (s : List Char) : List Char :=
  ((s.dropWhile p).reverse.dropWhile p).reverse

/-- Drop the trailing characters that satisfy `p`. -/
def stripRightBy (p : Char → Bool) (s : List Char) : List Char :=
  (s.reverse.dropWhile p).reverse

/-- Drop blanks at both ends. -/
def trim (s : List Char) : List Char := stripBy isBlank s

/-- Drop blanks at the end. -/
def trimRight (s : List Char) : List Char := stripRightBy isBlank s

/-- Every run of blanks becomes one space. `inRun` says whether the run before has been
written. -/
def squeeze (inRun : Bool) : List Char → List Char
  | [] => []
  | c :: cs =>
    if isBlank c then
      if inRun then squeeze true cs else ' ' :: squeeze true cs
    else c :: squeeze false cs

/-- The text on one line: runs of blanks become one space, none at the ends. -/
def oneLine (s : List Char) : List Char := trim (squeeze false s)

end ClientForge.Text

namespace String

/-- Drop blanks at both ends. -/
def trimBlank (s : String) : String := .ofList (ClientForge.Text.trim s.toList)

/-- The text on one line: runs of blanks become one space, none at the ends. -/
def oneLine (s : String) : String := .ofList (ClientForge.Text.oneLine s.toList)

end String
