import ClientForge.Text.CaseTable

/-!
Upper and lower case, letter by letter. The Greek sigma alone has two small forms: one for the end
of a word, one for all other places.
-/

namespace ClientForge.Text

/-- The counterpart of a code point by expansion, else by shift, else itself. -/
def mapCase (expansions : List (Nat × List Nat)) (shifts : List CaseShift) (c : Char) :
    List Char :=
  match expansions.lookup c.toNat with
  | some ns => ns.map Char.ofNat
  | none =>
    match shifts.find? (·.covers c.toNat) with
    | some s => [Char.ofNat (c.toNat + s.shift).toNat]
    | none => [c]

/-- The lower case of one character. -/
def lowerChar (c : Char) : List Char :=
  if c.toNat < 0x80 then [c.toLower] else mapCase lowerExpansions lowerShifts c

/-- The upper case of one character. -/
def upperChar (c : Char) : List Char :=
  if c.toNat < 0x80 then [c.toUpper] else mapCase upperExpansions upperShifts c

/-- Has the letter another case? -/
def isCased (c : Char) : Bool := lowerChar c != [c] || upperChar c != [c]

/-- The signs and accents that do not separate the letters of a word. -/
def isCaseless (c : Char) : Bool :=
  let n := c.toNat
  ['\'', '.', ':', '^', '`'].contains c || n == 0xA8 || n == 0xAD || n == 0xAF || n == 0xB4 || n == 0xB7 ||
    n == 0xB8 || (0x2B0 ≤ n && n ≤ 0x36F) || n == 0x2018 || n == 0x2019 || n == 0x2024 || n == 0x2027

/-- Does a cased letter come first, but for signs and accents? -/
def startsCased (s : List Char) : Bool := (s.dropWhile isCaseless).head?.any isCased

/-- The lower case of a text after the text `before`, which is given backwards. -/
def lowerAfter (before : List Char) : List Char → List Char
  | [] => []
  | c :: s =>
    (if c = 'Σ' && startsCased before && !startsCased s then ['ς'] else lowerChar c) ++
      lowerAfter (c :: before) s

def lower (s : List Char) : List Char := lowerAfter [] s
def upper (s : List Char) : List Char := s.flatMap upperChar

/-- Are `c` and the ASCII letter or sign `p` the same but for case? Beside the two cases of the
letter these are the dotted and dotless i, the long s and the Kelvin sign. -/
def sameLetter (p c : Char) : Bool :=
  c.toLower == p.toLower ||
    (p.toLower == 'i' && (c == '\u0130' || c == '\u0131')) ||
    (p.toLower == 's' && c == '\u017F') ||
    (p.toLower == 'k' && c == '\u212A')

/-- What follows `p`, if the text starts with it in any case. -/
def afterAnyCase? : List Char → List Char → Option (List Char)
  | [], s => some s
  | _ :: _, [] => none
  | p :: ps, c :: s => if sameLetter p c then afterAnyCase? ps s else none

end ClientForge.Text

namespace String

def lowered (s : String) : String := .ofList (ClientForge.Text.lower s.toList)
def uppered (s : String) : String := .ofList (ClientForge.Text.upper s.toList)

end String
