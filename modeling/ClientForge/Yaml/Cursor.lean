/-!
A place in a YAML text: the rest of the text, and where it starts.
-/

namespace ClientForge.Yaml

/-! ## Kinds of characters -/

/-- May the character stand in a YAML text? -/
def isAllowed (c : Char) : Bool :=
  let n := c.toNat
  n == 0x9 || n == 0xA || n == 0xD || (0x20 ≤ n && n ≤ 0x7E) || n == 0x85 || (0xA0 ≤ n && n ≤ 0xFFFD) ||
    0x10000 ≤ n

/-- Does the character end a line? -/
def isBreak (c : Char) : Bool :=
  c == '\n' || c == '\r' || c == '\u0085' || c == '\u2028' || c == '\u2029'

/-- The characters of anchors, directives and tag handles. -/
def isNameChar (c : Char) : Bool := c.isAlphanum || c == '-' || c == '_'

/-- Does the line end here? -/
def atLineEnd : List Char → Bool
  | [] => true
  | c :: _ => isBreak c

/-- Does a space or the end of the line come next? -/
def atSpace : List Char → Bool
  | [] => true
  | c :: _ => c == ' ' || isBreak c

/-- Does a blank or the end of the line come next? -/
def atGap : List Char → Bool
  | [] => true
  | c :: _ => c == ' ' || c == '\t' || isBreak c

/-- Do the three signs of a document border stand here, by themselves? -/
def atBorder : List Char → Bool
  | '-' :: '-' :: '-' :: s => atGap s
  | '.' :: '.' :: '.' :: s => atGap s
  | _ => false

/-! ## Places -/

/-- A place in a text. -/
structure Cursor where
  rest : List Char
  /-- Characters before the place. -/
  index : Nat
  /-- Line ends before the place. -/
  line : Nat
  /-- Characters since the last line end, byte order marks not counted. -/
  column : Nat
deriving Repr

namespace Cursor

def ofText (s : List Char) : Cursor := ⟨s, 0, 0, 0⟩

/-- One character on. -/
def step (c : Cursor) : Cursor :=
  match c.rest with
  | [] => c
  | '\r' :: '\n' :: s => ⟨'\n' :: s, c.index + 1, c.line, c.column + 1⟩
  | ch :: s =>
    if isBreak ch then ⟨s, c.index + 1, c.line + 1, 0⟩
    else if ch = '\uFEFF' then ⟨s, c.index + 1, c.line, c.column⟩
    else ⟨s, c.index + 1, c.line, c.column + 1⟩

/-- Some characters on. -/
def steps : Nat → Cursor → Cursor
  | 0, c => c
  | n + 1, c => steps n c.step

/-- The characters that satisfy `p`, and the place after them. -/
def span (p : Char → Bool) (c : Cursor) : List Char × Cursor :=
  let taken := c.rest.takeWhile p
  (taken, c.steps taken.length)

/-- The place after the characters that satisfy `p`. -/
def skip (p : Char → Bool) (c : Cursor) : Cursor := (c.span p).2

def skipSpaces (c : Cursor) : Cursor := c.skip (· == ' ')

/-- The place after spaces and a comment. -/
def skipComment (c : Cursor) : Cursor :=
  let c := c.skipSpaces
  match c.rest with
  | '#' :: _ => c.skip fun ch => !isBreak ch
  | _ => c

/-- The line end that comes next, and the place after it. All ends but the two Unicode ones are
read as a line feed. -/
def lineBreak? (c : Cursor) : Option (Char × Cursor) :=
  match c.rest with
  | '\r' :: '\n' :: _ => some ('\n', c.steps 2)
  | ch :: _ =>
    if ch = '\u2028' || ch = '\u2029' then some (ch, c.step)
    else if isBreak ch then some ('\n', c.step)
    else none
  | [] => none

/-- The place after a line end, if one comes next. -/
def skipBreak (c : Cursor) : Cursor := (c.lineBreak?.map (·.2)).getD c

/-- The line ends that come next, with what `skipBlank` skips before and after each, and the place
after them. -/
def lineBreaks (skipBlank : Cursor → Cursor) : Nat → Cursor → List Char × Cursor
  | 0, c => ([], skipBlank c)
  | fuel + 1, c =>
    let c := skipBlank c
    match c.lineBreak? with
    | some (b, next) =>
      let (bs, last) := lineBreaks skipBlank fuel next
      (b :: bs, last)
    | none => ([], c)

end Cursor

end ClientForge.Yaml
