import ClientForge.Yaml.Scalar

/-!
Tokens of a YAML text (`Scanner`).

A collection in block style has no brackets of its own: its borders are tokens that follow from
the indentation. A key may be recognised only at the colon after it; until then its place in the
token list is kept, and the tokens that announce it are inserted there.
-/

namespace ClientForge.Yaml

/-- A token. -/
inductive Token where
  /-- A version directive, by its major number. -/
  | version (major : Nat)
  /-- A tag directive. -/
  | handle (name uri : String)
  /-- A directive of another name, which says nothing. -/
  | remark
  | documentStart
  | documentEnd
  | blockSequence
  | blockMapping
  | blockEnd
  | openBracket
  | closeBracket
  | openBrace
  | closeBrace
  | comma
  | dash
  | key
  | colon
  | alias (name : String)
  | anchor (name : String)
  /-- A tag: the handle, unless the tag is given in full, and what follows it. -/
  | tag (handle : Option String) (suffix : String)
  | scalar (text : String) (plain : Bool)
  /-- The text ends here … -/
  | done
  /-- … or cannot be read on. -/
  | broken (fault : Fault)
deriving Repr, DecidableEq

/-! ## Directives, anchors and tags -/

/-- The characters of tags beside letters and digits. -/
def isTagChar (c : Char) : Bool := c.isAlphanum || "-;/?:@&=+$,_.!~*'()[]".toList.contains c

/-- The bytes of the percent escapes that come next, and the place after them. -/
def percentBytes : Nat → Cursor → Except Fault (List UInt8 × Cursor)
  | 0, c => .ok ([], c)
  | fuel + 1, c =>
    match c.rest with
    | '%' :: a :: b :: _ =>
      match Text.inBase? 16 [a, b] with
      | some n => (percentBytes fuel (c.steps 3)).map fun (bs, c) => (n.toUInt8 :: bs, c)
      | none => .error .malformed
    | '%' :: _ => .error .malformed
    | _ => .ok ([], c)

/-- The tag text that comes next, with its escapes replaced, and the place after it. -/
def tagText : Nat → Cursor → Except Fault (String × Cursor)
  | 0, c => .ok ("", c)
  | fuel + 1, c =>
    let (run, next) := c.span isTagChar
    match next.rest with
    | '%' :: _ => do
      let (bytes, next) ← percentBytes fuel next
      match String.fromUTF8? ⟨bytes.toArray⟩ with
      | some s =>
        let (more, last) ← tagText fuel next
        return (.ofList run ++ s ++ more, last)
      | none => .error .malformed
    | _ => .ok (.ofList run, next)

/-- The tag text that comes next; there has to be some. -/
def tagText1 (fuel : Nat) (c : Cursor) : Except Fault (String × Cursor) := do
  let (s, next) ← tagText fuel c
  if next.index = c.index then .error .malformed else return (s, next)

/-- A tag handle: an exclamation mark alone, or a name between two. Before a space it is alone. -/
def tagHandle (c : Cursor) : Except Fault (String × Cursor) :=
  match c.rest with
  | '!' :: ' ' :: _ => .ok ("!", c.step)
  | '!' :: s =>
    let name := s.takeWhile isNameChar
    match s.drop name.length with
    | '!' :: _ => .ok (.ofList ('!' :: name ++ ['!']), c.steps (name.length + 2))
    | _ => .error .malformed
  | _ => .error .malformed

/-- A number of a version, and the place after it. -/
def versionNumber (c : Cursor) : Except Fault (Nat × Cursor) :=
  let (ds, next) := c.span Char.isDigit
  match Text.inBase? 10 ds with
  | some n => .ok (n, next)
  | none => .error .malformed

/-- The content of a directive after its name. -/
def directiveContent (name : String) (fuel : Nat) (c : Cursor) : Except Fault (Token × Cursor) :=
  if name = "YAML" then do
    let (major, c) ← versionNumber c.skipSpaces
    if c.rest.head? ≠ some '.' then .error .malformed
    else
      let (_, c) ← versionNumber c.step
      if atSpace c.rest then return (.version major, c) else .error .malformed
  else if name = "TAG" then do
    let (handle, c) ← tagHandle c.skipSpaces
    if c.rest.head? ≠ some ' ' then .error .malformed
    else
      let (uri, c) ← tagText1 fuel c.skipSpaces
      if atSpace c.rest then return (.handle handle uri, c) else .error .malformed
  else .ok (.remark, c.skip fun ch => !isBreak ch)

/-- A directive after its percent sign, and the place after its line. -/
def directive (fuel : Nat) (c : Cursor) : Except Fault (Token × Cursor) := do
  let (name, c) := c.span isNameChar
  if name.isEmpty || !atSpace c.rest then .error .malformed
  else
    let (token, c) ← directiveContent (.ofList name) fuel c
    let c := c.skipComment
    if atLineEnd c.rest then return (token, c.skipBreak) else .error .malformed

/-- The name of an anchor or alias after its sign, and the place after it. -/
def anchorName (c : Cursor) : Except Fault (String × Cursor) :=
  let (name, next) := c.span isNameChar
  let ends := atGap next.rest || next.rest.head?.any ("?:,]\x7d%@`".toList.contains ·)
  if name.isEmpty || !ends then .error .malformed else .ok (.ofList name, next)

/-- A tag from its exclamation mark, and the place after it. -/
def tagToken (fuel : Nat) (c : Cursor) : Except Fault (Token × Cursor) := do
  let (token, next) ← (match c.rest with
    | '!' :: '<' :: _ => do
      let (uri, next) ← tagText1 fuel (c.steps 2)
      if next.rest.head? = some '>' then return (.tag none uri, next.step) else .error .malformed
    | '!' :: s =>
      if atGap s then .ok (.tag none "!", c.step)
      else
        let word := s.takeWhile fun ch => ch != ' ' && !isBreak ch
        if word.contains '!' then do
          let (handle, next) ← tagHandle c
          let (suffix, next) ← tagText1 fuel next
          return (.tag (some handle) suffix, next)
        else do
          let (suffix, next) ← tagText1 fuel c.step
          return (.tag (some "!") suffix, next)
    | _ => .error .malformed : Except Fault (Token × Cursor))
  if atSpace next.rest then return (token, next) else .error .malformed

/-! ## The state of scanning -/

/-- A token that may turn out to be a key: its number, and where it starts. A key that is needed
must be followed by a colon. -/
structure Candidate where
  number : Nat
  needed : Bool
  index : Nat
  line : Nat
  column : Nat
deriving Repr

/-- Scanning at a place. -/
structure Scan where
  cursor : Cursor
  /-- The tokens so far, last first. -/
  tokens : List Token
  /-- The indentation of the block collection around, and of those around that. -/
  indent : Int
  indents : List Int
  /-- May a key start here? -/
  keyAllowed : Bool
  /-- The key candidate in block style or of each open flow collection, innermost first. -/
  candidates : List (Option Candidate)

namespace Scan

def start (text : List Char) : Scan := ⟨.ofText text, [], -1, [], true, [none]⟩

/-- Is a flow collection open? -/
def inFlow (s : Scan) : Bool := 1 < s.candidates.length

def push (s : Scan) (t : Token) : Scan := { s with tokens := t :: s.tokens }

/-- Put a token before the token of a number. -/
def insertAt (s : Scan) (number : Nat) (t : Token) : Scan :=
  let later := s.tokens.length - number
  { s with tokens := s.tokens.take later ++ t :: s.tokens.drop later }

/-- Forget the key candidate of the innermost collection. -/
def dropCandidate (s : Scan) : Except Fault Scan :=
  match s.candidates with
  | some c :: cs => if c.needed then .error .malformed else .ok { s with candidates := none :: cs }
  | _ => .ok s

/-- The next token may be a key. -/
def saveCandidate (s : Scan) : Except Fault Scan := do
  if s.keyAllowed then
    let s ← s.dropCandidate
    let c := s.cursor
    let candidate : Candidate :=
      ⟨s.tokens.length, !s.inFlow && s.indent == c.column, c.index, c.line, c.column⟩
    return { s with candidates := some candidate :: s.candidates.tail }
  else return s

/-- The greatest number of characters of a key. -/
def keyLimit : Nat := 1024

/-- Forget the candidates that have become too long, or have ended with their line. -/
def dropStale (s : Scan) : Except Fault Scan := do
  let isStale (c : Candidate) : Bool :=
    c.line != s.cursor.line || keyLimit < s.cursor.index - c.index
  if s.candidates.any fun c => c.any fun c => isStale c && c.needed then .error .malformed
  else
    return { s with candidates := s.candidates.map fun c => if c.any isStale then none else c }

/-- Close the block collections that are indented deeper than a column. -/
def unwindTo (column : Int) (current : Int) : List Int → List Token → Int × List Int × List Token
  | [], tokens => (current, [], tokens)
  | i :: is, tokens =>
    if column < current then unwindTo column i is (.blockEnd :: tokens)
    else (current, i :: is, tokens)

/-- Close the block collections that are indented deeper than a column; in flow style indentation
says nothing. -/
def unwind (s : Scan) (column : Int) : Scan :=
  if s.inFlow then s
  else
    let (indent, indents, tokens) := unwindTo column s.indent s.indents s.tokens
    { s with indent, indents, tokens }

/-- Open a block collection at a column, if it is indented deeper; says whether it is. -/
def deepen (s : Scan) (column : Nat) : Bool × Scan :=
  if s.indent < column then (true, { s with indent := column, indents := s.indent :: s.indents })
  else (false, s)

/-- Open a block collection at this column, if it is indented deeper, with its token. -/
def openBlock (s : Scan) (t : Token) : Scan :=
  let (deeper, s) := s.deepen s.cursor.column
  if deeper then s.push t else s

/-- Go on by some characters. -/
def advance (s : Scan) (n : Nat) : Scan := { s with cursor := s.cursor.steps n }

/-- To the next token, over spaces, comments and line ends. In block style a key may start on a new
line. -/
def toNext : Nat → Scan → Scan
  | 0, s => s
  | fuel + 1, s =>
    let c := s.cursor.skipComment
    match c.lineBreak? with
    | some (_, next) =>
      toNext fuel { s with cursor := next, keyAllowed := s.keyAllowed || !s.inFlow }
    | none => { s with cursor := c }

/-! ## The tokens by their first sign -/

/-- A token that a key may start with, read by `read` from the place after `sign` characters. -/
def keyLike (s : Scan) (read : Cursor → Except Fault (Token × Cursor)) : Except Fault Scan := do
  let s ← s.saveCandidate
  let (t, next) ← read s.cursor
  return { s.push t with cursor := next, keyAllowed := false }

/-- A token at the left border, between documents. -/
def between (s : Scan) (read : Cursor → Except Fault (Token × Cursor)) : Except Fault Scan := do
  let s ← (s.unwind (-1)).dropCandidate
  let (t, next) ← read s.cursor
  return { s.push t with cursor := next, keyAllowed := false }

def flowOpen (s : Scan) (t : Token) : Except Fault Scan := do
  let s ← s.saveCandidate
  return { (s.push t).advance 1 with candidates := none :: s.candidates, keyAllowed := true }

def flowClose (s : Scan) (t : Token) : Except Fault Scan := do
  let s ← s.dropCandidate
  if s.inFlow then
    return { (s.push t).advance 1 with candidates := s.candidates.tail, keyAllowed := false }
  else .error .malformed

def flowComma (s : Scan) : Except Fault Scan := do
  let s ← s.dropCandidate
  return { (s.push .comma).advance 1 with keyAllowed := true }

def blockDash (s : Scan) : Except Fault Scan := do
  if !s.inFlow && !s.keyAllowed then .error .malformed
  else
    let s := if s.inFlow then s else s.openBlock .blockSequence
    let s ← s.dropCandidate
    return { (s.push .dash).advance 1 with keyAllowed := true }

def questionMark (s : Scan) : Except Fault Scan := do
  if !s.inFlow && !s.keyAllowed then .error .malformed
  else
    let s := if s.inFlow then s else s.openBlock .blockMapping
    let s ← s.dropCandidate
    return { (s.push .key).advance 1 with keyAllowed := !s.inFlow }

def valueColon (s : Scan) : Except Fault Scan := do
  match s.candidates with
  | some c :: cs =>
    let s := { s with candidates := none :: cs }.insertAt c.number .key
    let (deeper, s) := if s.inFlow then (false, s) else s.deepen c.column
    let s := if deeper then s.insertAt c.number .blockMapping else s
    return { (s.push .colon).advance 1 with keyAllowed := false }
  | _ =>
    if !s.inFlow && !s.keyAllowed then .error .malformed
    else
      let s := if s.inFlow then s else s.openBlock .blockMapping
      let s ← s.dropCandidate
      return { (s.push .colon).advance 1 with keyAllowed := !s.inFlow }

def block (s : Scan) (folded : Bool) (fuel : Nat) : Except Fault Scan := do
  let s ← s.dropCandidate
  let (text, next) ← blockScalar folded s.indent fuel s.cursor.step
  return { s.push (.scalar (.ofList text) false) with cursor := next, keyAllowed := true }

def quotedText (s : Scan) (double : Bool) (fuel : Nat) : Except Fault Scan :=
  s.keyLike fun c => do
    let (text, next) ← quotedScalar double fuel [] c.step
    return (.scalar (.ofList text) false, next)

def plain (s : Scan) (fuel : Nat) : Except Fault Scan := do
  let s ← s.saveCandidate
  let (text, broken, next) := plainScalar s.inFlow (s.indent + 1) fuel [] [] false s.cursor
  return { s.push (.scalar (.ofList text) true) with cursor := next, keyAllowed := broken }

/-- May a plain scalar start here? -/
def startsPlain (inFlow : Bool) : List Char → Bool
  | [] => false
  | c :: s =>
    let isSign := "-?:,[]\x7b\x7d#&*!|>'\"%@`".toList.contains c
    let isBlank := c == ' ' || c == '\t' || isBreak c
    (!isSign && !isBlank) || (!atGap s && (c == '-' || (!inFlow && (c == '?' || c == ':'))))

/-- The next token, read from its first character. -/
def token (s : Scan) (fuel : Nat) : Except Fault Scan :=
  let here := s.cursor.rest
  let atLeft := s.cursor.column == 0
  match here with
  | [] => .error .malformed
  | c :: more =>
    let flow := s.inFlow
    if c = '%' && atLeft then s.between fun c => directive fuel c.step
    else if atLeft && atBorder here then
      s.between fun cur => .ok (if c = '-' then .documentStart else .documentEnd, cur.steps 3)
    else if c = '[' then s.flowOpen .openBracket
    else if c = '\x7b' then s.flowOpen .openBrace
    else if c = ']' then s.flowClose .closeBracket
    else if c = '\x7d' then s.flowClose .closeBrace
    else if c = ',' then s.flowComma
    else if c = '-' && atGap more then s.blockDash
    else if c = '?' && (flow || atGap more) then s.questionMark
    else if c = ':' && (flow || atGap more) then s.valueColon
    else if c = '*' then
      s.keyLike fun c => (anchorName c.step).map fun (name, next) => (.alias name, next)
    else if c = '&' then
      s.keyLike fun c => (anchorName c.step).map fun (name, next) => (.anchor name, next)
    else if c = '!' then s.keyLike (tagToken fuel)
    else if c = '|' && !flow then s.block false fuel
    else if c = '>' && !flow then s.block true fuel
    else if c = '\'' then s.quotedText false fuel
    else if c = '"' then s.quotedText true fuel
    else if startsPlain flow here then s.plain fuel
    else .error .malformed

/-- The tokens from here to the end. -/
def all (length : Nat) : Nat → Scan → List Token
  | 0, s => (.broken .malformed :: s.tokens).reverse
  | fuel + 1, s =>
    match (s.toNext length).dropStale with
    | .error f => (.broken f :: s.tokens).reverse
    | .ok s =>
      let s := s.unwind s.cursor.column
      if s.cursor.rest.isEmpty then
        match (s.unwind (-1)).dropCandidate with
        | .error f => (.broken f :: s.tokens).reverse
        | .ok s => (.done :: s.tokens).reverse
      else
        match s.token length with
        | .error f => (.broken f :: s.tokens).reverse
        | .ok s => all length fuel s

end Scan

/-- The tokens of a text. A byte order mark before the first one is skipped. -/
def Token.scan (text : List Char) : List Token :=
  if text.all isAllowed then
    let s := Scan.start text
    let s := if text.head? = some '\uFEFF' then s.advance 1 else s
    s.all (text.length + 1) (text.length + 2)
  else [.broken .malformed]

end ClientForge.Yaml
