import ClientForge.Html.Reference
import ClientForge.Text.Blank
import ClientForge.Text.Case

/-!
Tokens of a markup text (`HTMLParser`): tags, comments and other markup, and the text between them.

A text is read to where markup is left open, and the rest is then read again as the end of the
text: what is still open there becomes text, and a reference without its end stays as it is.
-/

namespace ClientForge.Html

/-- Why a text cannot be read. -/
inductive Fault where
  /-- A section that opens with an unknown word. -/
  | badSection
  /-- A character number of too many digits. -/
  | longNumber
deriving DecidableEq, Repr

/-- A token. -/
inductive Token where
  | text (s : List Char)
  | startTag (name : List Char) (attributes : List (List Char × List Char)) (closed : Bool)
  | endTag (name : List Char)
  | comment (s : List Char)
  /-- The declaration of the document type. -/
  | doctype (s : List Char)
  /-- A section between brackets. -/
  | marked (s : List Char)
  /-- A processing instruction. -/
  | instruction (s : List Char)
deriving DecidableEq, Repr

/-! ## Tags -/

def isLetter (c : Char) : Bool := c.isAlpha

/-- May the character stand in the name of a tag? -/
def isTagChar (c : Char) : Bool := !("\t\n\r\x0c />\x00".toList.contains c)

/-- Blanks, and slashes that do not stand before the end of the tag. -/
def skipBetween : List Char → List Char
  | [] => []
  | '/' :: s => if s.head? = some '>' then '/' :: s else skipBetween s
  | c :: s => if Text.isBlank c then skipBetween s else c :: s

/-- The text before a quote and after it. -/
def quotedValue? (q : Char) (s : List Char) : Option (List Char × List Char) :=
  let value := s.takeWhile (· != q)
  match s.drop value.length with
  | [] => none
  | _ :: rest => some (value, rest)

/-- A value without quotes, and the rest. -/
def bareValue (s : List Char) : List Char × List Char :=
  s.span fun c => c != '>' && !Text.isBlank c

/-- The value after the name of an attribute, and the rest. A value whose quote stays open is
empty if a blank stands before the quote; else it starts at the last of several equals signs, and
after a single one there is no value. -/
def attributeValue? (s : List Char) : Option (List Char × List Char) :=
  let s := s.dropWhile Text.isBlank
  let signs := s.takeWhile (· == '=')
  let after := s.drop signs.length
  let value := after.dropWhile Text.isBlank
  let unquoted : Option (List Char × List Char) :=
    if value.length < after.length then some ([], value)
    else if 1 < signs.length then some (bareValue ('=' :: after))
    else none
  if signs.isEmpty then none
  else
    match value with
    | '\'' :: t => (quotedValue? '\'' t).or unquoted
    | '"' :: t => (quotedValue? '"' t).or unquoted
    | t => some (bareValue t)

/-- The last character of a text; `c`, if it is empty. -/
def lastOr (c : Char) (s : List Char) : Char := s.getLast?.getD c

/-- The characters taken from the front of `s` to leave `rest`. -/
def taken (s rest : List Char) : List Char := s.take (s.length - rest.length)

/-- The attributes of a tag from a place between them, and the rest. `before` is the character
before the place. An attribute stands after a blank, a slash or a quote. -/
def attributes : Nat → Char → List Char → List (List Char × Option (List Char)) × List Char
  | 0, _, s => ([], s)
  | fuel + 1, before, s =>
    let starts := before == '\'' || before == '"' || before == '/' || Text.isBlank before
    match s with
    | [] => ([], [])
    | c :: t =>
      if !starts || Text.isBlank c || c = '/' || c = '>' then ([], s)
      else
        let more := t.takeWhile fun c => !(Text.isBlank c || c == '/' || c == '=' || c == '>')
        let s' := t.drop more.length
        let (value, s'') : Option (List Char) × List Char :=
          match attributeValue? s' with
          | some (v, rest) => (some v, rest)
          | none => (none, s')
        let rest := skipBetween s''
        let (others, last) := attributes fuel (lastOr c (taken s rest)) rest
        ((c :: more, value) :: others, last)

/-- Put an attribute into a list. One that is there keeps its place and takes the new value. -/
def setAttribute (name value : List Char) :
    List (List Char × List Char) → List (List Char × List Char)
  | [] => [(name, value)]
  | (n, v) :: as => if n = name then (n, value) :: as else (n, v) :: setAttribute name value as

/-- The attributes with their names in lower case and the references in their values replaced. -/
def finishAttributes (as : List (List Char × Option (List Char))) :
    Except Fault (List (List Char × List Char)) :=
  as.foldlM (fun acc (name, value) =>
    match unescape? (value.getD []) with
    | some v => .ok (setAttribute (Text.lower name) v acc)
    | none => .error .longNumber) []

/-- What has been read at the front of a text: a token if there is one, and the rest; or the markup is
still open at the end. -/
inductive Step where
  | token (t : Option Token) (rest : List Char)
  | unfinished
deriving Repr

/-- A start tag after its `<`. -/
def startTag (s : List Char) : Except Fault Step := do
  let name := s.takeWhile isTagChar
  let afterName := s.drop name.length
  let afterSlashes := afterName.dropWhile fun c => Text.isBlank c || c == '/'
  let slashes := taken afterName afterSlashes
  let (as, rest) := attributes s.length (lastOr (lastOr 'a' name) slashes) afterSlashes
  let token (closed : Bool) (rest : List Char) : Except Fault Step := do
    return .token (some (.startTag (Text.lower name) (← finishAttributes as) closed)) rest
  match rest with
  | [] => return .unfinished
  | '>' :: rest => token (as.isEmpty && slashes.getLast? == some '/') rest
  | '/' :: '>' :: rest => token true rest
  | c :: _ =>
    if c = '/' || c = '=' || isLetter c then return .unfinished
    else
      let _ ← finishAttributes as
      return .token (some (.text ('<' :: taken s rest))) rest

/-- The text before the first `>`, and after it. -/
def toClose? (s : List Char) : Option (List Char × List Char) := Text.cut? ['>'] s

/-- A comment that starts otherwise than comments should. -/
def bogusComment (s : List Char) : Step :=
  match toClose? s with
  | some (body, rest) => .token (some (.comment body)) rest
  | none => .unfinished

def isEndTagChar (c : Char) : Bool :=
  c.isAlphanum || c == '-' || c == '.' || c == ':' || c == '_'

/-- The name of an end tag that holds nothing else, after its `</`, and the rest. -/
def plainEndTag? (s : List Char) : Option (List Char × List Char) :=
  let s := s.dropWhile Text.isBlank
  let name := s.takeWhile isEndTagChar
  match name, (s.drop name.length).dropWhile Text.isBlank with
  | c :: _, '>' :: rest => if isLetter c then some (name, rest) else none
  | _, _ => none

/-- An end tag after its `</`. Inside the raw text of an element no other element ends. -/
def endTag (raw : Option (List Char)) (s : List Char) : Step :=
  match toClose? s with
  | none => .unfinished
  | some (_, rest) =>
    let asText : Step := .token (some (.text ('<' :: '/' :: taken s rest))) rest
    match plainEndTag? s, raw with
    | some (name, after), none => .token (some (.endTag (Text.lower name))) after
    | some (name, after), some r =>
      if Text.lower name = r then .token (some (.endTag r)) after else asText
    | none, some _ => asText
    | none, none =>
      match s with
      | [] => .unfinished
      | c :: _ =>
        if isLetter c then
          let name := s.takeWhile isTagChar
          match toClose? (skipBetween (s.drop name.length)) with
          | some (_, rest) => .token (some (.endTag (Text.lower name))) rest
          | none => .unfinished
        else if c = '>' then .token none rest
        else bogusComment s

/-! ## Other markup -/

/-- The text before the first place where `ends` finds an end, and after that end. -/
def cutBy? (ends : List Char → Option (List Char)) : List Char → Option (List Char × List Char)
  | [] => none
  | c :: s =>
    match ends (c :: s) with
    | some rest => some ([], rest)
    | none => (cutBy? ends s).map fun (before, rest) => (c :: before, rest)

/-- What follows a `>`, with blanks before it. -/
def closing? (s : List Char) : Option (List Char) :=
  match s.dropWhile Text.isBlank with
  | '>' :: rest => some rest
  | _ => none

/-- What follows the end of a comment. -/
def commentEnd? : List Char → Option (List Char)
  | '-' :: '-' :: s => closing? s
  | _ => none

/-- What follows two closing brackets and a `>`. -/
def sectionEnd? : List Char → Option (List Char)
  | ']' :: s =>
    match s.dropWhile Text.isBlank with
    | ']' :: s => closing? s
    | _ => none
  | _ => none

/-- What follows a closing bracket and a `>`. -/
def conditionEnd? : List Char → Option (List Char)
  | ']' :: s => closing? s
  | _ => none

/-- The step to a token whose body ends as `ends` says. -/
def bodyTo (ends : List Char → Option (List Char)) (make : List Char → Token) (s : List Char) : Step :=
  match cutBy? ends s with
  | some (body, rest) => .token (some (make body)) rest
  | none => .unfinished

/-- A section after its `<![`. Its word says how it ends. -/
def markedSection (s : List Char) : Except Fault Step :=
  let word := s.takeWhile fun c => c.isAlphanum || c == '-' || c == '_' || c == '.'
  let after := (s.drop word.length).dropWhile Text.isBlank
  match s with
  | [] => .ok .unfinished
  | c :: _ =>
    if !isLetter c then .error .badSection
    else if after.isEmpty then .ok .unfinished
    else
      let w := String.ofList (Text.lower word)
      if ["temp", "cdata", "ignore", "include", "rcdata"].contains w then
        .ok (bodyTo sectionEnd? .marked s)
      else if ["if", "else", "endif"].contains w then .ok (bodyTo conditionEnd? .marked s)
      else .error .badSection

/-- Markup after its `<!`. -/
def declaration (s : List Char) : Except Fault Step :=
  match s with
  | '-' :: '-' :: body => .ok (bodyTo commentEnd? .comment body)
  | '[' :: body => markedSection body
  | _ =>
    if Text.lower (s.take 7) = "doctype".toList then
      match toClose? (s.drop 7) with
      | some (body, rest) => .ok (.token (some (.doctype (s.take 7 ++ body))) rest)
      | none => .ok .unfinished
    else .ok (bogusComment s)

/-- Markup at a `<`, if the characters after it show any. -/
def markup? (raw : Option (List Char)) : List Char → Option (Except Fault Step)
  | '/' :: s => some (.ok (endTag raw s))
  | '?' :: s => some (.ok (bodyTo closeSign? .instruction s))
  | '!' :: s => some (declaration s)
  | c :: s => if isLetter c then some (startTag (c :: s)) else none
  | [] => none
where
  closeSign? : List Char → Option (List Char)
    | '>' :: rest => some rest
    | _ => none

/-! ## References in text -/

/-- What follows a reference: a semicolon is part of it. -/
def afterReference : List Char → List Char
  | ';' :: s => s
  | s => s

/-- A numeric reference after `&#`: its characters, and the rest. -/
def numericReference? (s : List Char) : Option (List Char × List Char) :=
  let ds := referenceDigits s
  match ds, s.drop ds.length with
  | [], _ | _, [] => none
  | ds, c :: rest => if isHex c then none else some (ds, afterReference (c :: rest))

/-- The longest beginning of a name at the end of a text that is followed by a sign. -/
def nameBeforeSign? : Nat → List Char → Option (List Char)
  | 0, _ => none
  | n + 1, s =>
    match s[n + 1]? with
    | some c => if c = '-' || c = '.' then some (s.take (n + 1)) else nameBeforeSign? n s
    | none => nameBeforeSign? n s

/-- The name of a reference after `&`, and the rest. -/
def namedReference? (s : List Char) : Option (List Char × List Char) :=
  match s with
  | [] => none
  | c :: _ =>
    if !isLetter c then none
    else
      let name := s.takeWhile fun c => c.isAlphanum || c == '-' || c == '.'
      let found :=
        if name.length < s.length then some name else nameBeforeSign? (name.length - 1) name
      found.map fun name => (name, afterReference (s.drop name.length))

/-- The characters of a named reference in text. An unknown name stays, without its semicolon. -/
def referenceText (name : List Char) : List Char := (named? (.ofList name)).getD ('&' :: name)

/-! ## Reading -/

/-- What follows an end tag of the element of a raw text. -/
def rawEnd? (name : List Char) : List Char → Option (List Char)
  | '<' :: '/' :: s => (Text.afterAnyCase? name (s.dropWhile Text.isBlank)).bind closing?
  | _ => none

/-- Do the contents of the element hold no markup? -/
def isRaw (name : List Char) : Bool := name = "script".toList || name = "style".toList

/-- The raw text that is open after a token. -/
def rawAfter (raw : Option (List Char)) : Option Token → Option (List Char)
  | some (.startTag name _ false) => if isRaw name then some name else raw
  | some (.endTag _) => none
  | _ => raw

/-- Tokens so far, last first, what is left, and the element whose raw text is open. -/
abbrev Progress := List Token × List Char × Option (List Char)

/-- Add text, if there is some. -/
def addText (s : List Char) (ts : List Token) : List Token := if s.isEmpty then ts else .text s :: ts

/-- Read tokens while they are complete. At the end of the text open markup becomes text up to the
next place where markup may start. -/
def readOn (atEnd : Bool) : Nat → List Token → Option (List Char) → List Char → Except Fault Progress
  | 0, ts, raw, s => .ok (ts, s, raw)
  | _ + 1, ts, raw, [] => .ok (ts, [], raw)
  | fuel + 1, ts, some r, s =>
    match cutBy? (fun t => (rawEnd? r t).map fun _ => t) s with
    | none => .ok (ts, s, some r)
    | some (body, s') =>
      let ts := addText body ts
      match endTag (some r) (s'.drop 2) with
      | .token t rest => readOn atEnd fuel (t.toList ++ ts) (rawAfter (some r) t) rest
      | .unfinished => .ok (ts, s', some r)
  | fuel + 1, ts, none, c :: s =>
    if c = '<' then
      match markup? none s with
      | some (.error f) => .error f
      | some (.ok (.token t rest)) => readOn atEnd fuel (t.toList ++ ts) (rawAfter none t) rest
      | some (.ok .unfinished) =>
        if !atEnd then .ok (ts, c :: s, none)
        else
          let (body, rest) : List Char × List Char :=
            match toClose? s with
            | some (body, rest) => (c :: body ++ ['>'], rest)
            | none =>
              let body := s.takeWhile (· != '<')
              if body.length < s.length then (c :: body, s.drop body.length) else ([c], s)
          readOn atEnd fuel (.text body :: ts) none rest
      | none => if s.isEmpty then .ok (ts, [c], none) else readOn atEnd fuel (.text [c] :: ts) none s
    else if c = '&' then
      match s with
      | '#' :: t =>
        match numericReference? t with
        | some (ds, rest) =>
          match number? ds with
          | some n => readOn atEnd fuel (.text [charOf n] :: ts) none rest
          | none => .error .longNumber
        | none => if t.contains ';' then .ok (.text ['&', '#'] :: ts, t, none) else .ok (ts, c :: s, none)
      | _ =>
        match namedReference? s with
        | some (name, rest) => readOn atEnd fuel (.text (referenceText name) :: ts) none rest
        | none =>
          if s.head?.any isLetter then
            .ok (ts, if atEnd && s.length == 1 then s else c :: s, none)
          else if s.isEmpty then .ok (ts, [c], none)
          else readOn atEnd fuel (.text [c] :: ts) none s
    else
      let body := s.takeWhile fun c => c != '<' && c != '&'
      readOn atEnd fuel (.text (c :: body) :: ts) none (s.drop body.length)

/-- The tokens of a text. Raw text that is left open is dropped. -/
def Token.scan (s : List Char) : Except Fault (List Token) := do
  let (ts, rest, raw) ← readOn false (s.length + 1) [] none s
  let (ts, rest, raw) ← readOn true (rest.length + 1) ts raw rest
  return (if raw.isSome then ts else addText rest ts).reverse

end ClientForge.Html
