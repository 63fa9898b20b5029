import ClientForge.Html.Token

/-!
The tree of a markup text (`BeautifulSoup`).

Elements without content end at once. An end tag closes the elements down to the innermost open one of
its name, and none if no such element is open. Elements still open at the end of the text end there.
-/

namespace ClientForge.Html

/-- What a piece of text is. -/
inductive TextKind where
  | plain
  | comment
  | doctype
  | cdata
  | marked
  | instruction
  /-- The text of a script, a style sheet, a template or a ruby annotation, by the element. -/
  | inside (element : String)
deriving DecidableEq, Repr

/-- A node of the tree. -/
inductive Node where
  | text (kind : TextKind) (content : String)
  | element (name : String) (attributes : List (String × String)) (children : List Node)
deriving Repr, Inhabited

/-- The elements that never have content. -/
def emptyElements : List String :=
  ["area", "base", "br", "col", "embed", "hr", "img", "input", "keygen", "link", "menuitem", "meta",
    "param", "source", "track", "wbr", "basefont", "bgsound", "command", "frame", "image", "isindex",
    "nextid", "spacer"]

/-- The elements whose text is no text of the page. -/
def secludedElements : List String := ["rt", "rp", "style", "script", "template"]

/-- The elements that keep blanks as they are. -/
def spacedElements : List String := ["pre", "textarea"]

/-- An open element: its children so far are kept last first. -/
structure Open where
  name : String
  attributes : List (String × String)
  children : List Node

/-- Building the tree. The open elements are kept innermost first, the document itself apart. -/
structure Builder where
  opened : List Open
  /-- The finished nodes of the document, last first. -/
  document : List Node
  /-- The text since the last markup. -/
  pending : Option (List Char)
  /-- The elements without content whose end tag has not been met. -/
  unmatched : List String

namespace Builder

def start : Builder := ⟨[], [], none, []⟩

/-- Add a node to the innermost open element. -/
def add (b : Builder) (n : Node) : Builder :=
  match b.opened with
  | [] => { b with document := n :: b.document }
  | o :: os => { b with opened := { o with children := n :: o.children } :: os }

def addText (b : Builder) (s : List Char) : Builder :=
  { b with pending := some ((b.pending.getD []) ++ s) }

/-- The blanks of ASCII. -/
def isAsciiBlank (c : Char) : Bool := " \n\t\x0c\r".toList.contains c

/-- Text of blanks alone shrinks to one, unless an element around keeps them. -/
def shrink (b : Builder) (s : List Char) : List Char :=
  if s.all isAsciiBlank && !b.opened.any (fun o => spacedElements.contains o.name) then
    if s.contains '\n' then ['\n'] else [' ']
  else s

/-- The kind of plain text in the open elements. -/
def plainKind (b : Builder) : TextKind :=
  match b.opened.find? fun o => secludedElements.contains o.name with
  | some o => .inside o.name
  | none => .plain

/-- The text since the last markup becomes a node. -/
def flush (b : Builder) (kind : TextKind) : Builder :=
  match b.pending with
  | none => b
  | some s =>
    let node : Node := .text kind (.ofList (b.shrink s))
    { b with pending := none }.add node

def flushPlain (b : Builder) : Builder := b.flush b.plainKind

/-- Markup that holds text of a kind. -/
def special (b : Builder) (kind : TextKind) (s : List Char) : Builder :=
  (b.flushPlain.addText s).flush kind

/-- End the innermost open element. -/
def pop (b : Builder) : Builder :=
  match b.opened with
  | [] => b
  | o :: os => { b with opened := os }.add (.element o.name o.attributes o.children.reverse)

/-- End the open elements down to the innermost of a name, if there is one. -/
def popTo (name : String) (b : Builder) : Builder :=
  let depth := b.opened.findIdx (·.name == name)
  if depth < b.opened.length then Nat.repeat pop (depth + 1) b else b

/-- End all open elements. -/
def popAll (b : Builder) : Builder := Nat.repeat pop b.opened.length b

def endTag (b : Builder) (name : String) : Builder := popTo name b.flushPlain

/-- Open an element. One without content ends at once, and its end tag, if it follows, counts for
nothing. -/
def startTag (b : Builder) (name : String) (attributes : List (String × String)) (closed : Bool) :
    Builder :=
  let b := b.flushPlain
  let b := { b with opened := ⟨name, attributes, []⟩ :: b.opened }
  if closed then
    if b.unmatched.contains name then { b with unmatched := b.unmatched.erase name }
    else b.endTag name
  else if emptyElements.contains name then
    let b := b.endTag name
    { b with unmatched := name :: b.unmatched }
  else b

/-- The characters of the word before the content of a document type. -/
def doctypeWord : Nat := 8

def step (b : Builder) : Token → Builder
  | .text s => b.addText s
  | .startTag name as closed =>
    b.startTag (.ofList name) (as.map fun (n, v) => (.ofList n, .ofList v)) closed
  | .endTag name =>
    let name := String.ofList name
    if b.unmatched.contains name then { b with unmatched := b.unmatched.erase name }
    else b.endTag name
  | .comment s => b.special .comment s
  | .doctype s => b.special .doctype (s.drop doctypeWord)
  | .marked s =>
    if Text.upper (s.take 6) = "CDATA[".toList then b.special .cdata (s.drop 6)
    else b.special .marked s
  | .instruction s => b.special .instruction s

end Builder

/-- The nodes of a document. -/
def Node.ofTokens (ts : List Token) : List Node :=
  ((ts.foldl Builder.step .start).flushPlain.popAll).document.reverse

/-- The nodes of a markup text. -/
def read (text : String) : Except Fault (List Node) :=
  (Token.scan text.toList).map Node.ofTokens

end ClientForge.Html
