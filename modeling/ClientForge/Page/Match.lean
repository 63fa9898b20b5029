import ClientForge.Api.Basic
import ClientForge.Text.Blank
import ClientForge.Text.Word

/-!
What the prose of a page is searched for: verbs of requests, paths and addresses (`ENDPOINT_PATTERNS`,
`URL_RE`), and words (`METHOD_KEYWORDS`).
-/

namespace ClientForge.Page

/-- The first thing that `find` finds, going through the text. It is given the character before a
place and the text from there on. -/
def firstMatch {α : Type} (find : Option Char → List Char → Option α) (before : Option Char) :
    List Char → Option α
  | [] => find before []
  | c :: s =>
    match find before (c :: s) with
    | some a => some a
    | none => firstMatch find (some c) s

/-- A text at the start of another, and what follows it. -/
structure Cut where
  found : List Char
  rest : List Char
deriving DecidableEq, Repr

namespace Cut

/-- The text before `rest`, which it ends with. -/
def before (s rest : List Char) : Cut := ⟨s.take (s.length - rest.length), rest⟩

/-- The first characters, as long as `p` holds. -/
def run (p : Char → Bool) (s : List Char) : Cut := ⟨s.takeWhile p, s.dropWhile p⟩

end Cut

/-- No blank. -/
def isInk (c : Char) : Bool := !Text.isBlank c

/-! ## Verbs -/

/-- The verb that a text starts with, as it is spelled there. -/
def verbAt? (s : List Char) : Option Cut :=
  Method.all.firstM fun m => (Text.afterAnyCase? m.name.toList s).map (Cut.before s)

/-- Is there a word boundary after a text? -/
def endsWord (c : Cut) : Bool := Text.isBoundary c.found.getLast? c.rest.head?

/-! ## Paths and addresses -/

/-- What follows the start of a web address. -/
def afterProtocol? (s : List Char) : Option (List Char) := do
  let s ← Text.afterAnyCase? "http".toList s
  ((Text.afterAnyCase? ['s'] s).bind (Text.after? "://".toList)).or (Text.after? "://".toList s)

/-- The address that a text starts with: up to the next character for which `p` does not hold. -/
def addressAt? (p : Char → Bool) (s : List Char) : Option Cut := do
  let rest ← afterProtocol? s
  let body := Cut.run p rest
  if body.found.isEmpty then none else some (Cut.before s body.rest)

/-- The path or address that a text starts with, up to the next blank. -/
def tokenAt? (s : List Char) : Option Cut :=
  match s with
  | '/' :: _ => some (Cut.run isInk s)
  | _ => addressAt? isInk s

/-- The characters of an address in prose. -/
def isAddressChar (c : Char) : Bool := isInk c && !"<>\"'`".toList.contains c

/-- The first address in a text. -/
def address? (s : List Char) : Option (List Char) :=
  firstMatch (fun _ s => (addressAt? isAddressChar s).map (·.found)) none s

/-! ## A verb and a path -/

/-- A verb and a path or address, as they are spelled. -/
structure Mention where
  verb : List Char
  token : List Char
deriving DecidableEq, Repr

/-- A verb, blanks, and a path. -/
def verbThenPath? (before : Option Char) (s : List Char) : Option Mention := do
  if !Text.isBoundary before s.head? then none
  let verb ← verbAt? s
  let gap := Cut.run Text.isBlank verb.rest
  if gap.found.isEmpty then none
  let token ← tokenAt? gap.rest
  return ⟨verb.found, token.found⟩

/-- A path, blanks, and a verb. -/
def pathThenVerb? (_ : Option Char) (s : List Char) : Option Mention := do
  let token ← tokenAt? s
  let gap := Cut.run Text.isBlank token.rest
  if gap.found.isEmpty then none
  let verb ← verbAt? gap.rest
  if endsWord verb then some ⟨verb.found, token.found⟩ else none

/-- A verb, a colon, and a path. -/
def verbColonPath? (before : Option Char) (s : List Char) : Option Mention := do
  if !Text.isBoundary before s.head? then none
  let verb ← verbAt? s
  match verb.rest.dropWhile Text.isBlank with
  | ':' :: rest =>
    let token ← tokenAt? (rest.dropWhile Text.isBlank)
    return ⟨verb.found, token.found⟩
  | _ => none

/-- The first mention of a request: of the three ways to write it the first that occurs counts. -/
def mention? (s : List Char) : Option Mention :=
  [verbThenPath?, pathThenVerb?, verbColonPath?].firstM fun find => firstMatch find none s

/-! ## Words -/

/-- Does a word occur in a text? -/
def hasWord (word s : List Char) : Bool :=
  (firstMatch (fun before s => do
    let rest ← Text.after? word s
    if Text.isBoundary before word.head? && Text.isBoundary word.getLast? rest.head? then some ()
    else none) none s).isSome

/-- The words that speak for a verb. -/
def verbWords : List (Method × List String) := [
  (.get, ["get", "retrieve", "fetch"]),
  (.post, ["post", "create", "add"]),
  (.put, ["put", "update", "modify"]),
  (.delete, ["delete", "remove"]),
  (.patch, ["patch"])]

/-- The first verb that a text has a word for (`infer_method`). -/
def inferMethod (s : List Char) : Method :=
  let s := Text.lower s
  match verbWords.find? fun g => g.2.any fun w => hasWord w.toList s with
  | some g => g.1
  | none => .get

end ClientForge.Page
