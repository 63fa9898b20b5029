import ClientForge.Text.Case
import ClientForge.Text.Search

/-!
Identifiers: the words of a text (`split_words`), the ways to join them (`to_camel`, `to_pascal`, `to_snake`,
`slugify`), and names that are all different (`dedupe_operation_ids`).

A word is a run of ASCII letters and digits, cut again where the case shows a new word. Every name
in a generated client is made of the words of some text.
-/

namespace ClientForge

/-- A letter or digit of ASCII. -/
def isWordChar (c : Char) : Bool := c.isAlphanum

/-- Does a new word start at `next`, after `c` and before `more`? It does at a capital after a
small letter or digit, and at a capital that starts a word of small letters. -/
def startsWord (c next : Char) (more : List Char) : Bool :=
  next.isUpper && (c.isLower || c.isDigit || (c.isUpper && more.head?.any Char.isLower))

/-- Put a character before the first word. -/
def attach (c : Char) : List (List Char) → List (List Char)
  | [] => [[c]]
  | w :: ws => (c :: w) :: ws

/-- The words of a text (`split_words`). -/
def words : List Char → List (List Char)
  | [] => []
  | c :: s =>
    if isWordChar c then
      match s with
      | [] => [[c]]
      | d :: more =>
        if isWordChar d && !startsWord c d more then attach c (words s) else [c] :: words s
    else words s

/-- The runs of letters and digits of a text, whatever their case. -/
def runs : List Char → List (List Char)
  | [] => []
  | c :: s =>
    if isWordChar c then
      if s.head?.any isWordChar then attach c (runs s) else [c] :: runs s
    else runs s

def lowerWord (w : List Char) : List Char := w.map Char.toLower

/-- The word with a small first letter. -/
def uncapitalize : List Char → List Char
  | [] => []
  | c :: w => c.toLower :: w

/-- The word with a capital first letter. -/
def capitalize : List Char → List Char
  | [] => []
  | c :: w => c.toUpper :: w

/-- The first word of a name: all small, unless it holds a small letter already. -/
def headWord (w : List Char) : List Char :=
  if w.any Char.isLower then uncapitalize w else lowerWord w

/-- The words in one (`to_camel`), each but the first with a capital. -/
def camel (s : List Char) : List Char :=
  match words s with
  | [] => []
  | w :: ws => headWord w ++ ws.flatMap capitalize

/-- The words in one (`to_pascal`), each with a capital. -/
def pascal (s : List Char) : List Char := capitalize (camel s)

/-- The words in small letters (`to_snake`), with underscores between them. -/
def snake (s : List Char) : List Char := Text.join ['_'] ((words s).map lowerWord)

/-- The identifier of a text (`sanitize_identifier`): empty if the text has no word, and never a digit first. -/
def identifier (s : List Char) : List Char :=
  match camel s with
  | [] => []
  | c :: w => if c.isDigit then 'o' :: 'p' :: c :: w else c :: w

/-- The identifier of an operation without one (`derive_operation_id`): its verb and the words of its path or
name. -/
def derivedIdentifier (verb text : List Char) : List Char := Text.lower verb ++ pascal text

/-- The runs of a title in small letters (`slugify`), with hyphens between them; `other`, if it has none. -/
def slug (title other : List Char) : List Char :=
  match runs title with
  | [] => other
  | rs => Text.join ['-'] (rs.map lowerWord)

/-- Letters, digits and underscores, no digit first (`is_identifier`). One line feed may follow. -/
def isIdentifier (s : List Char) : Bool :=
  let s := if s.getLast? = some '\n' then s.dropLast else s
  match s with
  | [] => false
  | c :: w => (c.isAlpha || c == '_') && w.all fun c => c.isAlphanum || c == '_'

/-! ## Names that are all different -/

/-- A name with a number after it. -/
def numbered (name : List Char) (n : Nat) : List Char := name ++ (Nat.repr n).toList

/-- The least number from `n` on that makes a name other than those taken, if `fuel` suffices. -/
def freeNumber (taken : List Char → Bool) (name : List Char) (n : Nat) : Nat → Nat
  | 0 => n
  | fuel + 1 => if taken (numbered name n) then freeNumber taken name (n + 1) fuel else n

/-- The name with the least number from two on that makes it other than those taken. -/
def freeName (taken : List (List Char)) (name : List Char) : List Char :=
  numbered name (freeNumber taken.contains name 2 taken.length)

/-- Number the names that have been met. `taken` holds all names of the whole list and those given
so far. -/
def distinctFrom (taken met : List (List Char)) : List (List Char) → List (List Char)
  | [] => []
  | name :: names =>
    if met.contains name then
      let new := freeName taken name
      new :: distinctFrom (new :: taken) (new :: met) names
    else name :: distinctFrom taken (name :: met) names

/-- The names, made different by numbers after those that have been met before. No new name
is one of the others. -/
def distinct (names : List (List Char)) : List (List Char) := distinctFrom names [] names

end ClientForge
