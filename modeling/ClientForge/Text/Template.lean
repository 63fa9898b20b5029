import ClientForge.Text.Word

/-!
Templates: texts in which a name between braces stands for something else. A name is made of word
characters.
-/

namespace ClientForge.Text

/-- A part of a template. -/
inductive TemplatePart where
  | plain (c : Char)
  | name (n : List Char)
deriving DecidableEq, Repr

/-- The name between braces at the start of a text. -/
def bracedName? : List Char → Option (List Char)
  | '\x7b' :: s =>
    let name := s.takeWhile isWord
    if !name.isEmpty && (s.drop name.length).head? == some '\x7d' then some name else none
  | _ => none

/-- The parts of a template after the first `skip` characters. -/
def partsFrom (skip : Nat) : List Char → List TemplatePart
  | [] => []
  | c :: s =>
    if 0 < skip then partsFrom (skip - 1) s
    else
      match bracedName? (c :: s) with
      | some name => .name name :: partsFrom (name.length + 1) s
      | none => .plain c :: partsFrom 0 s

/-- The parts of a template. -/
def templateParts (s : List Char) : List TemplatePart := partsFrom 0 s

/-- The names in a template, in order. -/
def templateNames (s : List Char) : List (List Char) :=
  (templateParts s).filterMap fun
    | .name n => some n
    | .plain _ => none

/-- A name between braces. -/
def braced (name : List Char) : List Char := '\x7b' :: name ++ ['\x7d']

end ClientForge.Text
