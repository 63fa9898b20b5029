/-!
Line boundaries: the characters that end a line of text, and the lines between them (`splitlines`).
-/

namespace ClientForge.Text

/-- The characters that end a line. A carriage return with a line feed after it is one end. -/
def endsLine (c : Char) : Bool :=
  let n := c.toNat
  (0xA ≤ n && n ≤ 0xD) || (0x1C ≤ n && n ≤ 0x1E) || n == 0x85 || n == 0x2028 || n == 0x2029

/-- The lines of a text, without their ends. Text after the last end is a line too, unless it
is empty. `current` is the line so far, backwards. -/
def linesFrom (current : List Char) : List Char → List (List Char)
  | [] => if current.isEmpty then [] else [current.reverse]
  | '\r' :: '\n' :: s => current.reverse :: linesFrom [] s
  | c :: s => if endsLine c then current.reverse :: linesFrom [] s else linesFrom (c :: current) s

/-- The lines of a text. -/
def lines (s : List Char) : List (List Char) := linesFrom [] s

/-- Every line end of a text file becomes a line feed. -/
def unifyLineEnds : List Char → List Char
  | [] => []
  | '\r' :: '\n' :: s => '\n' :: unifyLineEnds s
  | '\r' :: s => '\n' :: unifyLineEnds s
  | c :: s => c :: unifyLineEnds s

end ClientForge.Text
