import ClientForge.Text.Search
import ClientForge.Yaml.Cursor
import ClientForge.Yaml.Fault

/-!
The texts of scalars: quoted, plain, and in blocks. As in JSON, a code escape for half of a character is left
out: its place is taken by the replacement character.
-/

namespace ClientForge.Yaml

/-- A line end between two lines of a scalar, folded: a lone line feed becomes a space, and of
several the first is dropped. -/
def fold (first : Char) (more : List Char) : List Char :=
  if first ≠ '\n' then first :: more else if more.isEmpty then [' '] else more

/-! ## Quoted scalars -/

/-- The character of an escape of one sign. -/
def escape? (c : Char) : Option Char :=
  match c with
  | '0' => some '\x00'
  | 'a' => some '\x07'
  | 'b' => some '\x08'
  | 't' | '\t' => some '\t'
  | 'n' => some '\n'
  | 'v' => some '\x0b'
  | 'f' => some '\x0c'
  | 'r' => some '\r'
  | 'e' => some '\x1b'
  | ' ' | '"' | '\\' | '/' => some c
  | 'N' => some '\u0085'
  | '_' => some '\u00a0'
  | 'L' => some '\u2028'
  | 'P' => some '\u2029'
  | _ => none

/-- The number of hexadecimal digits after the sign of an escape. -/
def escapeWidth? (c : Char) : Option Nat :=
  match c with
  | 'x' => some 2
  | 'u' => some 4
  | 'U' => some 8
  | _ => none

/-- The character of a code. -/
def charOf (n : Nat) : Except Fault Char :=
  if n < 0x110000 then .ok (if 0xD800 ≤ n && n < 0xE000 then '\uFFFD' else Char.ofNat n)
  else if n < 0x80000000 then .error .badValue
  else .error .tooGreat

/-- The line ends inside a quoted scalar. A document border may not stand at the start of a line. -/
def quotedBreaks : Nat → Cursor → Except Fault (List Char × Cursor)
  | 0, c => .ok ([], c)
  | fuel + 1, c =>
    if atBorder c.rest then .error .malformed
    else
      let c := c.skip fun ch => ch == ' ' || ch == '\t'
      match c.lineBreak? with
      | some (b, next) => (quotedBreaks fuel next).map fun (bs, last) => (b :: bs, last)
      | none => .ok ([], c)

/-- The rest of a quoted scalar after its opening quote, in the order of reading, and the place
after the closing quote. -/
def quotedScalar (double : Bool) : Nat → List Char → Cursor → Except Fault (List Char × Cursor)
  | 0, _, _ => .error .malformed
  | fuel + 1, acc, c =>
    match c.rest with
    | [] => .error .malformed
    | '\'' :: s =>
      if double then quotedScalar double fuel ('\'' :: acc) c.step
      else if s.head? = some '\'' then quotedScalar double fuel ('\'' :: acc) (c.steps 2)
      else .ok (acc.reverse, c.step)
    | '"' :: _ =>
      if double then .ok (acc.reverse, c.step) else quotedScalar double fuel ('"' :: acc) c.step
    | '\\' :: s =>
      if !double then quotedScalar double fuel ('\\' :: acc) c.step
      else
        match s with
        | [] => .error .malformed
        | e :: s =>
          match escape? e, escapeWidth? e with
          | some ch, _ => quotedScalar double fuel (ch :: acc) (c.steps 2)
          | none, some width =>
            match Text.inBase? 16 (s.take width) with
            | some n =>
              if s.length < width then .error .malformed
              else
                match charOf n with
                | .ok ch => quotedScalar double fuel (ch :: acc) (c.steps (2 + width))
                | .error f => .error f
            | none => .error .malformed
          | none, none =>
            match c.step.lineBreak? with
            | some (_, next) =>
              match quotedBreaks fuel next with
              | .ok (bs, next) => quotedScalar double fuel (bs.reverse ++ acc) next
              | .error f => .error f
            | none => .error .malformed
    | ch :: _ =>
      if ch = ' ' || ch = '\t' || isBreak ch then
        let (blanks, next) := c.span fun ch => ch == ' ' || ch == '\t'
        match next.lineBreak? with
        | some (b, next) =>
          match quotedBreaks fuel next with
          | .ok (bs, next) => quotedScalar double fuel ((fold b bs).reverse ++ acc) next
          | .error f => .error f
        | none => quotedScalar double fuel (blanks.reverse ++ acc) next
      else quotedScalar double fuel (ch :: acc) c.step

/-! ## Plain scalars -/

/-- The indicators of flow collections. -/
def isFlowSign (c : Char) : Bool := c == ',' || c == '[' || c == ']' || c == '\x7b' || c == '\x7d'

/-- Does a plain scalar end here? -/
def plainStops (inFlow : Bool) : List Char → Bool
  | [] => true
  | c :: s =>
    c == ' ' || c == '\t' || isBreak c ||
      (c == ':' && (atGap s || (inFlow && s.head?.any isFlowSign))) ||
      (inFlow && (c == '?' || isFlowSign c))

/-- The characters up to the end of a run of a plain scalar. -/
def plainRun (inFlow : Bool) : List Char → List Char
  | [] => []
  | c :: s => if plainStops inFlow (c :: s) then [] else c :: plainRun inFlow s

/-- The further line ends between two lines of a plain scalar. Nothing, if a document border comes
next. -/
def plainBreaks : Nat → Cursor → Option (List Char) × Cursor
  | 0, c => (some [], c)
  | fuel + 1, c =>
    let c := c.skipSpaces
    match c.lineBreak? with
    | some (b, next) =>
      if atBorder next.rest then (none, next)
      else
        let (bs, last) := plainBreaks fuel next
        (bs.map (b :: ·), last)
    | none => (some [], c)

/-- What stands between two runs of a plain scalar: the text (none if the scalar cannot go on),
whether a line ended, and the place after it. -/
def plainGap (fuel : Nat) (c : Cursor) : List Char × Bool × Cursor :=
  let (spaces, next) := c.span (· == ' ')
  match next.lineBreak? with
  | some (b, next) =>
    if atBorder next.rest then ([], true, next)
    else
      let (bs, next) := plainBreaks fuel next
      ((bs.map (fold b)).getD [], true, next)
  | none => (spaces, false, next)

/-- A plain scalar: its text, whether a line ended in or after it, and the place after it. `gap`
is what stands before the next run; `indent` is the least column of the lines that go on. -/
def plainScalar (inFlow : Bool) (indent : Int) :
    Nat → (acc gap : List Char) → (broken : Bool) → Cursor → List Char × Bool × Cursor
  | 0, acc, _, broken, c => (acc, broken, c)
  | fuel + 1, acc, gap, broken, c =>
    let run := if c.rest.head? = some '#' then [] else plainRun inFlow c.rest
    if run.isEmpty then (acc, broken, c)
    else
      let acc := acc ++ gap ++ run
      let (gap, ended, next) := plainGap fuel (c.steps run.length)
      if gap.isEmpty || next.rest.head? = some '#' || (!inFlow && (next.column : Int) < indent) then
        (acc, ended, next)
      else plainScalar inFlow indent fuel acc gap ended next

/-! ## Block scalars -/

/-- What becomes of the line ends after a block scalar. -/
inductive Chomping where
  | clip
  | strip
  | keep
deriving DecidableEq, Repr

/-- The header of a block scalar, after its first sign: the chomping, the indentation if it is
given, and the place after the line. -/
def blockHeader (c : Cursor) : Except Fault (Chomping × Option Nat × Cursor) :=
  let chomping? (ch : Char) : Option Chomping :=
    if ch = '+' then some .keep else if ch = '-' then some .strip else none
  let digit? (ch : Char) : Option Nat :=
    if '0' ≤ ch && ch ≤ '9' then some (ch.toNat - 48) else none
  let sign (c : Cursor) := c.rest.head?.bind chomping?
  let width (c : Cursor) := c.rest.head?.bind digit?
  let (chomping, increment, c) : Chomping × Option Nat × Cursor :=
    match sign c, width c with
    | some s, _ =>
      let c := c.step
      match width c with
      | some w => (s, some w, c.step)
      | none => (s, none, c)
    | none, some w =>
      let c := c.step
      match sign c with
      | some s => (s, some w, c.step)
      | none => (.clip, some w, c)
    | none, none => (.clip, none, c)
  if increment = some 0 || !atSpace c.rest then .error .malformed
  else
    let c := c.skipComment
    if atLineEnd c.rest then .ok (chomping, increment, c.skipBreak) else .error .malformed

/-- The line ends before the first line of a block scalar, the deepest column reached among
them, and the place after them. -/
def leadingBreaks : Nat → Nat → Cursor → List Char × Nat × Cursor
  | 0, deepest, c => ([], deepest, c)
  | fuel + 1, deepest, c =>
    match c.rest with
    | ' ' :: _ =>
      let c := c.step
      leadingBreaks fuel (max deepest c.column) c
    | _ =>
      match c.lineBreak? with
      | some (b, next) =>
        let (bs, deepest, last) := leadingBreaks fuel deepest next
        (b :: bs, deepest, last)
      | none => ([], deepest, c)

/-- Spaces up to a column. -/
def skipTo (indent : Nat) : Nat → Cursor → Cursor
  | 0, c => c
  | fuel + 1, c =>
    if c.column < indent && c.rest.head? = some ' ' then skipTo indent fuel c.step else c

/-- The lines of a block scalar: the text up to the last line, its line end, the line ends after
it, and the place after them. -/
def blockLines (folded : Bool) (indent : Nat) :
    Nat → (acc breaks : List Char) → Cursor → List Char × List Char × List Char × Cursor
  | 0, acc, breaks, c => (acc, [], breaks, c)
  | fuel + 1, acc, breaks, c =>
    let isText (c : Cursor) := c.rest.head?.any fun ch => ch != ' ' && ch != '\t'
    let (line, next) := c.span fun ch => !isBreak ch
    let acc := acc ++ breaks ++ line
    let (lineEnd, next) : List Char × Cursor :=
      match next.lineBreak? with
      | some (b, next) => ([b], next)
      | none => ([], next)
    let (breaks, next) := next.lineBreaks (fun c => skipTo indent indent c) fuel
    if next.column = indent && !next.rest.isEmpty then
      let glue :=
        if folded && lineEnd == ['\n'] && isText c && isText next then
          if breaks.isEmpty then [' '] else []
        else lineEnd
      blockLines folded indent fuel (acc ++ glue) breaks next
    else (acc, lineEnd, breaks, next)

/-- A block scalar after its first sign, and the place after it. `parent` is the indentation around
it. -/
def blockScalar (folded : Bool) (parent : Int) (fuel : Nat) (c : Cursor) :
    Except Fault (List Char × Cursor) :=
  match blockHeader c with
  | .error f => .error f
  | .ok (chomping, increment, c) =>
    let least := max (parent + 1).toNat 1
    let (indent, breaks, c) : Nat × List Char × Cursor :=
      match increment with
      | none =>
        let (bs, deepest, c) := leadingBreaks fuel 0 c
        (max least deepest, bs, c)
      | some i =>
        let indent := least + i - 1
        let (bs, c) := c.lineBreaks (fun c => skipTo indent indent c) fuel
        (indent, bs, c)
    let (body, lineEnd, breaks, c) :=
      if c.column = indent && !c.rest.isEmpty then blockLines folded indent fuel [] breaks c
      else ([], [], breaks, c)
    let tail :=
      match chomping with
      | .strip => []
      | .clip => lineEnd
      | .keep => lineEnd ++ breaks
    .ok (body ++ tail, c)

end ClientForge.Yaml
