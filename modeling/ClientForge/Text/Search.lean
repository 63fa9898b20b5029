/-!
Finding, cutting and replacing pieces of text. Texts are lists of characters.
-/

namespace ClientForge.Text

/-- What follows `p`, if the text starts with it. -/
def after? (p s : List Char) : Option (List Char) :=
  match p, s with
  | [], s => some s
  | _ :: _, [] => none
  | a :: p, c :: s => if a = c then after? p s else none

/-- The text before and after the first occurrence of `p`. -/
def cut? (p : List Char) : List Char → Option (List Char × List Char)
  | [] => if p.isEmpty then some ([], []) else none
  | c :: s =>
    match after? p (c :: s) with
    | some rest => some ([], rest)
    | none => (cut? p s).map fun (before, rest) => (c :: before, rest)

/-- Does `p` occur in the text? -/
def occurs (p s : List Char) : Bool := (cut? p s).isSome

/-- The text before the first `c`, or all of it. -/
def upTo (c : Char) (s : List Char) : List Char := s.takeWhile (· != c)

/-- Cut at every `sep`: always at least one piece. -/
def splitAt (sep : Char) : List Char → List (List Char)
  | [] => [[]]
  | c :: s =>
    if c = sep then [] :: splitAt sep s
    else
      match splitAt sep s with
      | [] => [[c]]
      | piece :: pieces => (c :: piece) :: pieces

/-- Put `new` for every occurrence of `old`, from the left, without overlap. `skip` counts the
characters of the last occurrence still to drop. -/
def replaceFrom (old new : List Char) (skip : Nat) : List Char → List Char
  | [] => []
  | c :: s =>
    if 0 < skip then replaceFrom old new (skip - 1) s
    else if old.isPrefixOf (c :: s) then new ++ replaceFrom old new (old.length - 1) s
    else c :: replaceFrom old new 0 s

/-- Put `new` for every occurrence of the non-empty `old`. -/
def replace (old new s : List Char) : List Char := replaceFrom old new 0 s

/-- The pieces one after another, with `sep` between them. -/
def join (sep : List Char) : List (List Char) → List Char
  | [] => []
  | [p] => p
  | p :: q :: ps => p ++ sep ++ join sep (q :: ps)

/-- The hexadecimal digit of a number below sixteen. -/
def hexDigit (n : Nat) : Char :=
  if n < 10 then Char.ofNat (48 + n) else Char.ofNat (87 + n)

/-- The last `width` hexadecimal digits of a number. -/
def hex (width n : Nat) : List Char :=
  match width with
  | 0 => []
  | w + 1 => hex w (n / 16) ++ [hexDigit (n % 16)]

/-- The value of a hexadecimal digit. -/
def hexValue? (c : Char) : Option Nat :=
  if '0' ≤ c && c ≤ '9' then some (c.toNat - 48)
  else if 'a' ≤ c && c ≤ 'f' then some (c.toNat - 87)
  else if 'A' ≤ c && c ≤ 'F' then some (c.toNat - 55)
  else none

/-- The number written by digits of the given base below 36, most significant first. -/
def inBase? (base : Nat) (s : List Char) : Option Nat :=
  if s.isEmpty then none
  else
    s.foldl (fun acc c => do
      let n ← acc
      let d ← hexValue? c
      if d < base then return n * base + d else none) (some 0)

end ClientForge.Text
