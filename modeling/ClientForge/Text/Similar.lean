/-!
Similar texts: how much two texts have in common, and which words are close to one that is not known
(`get_close_matches`).
-/

namespace ClientForge.Text

/-- How many characters two texts have in common at their start. -/
def commonStart : List Char → List Char → Nat
  | a :: s, b :: t => if a = b then commonStart s t + 1 else 0
  | _, _ => 0

/-- A part that stands in two texts: where it starts in each of them, and its length. -/
structure CommonPart where
  inLeft : Nat := 0
  inRight : Nat := 0
  length : Nat := 0
deriving DecidableEq, Repr, Inhabited

/-- The longest common part, and of those as long the first in the left text, then in the right one. -/
def longestCommon (s t : List Char) : CommonPart :=
  let starts := (List.range s.length).flatMap fun i => (List.range t.length).map fun j => (i, j)
  starts.foldl (fun best (i, j) =>
    let n := commonStart (s.drop i) (t.drop j)
    if best.length < n then ⟨i, j, n⟩ else best) {}

/-- How many characters the longest common part has, and with it those on either side of it. -/
def sharedFrom (fuel : Nat) (s t : List Char) : Nat :=
  match fuel with
  | 0 => 0
  | fuel + 1 =>
    let part := longestCommon s t
    if part.length = 0 then 0
    else
      part.length + sharedFrom fuel (s.take part.inLeft) (t.take part.inRight) +
        sharedFrom fuel (s.drop (part.inLeft + part.length)) (t.drop (part.inRight + part.length))

/-- How many characters two texts share, in order. -/
def shared (s t : List Char) : Nat := sharedFrom s.length s t

/-- A word with what it shares with another text, twice, and the length of both together. -/
structure Likeness where
  word : String
  twiceShared : Nat
  total : Nat
deriving DecidableEq, Repr, Inhabited

namespace Likeness

def of (text word : String) : Likeness :=
  { word := word
    twiceShared := 2 * shared word.toList text.toList
    total := word.length + text.length }

/-- Are at least three characters of five shared? -/
def isClose (l : Likeness) : Bool := 3 * l.total ≤ 5 * l.twiceShared

/-- Is a word closer than another, or the later one of two that are as close? -/
def closer (l k : Likeness) : Bool :=
  let a := l.twiceShared * k.total
  let b := k.twiceShared * l.total
  b < a || (a == b && k.word ≤ l.word)

end Likeness

/-- How many words are worth a guess. -/
def mostGuesses : Nat := 3

/-- The words that a text may stand for, in order of the alphabet. -/
def closeWords (words : List String) (text : String) : List String :=
  let near := (words.map (Likeness.of text)).filter Likeness.isClose
  ((near.mergeSort Likeness.closer).take mostGuesses).map Likeness.word |>.mergeSort (· ≤ ·)

end ClientForge.Text
