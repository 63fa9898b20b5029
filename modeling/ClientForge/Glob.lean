import ClientForge.Text.Search

/-!
Globs: patterns for texts. A `*` stands for any text, a `?` for any character, and a set between
brackets for one of its characters (`fnmatchcase`). Main statements: a glob matches by its first item, which
takes a character that it stands for (`accepts_one_cons`), or as a run any number of them (`accepts_run_iff`).
-/

namespace ClientForge

/-! ## Sets of characters -/

/-- A set of characters, by its ranges or by those of the other characters. -/
structure CharSet where
  negated : Bool := false
  ranges : List (Char × Char) := []
deriving DecidableEq, Repr, Inhabited

namespace CharSet

/-- All characters. -/
def full : CharSet := { negated := true }

/-- A single character. -/
def single (c : Char) : CharSet := { ranges := [(c, c)] }

def has (k : CharSet) (c : Char) : Bool :=
  k.negated != k.ranges.any fun r => r.1 ≤ c && c ≤ r.2

/-- The text of a set, from after its opening bracket to before the closing one. A closing bracket in
the first place, or after a mark of negation there, is a character of the set. -/
def text? : List Char → Option (List Char)
  | '!' :: ']' :: s => (Text.cut? [']'] s).map fun (t, _) => '!' :: ']' :: t
  | ']' :: s => (Text.cut? [']'] s).map fun (t, _) => ']' :: t
  | s => (Text.cut? [']'] s).map Prod.fst

/-- The pieces of a set's text between the hyphens of its ranges. The first `least` characters are no
such hyphens, nor are the first two after one, nor the last of all. `piece` is the piece so far,
backwards. -/
def pieces (least : Nat) (piece : List Char) : List Char → List (List Char)
  | [] => [piece.reverse]
  | c :: s =>
    if c = '-' && least = 0 && !s.isEmpty then piece.reverse :: pieces 2 [] s
    else pieces (least - 1) (c :: piece) s

/-- Two pieces, or one without the ends of their range, if no character is in the range. -/
def joinPieces (p q : List Char) : List (List Char) :=
  match p.getLast?, q.head? with
  | some low, some high => if high < low then [p.dropLast ++ q.tail] else [p, q]
  | _, _ => [p, q]

/-- The pieces without empty ranges, from the last one on. -/
def dropEmptyRanges : List (List Char) → List (List Char)
  | [] => []
  | p :: ps =>
    match dropEmptyRanges ps with
    | [] => [p]
    | q :: qs => joinPieces p q ++ qs

/-- The characters of the pieces, with `none` for the hyphen of a range. -/
def marks (ps : List (List Char)) : List (Option Char) :=
  List.intercalate [none] (ps.map fun p => p.map some)

/-- The ranges of characters and hyphens. A hyphen that does not stand between two characters is a
character itself. -/
def rangesOf : List (Option Char) → List (Char × Char)
  | [] => []
  | some low :: none :: some high :: s => (low, high) :: rangesOf s
  | some c :: s => (c, c) :: rangesOf s
  | none :: s => ('-', '-') :: rangesOf s

/-- The set of a text. -/
def ofText (s : List Char) : CharSet :=
  let least := if s.head? = some '!' then 2 else 1
  match marks (dropEmptyRanges (pieces least [] s)) with
  | some '!' :: ms => { negated := true, ranges := rangesOf ms }
  | ms => { ranges := rangesOf ms }

end CharSet

/-! ## Globs -/

/-- An item of a glob. -/
inductive GlobItem where
  /-- Any text. -/
  | run
  /-- One character of a set. -/
  | one (k : CharSet)
deriving DecidableEq, Repr, Inhabited

/-- A pattern for texts. -/
abbrev Glob := List GlobItem

namespace Glob

/-- The items of a pattern after its first `skip` characters. An opening bracket that is not closed
stands for itself. -/
def itemsFrom (skip : Nat) : List Char → Glob
  | [] => []
  | c :: s =>
    if 0 < skip then itemsFrom (skip - 1) s
    else if c = '*' then .run :: itemsFrom 0 s
    else if c = '?' then .one .full :: itemsFrom 0 s
    else if c = '[' then
      match CharSet.text? s with
      | some t => .one (.ofText t) :: itemsFrom (t.length + 1) s
      | none => .one (.single c) :: itemsFrom 0 s
    else .one (.single c) :: itemsFrom 0 s

/-- The glob of a pattern. -/
def ofText (pattern : String) : Glob := itemsFrom 0 pattern.toList

/-! ## Matching

A table tells for a text and for each of its tails, the empty one last, whether a glob matches it. -/

/-- The table of the glob without items. -/
def tableOfEnd : List Char → List Bool
  | [] => [true]
  | _ :: s => false :: tableOfEnd s

/-- The table of a set before a glob with the table `t`. -/
def tableOfOne (k : CharSet) : List Char → List Bool → List Bool
  | c :: s, _ :: t => (k.has c && t.headD false) :: tableOfOne k s t
  | _, _ => [false]

/-- The table of any text before a glob with the table `t`. -/
def tableOfRun : List Bool → List Bool
  | [] => []
  | b :: t =>
    let later := tableOfRun t
    (b || later.headD false) :: later

/-- The table of a glob. -/
def table : Glob → List Char → List Bool
  | [], s => tableOfEnd s
  | .one k :: g, s => tableOfOne k s (table g s)
  | .run :: g, s => tableOfRun (table g s)

/-- Does the glob match all of a text? -/
def accepts (g : Glob) (s : List Char) : Bool := (table g s).headD false

theorem table_cons (g : Glob) (c : Char) (s : List Char) :
    table g (c :: s) = accepts g (c :: s) :: table g s := by
  unfold accepts
  induction g with
  | nil => rfl
  | cons i g ih =>
    cases i <;> (simp only [table]; rw [ih]; rfl)

theorem table_nil (g : Glob) : table g [] = [accepts g []] := by
  unfold accepts
  induction g with
  | nil => rfl
  | cons i g ih =>
    cases i <;> (simp only [table]; rw [ih]; simp [tableOfOne, tableOfRun])

@[simp] theorem accepts_end_nil : accepts [] [] = true := rfl

@[simp] theorem accepts_end_cons (c : Char) (s : List Char) : accepts [] (c :: s) = false := rfl

@[simp] theorem accepts_one_nil (k : CharSet) (g : Glob) : accepts (.one k :: g) [] = false := rfl

@[simp] theorem accepts_one_cons (k : CharSet) (g : Glob) (c : Char) (s : List Char) :
    accepts (.one k :: g) (c :: s) = (k.has c && accepts g s) := by
  rw [accepts, table, table_cons]
  rfl

@[simp] theorem accepts_run_nil (g : Glob) : accepts (.run :: g) [] = accepts g [] := by
  rw [accepts, table, table_nil]
  simp [tableOfRun]

theorem accepts_run_cons (g : Glob) (c : Char) (s : List Char) :
    accepts (.run :: g) (c :: s) = (accepts g (c :: s) || accepts (.run :: g) s) := by
  rw [accepts, table, table_cons]
  rfl

/-- A run takes any text, so that the rest of the glob matches some end of the text. -/
theorem accepts_run_iff {g : Glob} {s : List Char} :
    accepts (.run :: g) s = true ↔ ∃ t, t <:+ s ∧ accepts g t = true := by
  induction s with
  | nil => simp
  | cons c s ih =>
    rw [accepts_run_cons, Bool.or_eq_true, ih]
    constructor
    · rintro (hall | ⟨t, hend, ht⟩)
      · exact ⟨c :: s, List.suffix_refl _, hall⟩
      · exact ⟨t, hend.trans (List.suffix_cons c s), ht⟩
    · rintro ⟨t, hend, ht⟩
      rcases List.suffix_cons_iff.1 hend with rfl | hend
      · exact Or.inl ht
      · exact Or.inr ⟨t, hend, ht⟩

end Glob

end ClientForge
