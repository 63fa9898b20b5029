/-!
Lists of items that go by a key, in the order in which their keys first came.
-/

namespace ClientForge

/-- Put an item in the place of the one that is the same by `same`, or at the end. -/
def putBy {α : Type} (same : α → α → Bool) (x : α) : List α → List α
  | [] => [x]
  | y :: ys => if same y x then x :: ys else y :: putBy same x ys

/-- Put a value under a name. A name that is there keeps its place. -/
def putNamed {α : Type} (name : String) (value : α) (xs : List (String × α)) : List (String × α) :=
  putBy (fun a b => a.1 == b.1) (name, value) xs

/-- Values under their names: of several under one name the last, in the place of the first. -/
def ofNamed {α : Type} (xs : List (String × α)) : List (String × α) :=
  xs.foldl (fun ys x => putNamed x.1 x.2 ys) []

end ClientForge
