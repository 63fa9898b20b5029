import ClientForge.Value.Basic
import ClientForge.Text.Quoted

/-!
The display text of a free value (`str` and `repr`). A text is displayed as it is, but quoted inside a
collection. The texts here are those of all values; a value with an integer of too many digits is in fact
never displayed, which `isShort` tells.
-/

namespace ClientForge

namespace Value

/-- The pieces with commas between them, between brackets. -/
def bracketed (opening : String) (pieces : List String) (closing : String) : String :=
  opening ++ ", ".intercalate pieces ++ closing

mutual

/-- The descriptive text of a value, with texts quoted. -/
def describe : Value → String
  | null => "None"
  | bool b => if b then "True" else "False"
  | int n => toString n
  | float x => .ofList (Decimal.display x)
  | text s => Text.quoted s
  | bytes bs => Text.quotedBytes bs
  | date d => d.describe
  | moment t => t.describe
  | list xs => bracketed "[" (describeItems xs) "]"
  | tuple xs =>
    match describeItems xs with
    | [x] => "(" ++ x ++ ",)"
    | ps => bracketed "(" ps ")"
  | set xs => if xs.isEmpty then "set()" else bracketed "\x7b" (describeItems xs) "\x7d"
  | map es => bracketed "\x7b" (describeEntries es) "\x7d"
  | again => "[...]"
termination_by structural v => v

def describeItems : List Value → List String
  | [] => []
  | x :: xs => describe x :: describeItems xs
termination_by structural xs => xs

def describeEntries : List (Value × Value) → List String
  | [] => []
  | (k, v) :: es => (describe k ++ ": " ++ describe v) :: describeEntries es
termination_by structural es => es

end

/-- The display text of a value. -/
def display : Value → String
  | text s => s
  | date d => d.iso
  | moment t => t.display
  | v => v.describe

/-! ## Long integers -/

/-- The greatest number of digits of an integer that is displayed. -/
def displayLimit : Nat := 4300

mutual

/-- Can the value be displayed: do all integers in it have few enough digits? -/
def isShort : Value → Bool
  | int n => n.natAbs < Nat.pow 10 displayLimit
  | list xs | tuple xs | set xs => areShort xs
  | map es => entriesShort es
  | _ => true
termination_by structural v => v

def areShort : List Value → Bool
  | [] => true
  | x :: xs => isShort x && areShort xs
termination_by structural xs => xs

def entriesShort : List (Value × Value) → Bool
  | [] => true
  | (k, v) :: es => isShort k && isShort v && entriesShort es
termination_by structural es => es

end

end Value

end ClientForge
