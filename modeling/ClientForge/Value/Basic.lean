import ClientForge.Value.Calendar

/-!
Free values: what a document may hold where the description model asks for nothing in
particular. Documents are free values too.

Maps keep their entries in order. Their keys are free values: those of JSON documents are texts,
those of YAML documents any scalar.
-/

namespace ClientForge

/-- A free value. -/
inductive Value where
  | null
  | bool (b : Bool)
  | int (n : Int)
  | float (x : Double)
  | text (s : String)
  | bytes (bs : List UInt8)
  | date (d : Date)
  | moment (t : Moment)
  | list (items : List Value)
  /-- A fixed group of values, such as the entry of an ordered map. -/
  | tuple (items : List Value)
  | set (items : List Value)
  | map (entries : List (Value × Value))
  /-- A collection inside itself, where an alias names a collection around it. What it holds once more is
  left out. -/
  | again
deriving Repr, BEq, Inhabited

/-- The entries of a map, in order. -/
abbrev Entries := List (Value × Value)

namespace Value

/-- Is the value other than nothing, zero and empty? -/
def truthy : Value → Bool
  | null => false
  | bool b => b
  | int n => n != 0
  | float x => !x.isZero
  | text s => !s.isEmpty
  | bytes bs => !bs.isEmpty
  | date _ | moment _ => true
  | list xs | tuple xs | set xs => !xs.isEmpty
  | map es => !es.isEmpty
  | again => true

/-- The value, or `other` in place of nothing, zero and empty. -/
def orElse (v other : Value) : Value := if v.truthy then v else other

/-! ## Keys -/

/-- The number that a value stands for, as an integer if it is one: truth values are 0 and 1. -/
def wholeNumber? : Value → Option Int
  | bool b => some (if b then 1 else 0)
  | int n => some n
  | float x => x.toInt?
  | _ => none

mutual

/-- Are the two the same key? Numbers are the same by value, whatever their kind, and every NaN
is the same. -/
def sameKey : Value → Value → Bool
  | null, null => true
  | text a, text b => a == b
  | bytes a, bytes b => a == b
  | date a, date b => a == b
  | moment a, moment b => a.sameInstant b
  | tuple as, tuple bs => sameKeys as bs
  | float a, float b => a == b || a.sameNumber b
  | a, b =>
    match a.wholeNumber?, b.wholeNumber? with
    | some m, some n => m == n
    | _, _ => false
termination_by structural a => a

def sameKeys : List Value → List Value → Bool
  | [], [] => true
  | a :: as, b :: bs => sameKey a b && sameKeys as bs
  | _, _ => false
termination_by structural as => as

end

mutual

/-- May the value be a key? Collections that could change may not. -/
def isKey : Value → Bool
  | list _ | set _ | map _ | again => false
  | tuple xs => areKeys xs
  | _ => true
termination_by structural v => v

def areKeys : List Value → Bool
  | [] => true
  | x :: xs => isKey x && areKeys xs
termination_by structural xs => xs

end

end Value

namespace Entries

/-- The value under a key. -/
def find? (es : Entries) (k : Value) : Option Value :=
  (List.find? (fun e => e.1.sameKey k) es).map (·.2)

/-- The value under a text key. -/
def get? (es : Entries) (k : String) : Option Value := find? es (.text k)

/-- The value under a text key; nothing if there is none. -/
def get (es : Entries) (k : String) : Value := (get? es k).getD .null

/-- Is there an entry under a text key? -/
def has (es : Entries) (k : String) : Bool := (get? es k).isSome

/-- Put a value under a key. A key that is there keeps its place and its first spelling. -/
def insert : Entries → Value → Value → Entries
  | [], k, v => [(k, v)]
  | e :: es, k, v => if e.1.sameKey k then (e.1, v) :: es else e :: insert es k v

/-- The entries of both, those of `new` last where both have a key. -/
def update (es new : Entries) : Entries := new.foldl (fun acc e => insert acc e.1 e.2) es

/-- The entries put one by one into an empty map. -/
def ofList (es : Entries) : Entries := update [] es

/-- The entries without those under a text key. -/
def erase (es : Entries) (k : String) : Entries := List.filter (fun e => !e.1.sameKey (.text k)) es

end Entries

end ClientForge
