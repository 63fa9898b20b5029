import ClientForge.Json.Basic
import ClientForge.Value.Display

/-!
Free values and JSON: every JSON value is a free value, and a free value has a JSON image unless it
holds bytes that are no text, a key that cannot be displayed, or itself. The image is written
(`model_dump_json`) if it is not too deep.
-/

namespace ClientForge.Value

mutual

/-- A JSON value as a free value. -/
def ofJson : Json → Value
  | .null => .null
  | .bool b => .bool b
  | .int n => .int n
  | .float x => .float x
  | .text s => .text s
  | .array xs => .list (ofItems xs)
  | .object ms => .map (ofMembers ms)
termination_by structural j => j

def ofItems : List Json → List Value
  | [] => []
  | x :: xs => ofJson x :: ofItems xs
termination_by structural xs => xs

def ofMembers : List (String × Json) → List (Value × Value)
  | [] => []
  | (k, v) :: ms => (.text k, ofJson v) :: ofMembers ms
termination_by structural ms => ms

end

/-- The text of UTF-8 bytes. -/
def decodeBytes? (bs : List UInt8) : Option String := String.fromUTF8? ⟨bs.toArray⟩

/-- The name of a member whose key is the value. -/
def memberName? : Value → Option String
  | bool b => some (if b then "true" else "false")
  | bytes bs => decodeBytes? bs
  | date d => some d.iso
  | moment t => some t.iso
  | v => if v.isShort then some v.display else none

mutual

/-- The JSON image of a free value: dates and points in time become their standard text, bytes
their text, and all collections of items arrays. -/
def toJson? : Value → Option Json
  | null => some .null
  | bool b => some (.bool b)
  | int n => some (.int n)
  | float x => some (.float x)
  | text s => some (.text s)
  | bytes bs => (decodeBytes? bs).map .text
  | date d => some (.text d.iso)
  | moment t => some (.text t.iso)
  | list xs => (toItems? xs).map .array
  | tuple xs => (toItems? xs).map .array
  | set xs => (toItems? xs).map .array
  | map es => (toMembers? es).map .object
  | again => none
termination_by structural v => v

def toItems? : List Value → Option (List Json)
  | [] => some []
  | x :: xs => do return (← toJson? x) :: (← toItems? xs)
termination_by structural xs => xs

def toMembers? : List (Value × Value) → Option (List (String × Json))
  | [] => some []
  | (k, v) :: es => do return (← memberName? k, ← toJson? v) :: (← toMembers? es)
termination_by structural es => es

end

/-! ## Depth -/

mutual

/-- How many values stand inside each other, from the value to its deepest item. Keys do not count. -/
def levels : Value → Nat
  | list xs | tuple xs | set xs => itemLevels xs + 1
  | map es => entryLevels es + 1
  | _ => 1
termination_by structural v => v

def itemLevels : List Value → Nat
  | [] => 0
  | x :: xs => max (levels x) (itemLevels xs)
termination_by structural xs => xs

def entryLevels : List (Value × Value) → Nat
  | [] => 0
  | (_, v) :: es => max (levels v) (entryLevels es)
termination_by structural es => es

end

/-- How many values may stand inside each other in a value that is written. -/
def writableLevels : Nat := 255

/-- The JSON image of a free value that is written. -/
def written? (v : Value) : Option Json := if v.levels ≤ writableLevels then v.toJson? else none

end ClientForge.Value
