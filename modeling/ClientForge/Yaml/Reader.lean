import ClientForge.Value.Basic
import ClientForge.Yaml.Node
import ClientForge.Yaml.Number

/-!
The value of a YAML text (`yaml.safe_load`). A collection that an alias puts inside itself is cut there, where
`Value.again` stands for it. A mapping that includes a collection around it is taken to hold itself, whether it
comes to that or not.

Collections are filled level by level: all scalars directly in one collection are read before
anything inside the collections it holds. So of several faults the one in the shallowest
collection counts, and of those the first.
-/

namespace ClientForge.Yaml

/-- A fault, and how many levels further down it is met. -/
structure Late where
  depth : Nat
  fault : Fault
deriving Repr

/-- The value of a node, or its first fault. -/
abbrev Outcome := Except Late Value

def Outcome.malformed : Outcome := .error ⟨0, .malformed⟩

/-- A fault of the content of a collection is met one level further down. -/
def deeper {α : Type} (r : Except Late α) : Except Late α :=
  r.mapError fun l => { l with depth := l.depth + 1 }

/-! ## Scalars -/

/-- The truth value of a word, in any case. -/
def readTruth (text : List Char) : Except Fault Bool :=
  match String.ofList (Text.lower text) with
  | "yes" | "true" | "on" => .ok true
  | "no" | "false" | "off" => .ok false
  | _ => .error .unknownWord

def readMoment (text : List Char) : Except Fault Value :=
  match MomentText.read? (withoutLineFeed text) with
  | none => .error .badMoment
  | some m => m.resolve.map fun
    | .date d => .date d
    | .moment t => .moment t

/-- The value of a scalar of a tag. A collection tag fails only once its content is read. -/
def scalarValue (tag : Tag) (text : String) : Outcome :=
  let s := text.toList
  let now (r : Except Fault Value) : Outcome := r.mapError (⟨0, ·⟩)
  match tag with
  | .null => .ok .null
  | .bool => now ((readTruth s).map .bool)
  | .int => now ((readInteger s).map .int)
  | .float => now ((readFloat s).map .float)
  | .moment => now (readMoment s)
  | .binary => now ((readBytes s).map .bytes)
  | .text => .ok (.text text)
  | .sequence | .mapping | .set | .pairs => .error ⟨1, .malformed⟩
  | .merge | .value | .unknown => .malformed

/-! ## Collections -/

/-- The fault that is met first. -/
def firstLate : List Late → Option Late
  | [] => none
  | l :: ls =>
    match firstLate ls with
    | some m => some (if m.depth < l.depth then m else l)
    | none => some l

/-- The values, if none has a fault. -/
def gather (rs : List Outcome) : Except Late (List Value) :=
  match firstLate (rs.filterMap fun | .error l => some l | .ok _ => none) with
  | some l => .error l
  | none => .ok (rs.filterMap (·.toOption))

/-- The pairs of values, if none has a fault. -/
def gatherPairs (rs : List (Outcome × Outcome)) : Except Late (List (Value × Value)) :=
  match gather (rs.flatMap fun (k, v) => [k, v]) with
  | .error l => .error l
  | .ok _ => .ok (rs.filterMap fun (k, v) => do return (← k.toOption, ← v.toOption))

/-- A value in the place of a key. -/
def asKey (r : Outcome) : Outcome :=
  match r with
  | .ok v => if v.isKey then .ok v else .malformed
  | .error ⟨0, f⟩ => .error ⟨0, f⟩
  | .error _ => .malformed

/-- The entries that a mapping has: those included from other mappings, and its own. -/
structure Content where
  included : List (Outcome × Outcome)
  own : List (Outcome × Outcome)

def Content.all (c : Content) : List (Outcome × Outcome) := c.included ++ c.own

mutual

/-- The text of a node that stands for a scalar: its own, or the one under a plain equals sign. -/
def Node.scalarText? : Node → Option String
  | .scalar _ text => some text
  | .sequence _ _ | .again _ => none
  | .mapping _ es => scalarTextOf? es
termination_by structural n => n

def scalarTextOf? : List (Node × Node) → Option String
  | [] => none
  | (k, v) :: es => if k.tag = .value then v.scalarText? else scalarTextOf? es
termination_by structural es => es

end

/-- A key of a plain equals sign is its text. -/
def textKey (k : Node) : Outcome :=
  match k.scalarText? with
  | some s => .ok (.text s)
  | none => .malformed

mutual

/-- The value of a node. -/
def Node.value : Node → Outcome
  | .scalar tag text => scalarValue tag text
  | .again _ => .ok .again
  | .sequence tag items =>
    match tag with
    | .sequence => deeper ((gather (itemValues items)).map .list)
    | .pairs =>
      deeper ((gatherPairs (pairsOf items)).map fun ps =>
        .list (ps.map fun (k, v) => .tuple [k, v]))
    | .mapping | .set => .error ⟨1, .malformed⟩
    | _ => .malformed
  | .mapping tag es =>
    match tag with
    | .mapping =>
      deeper ((contentOf es).bind fun c => (gatherPairs c.all).map fun ps => .map (Entries.ofList ps))
    | .set =>
      deeper ((contentOf es).bind fun c =>
        (gatherPairs c.all).map fun ps => .set ((Entries.ofList ps).map (·.1)))
    | .sequence | .pairs => .error ⟨1, .malformed⟩
    | .moment =>
      match scalarTextOf? es with
      | some _ => .error ⟨0, .momentOfMapping⟩
      | none => .malformed
    | tag =>
      match scalarTextOf? es with
      | some text => scalarValue tag text
      | none => .malformed
termination_by structural n => n

def itemValues : List Node → List Outcome
  | [] => []
  | x :: xs => x.value :: itemValues xs
termination_by structural xs => xs

/-- The pair of each mapping of one entry. -/
def pairsOf : List Node → List (Outcome × Outcome)
  | [] => []
  | x :: xs => x.onePair :: pairsOf xs
termination_by structural xs => xs

/-- The key and the value of a mapping of one entry. -/
def Node.onePair : Node → Outcome × Outcome
  | .mapping _ [(k, v)] => (k.value, v.value)
  | _ => (.malformed, .ok .null)
termination_by structural n => n

/-- The entries of a mapping. -/
def contentOf : List (Node × Node) → Except Late Content
  | [] => .ok ⟨[], []⟩
  | (k, v) :: es => do
    let c ← contentOf es
    if k.tag = .merge then return { c with included := (← v.inclusion) ++ c.included }
    else
      let key := if k.tag = .value then textKey k else k.value
      return { c with own := (asKey key, v.value) :: c.own }
termination_by structural es => es

/-- What is included from a collection around the mapping: the way from there to here among others, so that the
mapping holds itself. -/
def endlessEntries : List (Outcome × Outcome) := [(.ok .null, .ok .again)]

/-- The entries that an inclusion brings: those of a mapping, or of a list of mappings, of which
earlier ones count more. -/
def Node.inclusion : Node → Except Late (List (Outcome × Outcome))
  | .mapping _ es => (contentOf es).map Content.all
  | .sequence _ items => inclusions items
  | .again _ => .ok endlessEntries
  | .scalar _ _ => .error ⟨0, .malformed⟩
termination_by structural n => n

def inclusions : List Node → Except Late (List (Outcome × Outcome))
  | [] => .ok []
  | x :: xs => do
    let first ← x.included
    return (← inclusions xs) ++ first
termination_by structural xs => xs

def Node.included : Node → Except Late (List (Outcome × Outcome))
  | .mapping _ es => (contentOf es).map Content.all
  | .again _ => .ok endlessEntries
  | _ => .error ⟨0, .malformed⟩
termination_by structural n => n

end

/-- The value of a text; nothing, if the text has no document. -/
def read (text : String) : Except Fault Value := do
  match ← Node.ofTokens (Token.scan text.toList) with
  | none => return .null
  | some n => n.value.mapError (·.fault)

end ClientForge.Yaml
