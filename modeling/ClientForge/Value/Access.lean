import ClientForge.Failure
import ClientForge.Text.Case
import ClientForge.Value.Display

/-!
Looking into values of any kind.
-/

namespace ClientForge.Value

/-- The value of a member; nothing, if a map does not have it. Only maps have members. -/
def member (v : Value) (name : String) : Except Failure Value :=
  match v with
  | map es => .ok (Entries.get es name)
  | _ => .error (.broken .noMembers)

/-- The entries of a map that a field should hold; none, if the field holds nothing. -/
def entriesOf (v : Value) (field : String) : Except Failure Entries :=
  match v with
  | null => .ok []
  | map es => .ok es
  | _ => .error (.refused ("'" ++ field ++ "' must be an object"))

/-- The items of a collection: those of a list, the characters of a text, the keys of a map. -/
def items (v : Value) : Except Failure (List Value) :=
  match v with
  | list xs | tuple xs | set xs => .ok xs
  | text s => .ok (s.toList.map fun c => .text (String.singleton c))
  | bytes bs => .ok (bs.map fun b => .int b.toNat)
  | map es => .ok (es.map (·.1))
  | _ => .error (.broken .wrongKind)

/-- The first item of a list or text, or the entry of a map under the key zero. -/
def first (v : Value) : Except Failure Value :=
  match v with
  | list xs | tuple xs =>
    match xs with
    | x :: _ => .ok x
    | [] => .error (.broken .outOfRange)
  | text s =>
    match s.toList with
    | c :: _ => .ok (.text (String.singleton c))
    | [] => .error (.broken .outOfRange)
  | bytes bs =>
    match bs with
    | b :: _ => .ok (.int b.toNat)
    | [] => .error (.broken .outOfRange)
  | map es =>
    match Entries.find? es (.int 0) with
    | some x => .ok x
    | none => .error (.broken .noEntry)
  | _ => .error (.broken .wrongKind)

/-- The first item, or `other` if the value is nothing, zero or empty. -/
def firstOr (v other : Value) : Except Failure Value := if v.truthy then v.first else .ok other

/-- The text that a value has to be. -/
def asText (v : Value) : Except Failure String :=
  match v with
  | text s => .ok s
  | _ => .error (.broken .wrongKind)

/-- Is the value this text? -/
def isText (v : Value) (s : String) : Bool :=
  match v with
  | text t => t == s
  | _ => false

/-- The entries, if the value is a map. -/
def entries? : Value → Option Entries
  | map es => some es
  | _ => none

/-- A key that has to be allowed as one. -/
def checkKey (k : Value) : Except Failure Unit :=
  if k.isKey then .ok () else .error (.broken .wrongKind)

/-! ## Texts of values -/

/-- The display text of a value, if it can be displayed. -/
def shown (v : Value) : Except Failure String :=
  if v.isShort then .ok v.display else .error (.broken .badValue)

/-- The descriptive text of a value, if it can be displayed. -/
def described (v : Value) : Except Failure String :=
  if v.isShort then .ok v.describe else .error (.broken .badValue)

/-- The text in small letters. -/
def lowered (v : Value) : String := v.display.lowered

end ClientForge.Value
