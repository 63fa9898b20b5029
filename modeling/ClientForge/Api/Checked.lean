import ClientForge.Api.Issue
import ClientForge.Api.Basic
import ClientForge.Keyed
import ClientForge.Value.Json

/-!
Checked data: a value, or all issues found on the way to it. Parts are checked each by itself, and
their issues are put together in order.
-/

namespace ClientForge

/-- A value, or the issues that stand against it. -/
abbrev Checked (α : Type) := Except (List Issue) α

namespace Checked

/-- A single complaint about the value itself. -/
def complain {α : Type} (c : Complaint) : Checked α := .error [⟨[], c⟩]

/-- The value of a part, whose issues are found a step further in. -/
def within {α : Type} (step : Step) (x : Checked α) : Checked α :=
  x.mapError fun is => is.map fun i => { i with place := step :: i.place }

/-- Check one part more. -/
def also {α β : Type} (f : Checked (α → β)) (x : Checked α) : Checked β :=
  match f, x with
  | .ok f, .ok x => .ok (f x)
  | .ok _, .error is => .error is
  | .error is, .ok _ => .error is
  | .error is, .error js => .error (is ++ js)

/-- The values of all parts. -/
def all {α : Type} : List (Checked α) → Checked (List α)
  | [] => .ok []
  | x :: xs => also (x.map List.cons) (all xs)

/-- The values of the items, each found at its index from `i` on. -/
def items {α β : Type} (check : α → Checked β) (i : Nat) : List α → List (Checked β)
  | [] => []
  | x :: xs => within (.item i) (check x) :: items check (i + 1) xs

/-! ## Values of a kind -/

def text : Value → Checked String
  | .text s => .ok s
  | .bytes bs =>
    match Value.decodeBytes? bs with
    | some s => .ok s
    | none => complain .undecodableText
  | _ => complain .notText

/-- A text, or nothing. -/
def optional {α : Type} (check : Value → Checked α) : Value → Checked (Option α)
  | .null => .ok none
  | v => (check v).map some

/-- The words for the truth values. -/
def truthOf? (s : String) : Option Bool :=
  let w := String.ofList (s.toList.map Char.toLower)
  if ["1", "on", "t", "true", "y", "yes"].contains w then some true
  else if ["0", "off", "f", "false", "n", "no"].contains w then some false
  else none

/-- Is the number one of those that a signed word of 64 bits holds? -/
def isWord (n : Int) : Bool := -9223372036854775808 ≤ n && n ≤ 9223372036854775807

/-- A truth value, the number one or zero, or a word for one of the two. -/
def truth : Value → Checked Bool
  | .bool b => .ok b
  | .text s => ofText (some s)
  | .bytes bs => ofText (Value.decodeBytes? bs)
  | .int n => ofInt n
  | .float x =>
    match x.toInt? with
    | some n => if n = -9223372036854775808 then complain .notTruth else ofInt n
    | none => complain .notTruth
  | _ => complain .notTruth
where
  ofText (s : Option String) : Checked Bool :=
    match s.bind truthOf? with
    | some b => .ok b
    | none => complain .unknownTruth
  ofInt (n : Int) : Checked Bool :=
    if n = 0 then .ok false
    else if n = 1 then .ok true
    else if isWord n then complain .unknownTruth
    else complain .notTruth

/-- The items of a list. -/
def list {α : Type} (origin : Origin) (check : Value → Checked α) : Value → Checked (List α)
  | .list xs | .tuple xs => all (items check 0 xs)
  | .set xs => all (items check 0 xs)
  | _ => complain (.notArray origin)

/-- The name of a key that cannot be displayed, which holds a long integer. -/
def unshownKey : Value → String
  | .tuple _ => "<unprintable tuple object>"
  | _ => "<unprintable int object>"

/-- The step to the entry of a key. -/
def keyStep : Value → Step
  | .text s => .member s
  | .int n => if isWord n then .item n else .member (name (.int n))
  | .bool b => .item (if b then 1 else 0)
  | k => .member (name k)
where
  name (k : Value) : String := if k.isShort then k.describe else unshownKey k

/-- An entry of an object: its name and its value. -/
def entry {α : Type} (check : Value → Checked α) (e : Value × Value) : Checked (String × α) :=
  let name := within (keyStep e.1) (within (.member "[key]") (text e.1))
  also (name.map Prod.mk) (within (keyStep e.1) (check e.2))

/-- The entries of an object, each name once. -/
def object {α : Type} (origin : Origin) (check : Value → Checked α) :
    Value → Checked (List (String × α))
  | .map es => (all (es.map (entry check))).map ofNamed
  | _ => complain (.notObject origin)

/-- Any value. -/
def free (v : Value) : Checked Value := .ok v

/-- One of some words. -/
def oneOf {α : Type} (words : List String) (read? : String → Option α) (v : Value) : Checked α :=
  match v with
  | .text s =>
    match read? s with
    | some a => .ok a
    | none => complain (.notOneOf words)
  | _ => complain (.notOneOf words)

/-! ## Fields -/

/-- The field of a record, under its name or its other name. -/
def field? (name other : String) (es : Entries) : Option (String × Value) :=
  match Entries.get? es name with
  | some v => some (name, v)
  | none => (Entries.get? es other).map (other, ·)

/-- A field that has to be there. -/
def needed {α : Type} (name other : String) (check : Value → Checked α) (es : Entries) : Checked α :=
  match field? name other es with
  | some (n, v) => within (.member n) (check v)
  | none => within (.member name) (complain .missing)

/-- A field that may be missing. -/
def withDefault {α : Type} (name other : String) (value : α) (check : Value → Checked α) (es : Entries) :
    Checked α :=
  match field? name other es with
  | some (n, v) => within (.member n) (check v)
  | none => .ok value

/-- A field that may be missing and has only one name. -/
def plain {α : Type} (name : String) (value : α) (check : Value → Checked α) (es : Entries) : Checked α :=
  withDefault name name value check es

/-- A value of a document for a field. -/
def given {α : Type} (name : String) (check : Value → Checked α) (v : Value) : Checked α :=
  within (.member name) (check v)

/-- A record of a kind. -/
def record {α : Type} (origin : Origin) (kind : String) (check : Entries → Checked α) (v : Value) :
    Checked α :=
  match v with
  | .map es => check es
  | _ => complain (.notRecord origin kind)

end Checked

end ClientForge
