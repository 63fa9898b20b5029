import ClientForge.Failure
import ClientForge.Text.Search
import ClientForge.Text.Word
import ClientForge.Value.Basic

/-!
Pointers (`lookup_pointer`): the way from the root of a document to a value in it, written `#/key/0/key`. In a
key `~0` stands for a tilde and `~1` for a slash.
-/

namespace ClientForge.Pointer

/-- The key that a token of a pointer stands for. -/
def unescape (token : List Char) : List Char :=
  Text.replace ['~', '0'] ['~'] (Text.replace ['~', '1'] ['/'] token)

/-- The token that stands for a key. -/
def escape (key : List Char) : List Char :=
  Text.replace ['/'] ['~', '1'] (Text.replace ['~'] ['~', '0'] key)

/-- The greatest number of digits of an index. -/
def indexLimit : Nat := 4300

/-- The index that a token of digits is. Digits without a place value make no number. -/
def index (token : List Char) : Except Failure Nat :=
  match Text.number? token with
  | some n => if indexLimit < token.length then .error (.broken .badValue) else .ok n
  | none => .error (.broken .badValue)

/-- One step from a value: by a key from a map, by an index from a list. Nothing, if it leads
nowhere. -/
def step (v : Value) (token : List Char) : Except Failure (Option Value) :=
  match v with
  | .map es => .ok (Entries.get? es (.ofList token))
  | .list xs =>
    if !token.isEmpty && token.all Text.isDigit then (index token).map fun i => xs[i]?
    else .ok none
  | _ => .ok none

/-- The value that some tokens lead to. -/
def follow (ref : String) (v : Value) : List (List Char) → Except Failure Value
  | [] => .ok v
  | token :: more => do
    let key := unescape token
    match ← step v key with
    | some next => follow ref next more
    | none =>
      .error (.refused ("Unresolvable $ref '" ++ ref ++ "': '" ++ .ofList key ++ "' not found"))

/-- The value that a reference leads to from the root (`lookup_pointer`). -/
def lookup (root : Value) (ref : String) : Except Failure Value :=
  match ref.toList with
  | '#' :: [] | '#' :: '/' :: [] => .ok root
  | '#' :: '/' :: path => follow ref root (Text.splitAt '/' path)
  | '#' :: _ =>
    .error (.refused ("Unresolvable $ref '" ++ ref ++ "': pointer must start with '#/'"))
  | _ =>
    .error (.refused ("External $ref '" ++ ref ++
      "' is not supported; inline the referenced document"))

end ClientForge.Pointer
