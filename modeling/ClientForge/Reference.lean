import ClientForge.Pointer
import ClientForge.Traced

/-!
References (`resolve_refs`): a map with a text under `$ref` stands for the value that this pointer leads to.
Other entries beside it override entries of that value. A reference inside the value that it leads to
stays as it is.

References are looked for in lists and in the values of maps. Nothing else is looked into: no keys, no sets,
and no groups of values, such as the entries of ordered maps.
-/

namespace ClientForge.Reference

/-- The key of a reference. -/
def refKey : String := "$ref"

/-- The reference that a map is. -/
def ref? (es : Entries) : Option String :=
  match Entries.get? es refKey with
  | some (.text r) => some r
  | _ => none

/-! ## The references in a document -/

mutual

/-- The texts under `$ref` in a value, where references are looked for: in lists and the values of maps, not
in the items of a tuple. -/
def refsIn : Value → List String
  | .list xs => refsInItems xs
  | .map es => (ref? es).toList ++ refsInEntries es
  | _ => []
termination_by structural v => v

def refsInItems : List Value → List String
  | [] => []
  | x :: xs => refsIn x ++ refsInItems xs
termination_by structural xs => xs

def refsInEntries : List (Value × Value) → List String
  | [] => []
  | (_, v) :: es => refsIn v ++ refsInEntries es
termination_by structural es => es

end

/-! ## Values that hold themselves -/

mutual

/-- Does the value hold itself where references are looked for? Looking for them would never end there. -/
def isEndless : Value → Bool
  | .again => true
  | .list xs => anyEndless xs
  | .map es => anyEntryEndless es
  | _ => false
termination_by structural v => v

def anyEndless : List Value → Bool
  | [] => false
  | x :: xs => isEndless x || anyEndless xs
termination_by structural xs => xs

def anyEntryEndless : List (Value × Value) → Bool
  | [] => false
  | (_, v) :: es => isEndless v || anyEntryEndless es
termination_by structural es => es

end

/-! ## Replacing -/

/-- A value with its target's entries below its own. -/
def overlay (target : Value) (siblings : Entries) : Value :=
  match target with
  | .map es => if siblings.isEmpty then target else .map (Entries.update es siblings)
  | _ => target

mutual

/-- The value with every reference in it replaced by what `follow` gives for it. The references that
have been followed on the way here are `stack`. -/
def replaceWith (follow : String → Traced Value) (stack : List String) : Value → Traced Value
  | .list xs => do return .list (← replaceItems follow stack xs)
  | .map es =>
    match ref? es with
    | none => do return .map (← replaceEntries follow stack false es)
    | some r =>
      if stack.contains r then do
        Traced.note .debug .references ("Circular $ref " ++ r ++ " left unresolved")
        return .map es
      else do
        let target ← follow r
        match target with
        | .map _ => return overlay target (← replaceEntries follow stack true es)
        | _ => return target
  | v => return v
termination_by structural v => v

def replaceItems (follow : String → Traced Value) (stack : List String) :
    List Value → Traced (List Value)
  | [] => return []
  | x :: xs => do return (← replaceWith follow stack x) :: (← replaceItems follow stack xs)
termination_by structural xs => xs

/-- The entries with the references in their values replaced; without the reference itself, if
`beside` is set. -/
def replaceEntries (follow : String → Traced Value) (stack : List String) (beside : Bool) :
    List (Value × Value) → Traced (List (Value × Value))
  | [] => return []
  | (k, v) :: es =>
    if beside && k.sameKey (.text refKey) then replaceEntries follow stack beside es
    else do
      let v ← replaceWith follow stack v
      return (k, v) :: (← replaceEntries follow stack beside es)
termination_by structural es => es

end

/-- The value with every reference in it replaced (`_resolve`), down to `chain` references inside each other. -/
def resolveFrom (root : Value) : (chain : Nat) → (stack : List String) → Value → Traced Value
  | 0, stack, v => replaceWith (fun _ => return .null) stack v
  | chain + 1, stack, v =>
    replaceWith (fun r => do
      let target ← Pointer.lookup root r
      resolveFrom root chain (r :: stack) target) stack v

/-- The document with its references replaced (`resolve_refs`). No chain of references inside each other is longer
than the number of different references. -/
def resolve (doc : Value) : Traced Value := resolveFrom doc (refsIn doc).eraseDups.length [] doc

end ClientForge.Reference
