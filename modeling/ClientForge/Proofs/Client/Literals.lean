import ClientForge.Client.Target
import ClientForge.Proofs.Json.Literal

/-!
Literals in generated files. Reading a literal gives the text that it was written for, and stops right after its
closing quote (`Target.readLiteral?_append`): no quote, backslash or control character of a text gets out of its
literal. So a literal shows where it ends (`Target.literal_append`).
-/

namespace ClientForge

/-- Read a literal between double quotes at the start of a text. -/
def Json.readLiteral? : List Char → Option (String × List Char)
  | '"' :: s => (readText false s).toOption
  | _ => none

namespace Target

/-- Read a literal between single quotes after its opening quote. A backslash is an escape before a quote and before
a backslash only, and stands for itself before all else. -/
def readSingleQuoted? : List Char → Option (List Char × List Char)
  | [] => none
  | '\'' :: s => some ([], s)
  | '\\' :: '\\' :: s => (readSingleQuoted? s).map fun (u, rest) => ('\\' :: u, rest)
  | '\\' :: '\'' :: s => (readSingleQuoted? s).map fun (u, rest) => ('\'' :: u, rest)
  | c :: s => (readSingleQuoted? s).map fun (u, rest) => (c :: u, rest)

/-- Read a literal at the start of a text, as the language does. -/
def readLiteral? (t : Target) (s : List Char) : Option (String × List Char) :=
  match t, s with
  | php, '\'' :: s => (readSingleQuoted? s).map fun (u, rest) => (.ofList u, rest)
  | php, _ => none
  | _, s => Json.readLiteral? s

/-! ## Single quotes -/

theorem readSingleQuoted?_cons {c : Char} (hslash : c ≠ '\\') (hquote : c ≠ '\'') (s : List Char) :
    readSingleQuoted? (c :: s) = (readSingleQuoted? s).map fun (u, rest) => (c :: u, rest) := by
  rw [readSingleQuoted?.eq_def]
  split <;> simp_all

theorem readSingleQuoted?_append (s rest : List Char) :
    readSingleQuoted? (s.flatMap singleQuotedChar ++ '\'' :: rest) = some (s, rest) := by
  induction s with
  | nil => rfl
  | cons c s ih =>
    rw [List.flatMap_cons, List.append_assoc]
    by_cases hslash : c = '\\'
    · subst hslash
      simp [singleQuotedChar, readSingleQuoted?, ih]
    by_cases hquote : c = '\''
    · subst hquote
      simp [singleQuotedChar, readSingleQuoted?, ih]
    · have hc : singleQuotedChar c = [c] := by simp [singleQuotedChar, hslash, hquote]
      rw [hc, List.singleton_append, readSingleQuoted?_cons hslash hquote, ih]
      rfl

end Target

/-! ## Literals -/

theorem Json.readLiteral?_append (s : String) (rest : List Char) :
    readLiteral? ((literal s).toList ++ rest) = some (s, rest) := by
  have hchars : (literal s).toList ++ rest = '"' :: (s.toList.flatMap encodeChar ++ '"' :: rest) := by
    simp [literal, encode]
  rw [hchars, readLiteral?, readText_encode]
  rfl

/-- There is no control character in a literal between double quotes. -/
theorem Json.toNat_le_of_mem_literal {s : String} {c : Char} (h : c ∈ (literal s).toList) : 0x20 ≤ c.toNat := by
  rw [literal, String.toList_ofList] at h
  exact toNat_le_of_mem_encode h

namespace Target

theorem readLiteral?_append (t : Target) (s : String) (rest : List Char) :
    t.readLiteral? ((t.literal s).toList ++ rest) = some (s, rest) := by
  cases t with
  | node | python | go | java => exact Json.readLiteral?_append s rest
  | php =>
    have hchars : (php.literal s).toList ++ rest = '\'' :: (s.toList.flatMap singleQuotedChar ++ '\'' :: rest) := by
      simp [literal, singleQuoted]
    rw [hchars, readLiteral?, readSingleQuoted?_append]
    simp

/-- A literal shows where it ends. -/
theorem literal_append (t : Target) {s s' : String} {x x' : List Char}
    (h : (t.literal s).toList ++ x = (t.literal s').toList ++ x') : s = s' ∧ x = x' := by
  have hread := congrArg t.readLiteral? h
  rw [readLiteral?_append, readLiteral?_append] at hread
  simpa using hread

theorem literal_of_ne_php {t : Target} (h : t ≠ .php) (s : String) : t.literal s = Json.literal s := by
  cases t with
  | node | python | go | java => rfl
  | php => exact absurd rfl h

/-- Whatever follows the literal of a text, reading it gives the text and leaves just what follows. Between double
quotes there is no control character. -/
theorem readLiteral?_literal (s : String) (rest : List Char) :
    (∀ t : Target, t.readLiteral? ((t.literal s).toList ++ rest) = some (s, rest)) ∧
      Json.readLiteral? ((Json.literal s).toList ++ rest) = some (s, rest) ∧
      (∀ t : Target, t ≠ .php → t.literal s = Json.literal s) ∧ ∀ c ∈ (Json.literal s).toList, 0x20 ≤ c.toNat :=
  ⟨fun t => t.readLiteral?_append s rest, Json.readLiteral?_append s rest, fun _ ht => literal_of_ne_php ht s,
    fun _ hc => Json.toNat_le_of_mem_literal hc⟩

end Target

end ClientForge
