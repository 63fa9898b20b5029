import ClientForge.Proofs.Client.Lines
import Mathlib.Data.List.Infix

/-!
What stays in a line comment. Such a comment ends with its line. In PHP a closing tag ends it too, and in Java a
Unicode escape for a line end, since escapes are translated before comments are recognised. A text in the form of a
comment stays in one in all languages but Java, and there unless it has such an escape
(`Target.staysInComment_comment`).
-/

namespace ClientForge

namespace Java

/-! ## Unicode escapes -/

/-- The number of four hexadecimal digits at the start of a text. -/
def startUnit? (s : List Char) : Option Nat :=
  if 4 ≤ s.length then Text.inBase? 16 (s.take 4) else none

/-- The code unit of a Unicode escape, from what follows the backslash: letters u and four hexadecimal digits. -/
def escapedUnit? : List Char → Option Nat
  | 'u' :: s => startUnit? (s.dropWhile (· == 'u'))
  | _ => none

theorem escapedUnit?_eq_none {s : List Char} (h : s.head? ≠ some 'u') : escapedUnit? s = none := by
  cases s with
  | nil => rfl
  | cons c s => exact escapedUnit?.eq_2 _ fun _ heq => h (congrArg some (List.cons.inj heq).1)

/-- The code units of the Unicode escapes in a text. A backslash after an odd number of others starts none. -/
def escapedUnits (odd : Bool) : List Char → List Nat
  | [] => []
  | c :: s =>
    if c == '\\' && !odd then (escapedUnit? s).toList ++ escapedUnits true s
    else escapedUnits false s

example : escapedUnits false "\\u000a \\\\u000a \\uu000D \\u00".toList = [0xA, 0xD] := by decide

/-- Is no Unicode escape in the text one for a line end? -/
def NoEscapedEnd (s : List Char) : Prop := ∀ n ∈ escapedUnits false s, n ≠ 0xA ∧ n ≠ 0xD

instance (s : List Char) : Decidable (NoEscapedEnd s) :=
  inferInstanceAs (Decidable (∀ n ∈ escapedUnits false s, n ≠ 0xA ∧ n ≠ 0xD))

/-- Is a character no part of any escape? -/
structure IsInert (c : Char) : Prop where
  ne_backslash : c ≠ '\\'
  ne_u : c ≠ 'u'
  no_digit : Text.hexValue? c = none

theorem isInert_iff {c : Char} : IsInert c ↔ c ≠ '\\' ∧ c ≠ 'u' ∧ Text.hexValue? c = none :=
  ⟨fun h => ⟨h.ne_backslash, h.ne_u, h.no_digit⟩, fun h => ⟨h.1, h.2.1, h.2.2⟩⟩

instance (c : Char) : Decidable (IsInert c) := decidable_of_iff _ isInert_iff.symm

variable {c : Char} (hc : IsInert c)

include hc

theorem startUnit?_append (s u : List Char) : startUnit? (s ++ c :: u) = startUnit? s := by
  unfold startUnit?
  by_cases hlen : 4 ≤ s.length
  · rw [List.take_append_of_le_length hlen, if_pos hlen, if_pos (by simp; omega)]
  · have hmem : c ∈ (s ++ c :: u).take 4 := by
      rw [List.mem_take_iff_getElem]
      exact ⟨s.length, by simp; omega, by simp⟩
    rw [Text.inBase?_eq_none ⟨c, hmem, hc.no_digit⟩, if_neg hlen, ite_self]

theorem escapedUnit?_append (s u : List Char) : escapedUnit? (s ++ c :: u) = escapedUnit? s := by
  cases s with
  | nil => exact escapedUnit?_eq_none (by simpa using hc.ne_u)
  | cons d s =>
    by_cases hd : d = 'u'
    · have hdrop : (s ++ c :: u).dropWhile (· == 'u') = s.dropWhile (· == 'u') ++ c :: u := by
        rw [List.dropWhile_append]
        split
        · rename_i hnil
          rw [List.isEmpty_iff.1 hnil, List.dropWhile_cons_of_neg (by simpa using hc.ne_u)]
          rfl
        · rfl
      subst hd
      exact (congrArg startUnit? hdrop).trans (startUnit?_append hc _ u)
    · rw [List.cons_append, escapedUnit?_eq_none (by simpa using hd), escapedUnit?_eq_none (by simpa using hd)]

theorem escapedUnits_append (odd : Bool) (s u : List Char) :
    escapedUnits odd (s ++ c :: u) = escapedUnits odd s ++ escapedUnits false u := by
  induction s generalizing odd with
  | nil => simp [escapedUnits, hc.ne_backslash]
  | cons d s ih =>
    rw [List.cons_append, escapedUnits, escapedUnits]
    split
    · rw [escapedUnit?_append hc, ih, List.append_assoc]
    · exact ih false

theorem noEscapedEnd_append_cons_iff {s u : List Char} :
    NoEscapedEnd (s ++ c :: u) ↔ NoEscapedEnd s ∧ NoEscapedEnd u := by
  unfold NoEscapedEnd
  rw [escapedUnits_append hc, List.forall_mem_append]

omit hc

theorem noEscapedEnd_cons_iff {c : Char} (hc : c ≠ '\\') {s : List Char} :
    NoEscapedEnd (c :: s) ↔ NoEscapedEnd s := by
  unfold NoEscapedEnd
  rw [escapedUnits, beq_eq_false_iff_ne.2 hc]
  rfl

end Java

namespace Target

/-! ## Comments -/

/-- Does a line comment that starts before a text go on to its end? -/
structure StaysInComment (t : Target) (s : List Char) : Prop where
  unbroken : Text.Unbroken s
  unclosed : t = .php → ¬['?', '>'] <:+: s
  unescaped : t = .java → Java.NoEscapedEnd s

theorem staysInComment_iff {t : Target} {s : List Char} : t.StaysInComment s ↔
    Text.Unbroken s ∧ (t = .php → ¬['?', '>'] <:+: s) ∧ (t = .java → Java.NoEscapedEnd s) :=
  ⟨fun h => ⟨h.unbroken, h.unclosed, h.unescaped⟩, fun h => ⟨h.1, h.2.1, h.2.2⟩⟩

instance (t : Target) (s : List Char) : Decidable (t.StaysInComment s) := decidable_of_iff _ staysInComment_iff.symm

/-- A character in front makes no difference, if it ends no line and starts neither a tag nor an escape. -/
theorem staysInComment_cons_iff {t : Target} {c : Char} (hend : Text.endsLine c = false) (htag : c ≠ '?')
    (hescape : c ≠ '\\') {s : List Char} : t.StaysInComment (c :: s) ↔ t.StaysInComment s := by
  have hclosed : ['?', '>'] <:+: c :: s ↔ ['?', '>'] <:+: s := by
    rw [List.infix_cons_iff]
    exact or_iff_right fun h => htag (List.cons_prefix_cons.1 h).1.symm
  rw [staysInComment_iff, staysInComment_iff, Text.unbroken_cons, and_iff_right hend, hclosed,
    Java.noEscapedEnd_cons_iff hescape]

/-- Text on both sides of a colon stays in a comment if that on each side does. -/
theorem staysInComment_append_cons_iff {t : Target} {s u : List Char} :
    t.StaysInComment (s ++ ':' :: u) ↔ t.StaysInComment s ∧ t.StaysInComment u := by
  have hunbroken : Text.Unbroken (s ++ ':' :: u) ↔ Text.Unbroken s ∧ Text.Unbroken u := by
    rw [Text.unbroken_append, Text.unbroken_cons]
    exact and_congr_right fun _ => and_iff_right (by decide)
  have hclosed := Text.infix_append_cons_iff (p := ['?', '>']) (c := ':') (by decide) s u
  have hescaped := Java.noEscapedEnd_append_cons_iff (c := ':') (by decide) (s := s) (u := u)
  simp only [staysInComment_iff, hunbroken, hclosed, hescaped, not_or]
  grind

/-- A text in the form of a comment stays in one, but in Java only if no escape in it is one for a line end. -/
theorem staysInComment_comment (t : Target) (s : String) :
    t.StaysInComment (t.comment s).toList ↔ (t = .java → Java.NoEscapedEnd (t.comment s).toList) :=
  ⟨StaysInComment.unescaped, fun h => ⟨t.unbroken_comment s, (t.inCommentForm_comment s).untagged, h⟩⟩

end Target

end ClientForge
