import ClientForge.Client.Target
import ClientForge.Proofs.Lines
import ClientForge.Proofs.OneLine

/-!
The form of comments. Whatever text it is made from, a comment is on one line and holds nothing that ends it: no end of
a block comment, in PHP no closing tag, and in Python neither a double quote nor a backslash that escapes what follows
the comment (`Target.inCommentForm_comment`). Where backslashes are not doubled a comment is a comment of itself
(`Target.InCommentForm.comment_eq`).
-/

namespace ClientForge

namespace Text

/-! ## Runs -/

/-- Is each run of a character, as long as it goes, of even length? -/
def EvenRuns (c : Char) (s : List Char) : Prop :=
  ∀ before n after, s = before ++ List.replicate n c ++ after →
    before.getLast? ≠ some c → after.head? ≠ some c → n % 2 = 0

namespace EvenRuns

variable {c : Char} {s : List Char}

theorem nil : EvenRuns c [] := by
  intro before n after hs _ _
  have hlength := congrArg List.length hs
  simp only [List.length_nil, List.length_append, List.length_replicate] at hlength
  omega

theorem cons {d : Char} (hd : d ≠ c) (h : EvenRuns c s) : EvenRuns c (d :: s) := by
  intro before n after hs hbefore hafter
  cases before with
  | nil =>
    cases n with
    | zero => rfl
    | succ n => exact absurd (List.cons.inj hs).1 hd
  | cons b before =>
    refine h before n after (List.cons.inj hs).2 (fun hlast => hbefore ?_) hafter
    rw [List.getLast?_cons, hlast]
    rfl

theorem double (h : EvenRuns c s) : EvenRuns c (c :: c :: s) := by
  intro before n after hs hbefore hafter
  match before, n with
  | [], 0 => rfl
  | [], 1 =>
    have hnext : after = c :: s := (List.cons.inj hs).2.symm
    exact absurd (by rw [hnext]; rfl) hafter
  | [], n + 2 =>
    have hrest : s = [] ++ List.replicate n c ++ after := (List.cons.inj (List.cons.inj hs).2).2
    have hn := h [] n after hrest (by simp) hafter
    omega
  | [b], n =>
    have hb : b = c := (List.cons.inj hs).1.symm
    exact absurd (by rw [hb]; rfl) hbefore
  | _ :: d :: before, n =>
    refine h before n after (List.cons.inj (List.cons.inj hs).2).2 (fun hlast => hbefore ?_) hafter
    rw [List.getLast?_cons_cons, List.getLast?_cons, hlast]
    rfl

/-- Runs are even if each character is written as two of them, or else as another one. -/
theorem flatMap {f : Char → List Char} (hf : ∀ d, f d = [c, c] ∨ ∃ e, e ≠ c ∧ f d = [e]) (s : List Char) :
    EvenRuns c (s.flatMap f) := by
  induction s with
  | nil => exact nil
  | cons d s ih =>
    rw [List.flatMap_cons]
    rcases hf d with hd | ⟨e, he, hd⟩
    · rw [hd]
      exact ih.double
    · rw [hd]
      exact ih.cons he

end EvenRuns

end Text

namespace Target

/-! ## Comments -/

/-- Is a text in the form of a comment, so that nothing in it ends the comment that it stands in? -/
structure InCommentForm (t : Target) (s : List Char) : Prop where
  isOneLine : Text.IsOneLine s
  unclosed : ¬['*', '/'] <:+: s
  untagged : t = .php → ¬['?', '>'] <:+: s
  unquoted : t = .python → '"' ∉ s
  unescaping : t = .python → Text.EvenRuns '\\' s

theorem isOneLine_plainComment (s : List Char) : Text.IsOneLine (plainComment s) :=
  (Text.isOneLine_oneLine s).replace (by decide) (by decide)

theorem unclosed_plainComment (s : List Char) : ¬['*', '/'] <:+: plainComment s :=
  Text.not_infix_replace (by decide) (by decide) (by decide) _

/-- What a comment in Python is, character by character: backslashes are doubled, and double quotes become single. -/
theorem commentChars_python (s : List Char) : python.commentChars s = (plainComment s).flatMap fun c =>
    if c = '\\' then ['\\', '\\'] else if c = '"' then ['\''] else [c] := by
  have hchar : ∀ c : Char, (if c = '\\' then ['\\', '\\'] else [c]).flatMap
      (fun c => if c = '"' then ['\''] else [c]) =
        if c = '\\' then ['\\', '\\'] else if c = '"' then ['\''] else [c] := by
    intro c
    by_cases hslash : c = '\\'
    · simp [hslash]
    · simp [hslash]
  unfold commentChars
  rw [Text.replace_singleton, Text.replace_singleton, List.flatMap_assoc]
  simp only [hchar]

theorem inCommentForm_commentChars (t : Target) (s : List Char) : t.InCommentForm (t.commentChars s) := by
  have hone := isOneLine_plainComment s
  have hunclosed := unclosed_plainComment s
  cases t with
  | node | go | java => exact ⟨hone, hunclosed, nofun, nofun, nofun⟩
  | php =>
    have htag : ¬['?', '>'] <:+: php.commentChars s :=
      Text.not_infix_replace (by decide) (by decide) (by decide) _
    have hclosed : ['*', '/'] <:+: php.commentChars s → ['*', '/'] <:+: plainComment s :=
      Text.infix_of_infix_replace (by decide) (by decide) (by decide)
    exact ⟨hone.replace (by decide) (by decide), hunclosed ∘ hclosed, fun _ => htag, nofun, nofun⟩
  | python =>
    have hclosed : ['*', '/'] <:+: python.commentChars s → ['*', '/'] <:+: plainComment s := fun h =>
      Text.infix_of_infix_replace (by decide) (by decide) (by decide)
        (Text.infix_of_infix_replace (by decide) (by decide) (by decide) h)
    refine ⟨(hone.replace (by decide) (by decide)).replace (by decide) (by decide), hunclosed ∘ hclosed, nofun,
      fun _ hquote => ?_, fun _ => ?_⟩
    · rw [commentChars_python] at hquote
      obtain ⟨c, -, hc⟩ := List.mem_flatMap.1 hquote
      split at hc
      · simp at hc
      split at hc
      · simp at hc
      · rename_i hother
        exact hother (List.mem_singleton.1 hc).symm
    · rw [commentChars_python]
      refine Text.EvenRuns.flatMap (fun c => ?_) _
      by_cases hslash : c = '\\'
      · exact Or.inl (if_pos hslash)
      · refine Or.inr ?_
        by_cases hquote : c = '"'
        · exact ⟨'\'', by decide, by simp [hquote]⟩
        · exact ⟨c, hslash, by simp [hslash, hquote]⟩

theorem inCommentForm_comment (t : Target) (s : String) : t.InCommentForm (t.comment s).toList := by
  rw [comment, String.toList_ofList]
  exact t.inCommentForm_commentChars s.toList

/-- Nothing in the form of a comment ends its line. -/
theorem InCommentForm.unbroken {t : Target} {s : List Char} (h : t.InCommentForm s) : Text.Unbroken s :=
  Text.unbroken_of_blanks h.isOneLine.blanks

/-- What is in the form of a comment is the comment of itself, unless backslashes are doubled. -/
theorem InCommentForm.comment_eq {t : Target} {s : String} (h : t.InCommentForm s.toList) (ht : t ≠ .python) :
    t.comment s = s := by
  have hplain : plainComment s.toList = s.toList := by
    unfold plainComment
    rw [h.isOneLine.oneLine_eq, Text.replace_eq_self h.unclosed]
  have hchars : t.commentChars s.toList = s.toList := by
    cases t with
    | node | go | java => exact hplain
    | python => exact absurd rfl ht
    | php =>
      show Text.replace _ _ (plainComment s.toList) = _
      rw [hplain, Text.replace_eq_self (h.untagged rfl)]
  rw [comment, hchars, String.ofList_toList]

/-- Each comment has single spaces between other characters for blanks, thus nothing that ends its line, holds nothing
else that ends it, and, but for Python, is the comment of itself. -/
theorem form_comment (t : Target) (s : String) :
    t.InCommentForm (t.comment s).toList ∧ Text.Unbroken (t.comment s).toList ∧
      (t ≠ .python → t.comment (t.comment s) = t.comment s) :=
  have hform := t.inCommentForm_comment s
  ⟨hform, hform.unbroken, hform.comment_eq⟩

end Target

end ClientForge
