import ClientForge.Proofs.Text
import ClientForge.Text.Line

/-!
The lines of a text. A piece without a line end, up to a line feed, is one line (`lines_append_newline`), and what
follows a line feed is cut into lines for itself (`lines_append`). There is no line end in a line
(`unbroken_of_mem_linesFrom`), nor in a text on one line (`unbroken_oneLine`).
-/

namespace ClientForge.Text

/-! ## Line ends -/

/-- Is no character of the text a line end? -/
def Unbroken (s : List Char) : Prop := ∀ c ∈ s, endsLine c = false

instance (s : List Char) : Decidable (Unbroken s) :=
  decidable_of_iff (s.all fun c => !endsLine c) (by simp [Unbroken])

theorem unbroken_nil : Unbroken [] := fun _ hc => nomatch hc

theorem unbroken_cons {c : Char} {s : List Char} : Unbroken (c :: s) ↔ endsLine c = false ∧ Unbroken s :=
  List.forall_mem_cons

theorem unbroken_append {s u : List Char} : Unbroken (s ++ u) ↔ Unbroken s ∧ Unbroken u :=
  List.forall_mem_append

theorem isBlank_of_endsLine {c : Char} (h : endsLine c) : isBlank c := by
  unfold endsLine at h
  unfold isBlank
  simp only [Bool.or_eq_true, Bool.and_eq_true, decide_eq_true_eq, beq_iff_eq] at h ⊢
  omega

/-- A text whose only blanks are spaces has no line end. -/
theorem unbroken_of_blanks {s : List Char} (h : ∀ c ∈ s, isBlank c → c = ' ') : Unbroken s := by
  intro c hc
  by_contra hend
  have hends : endsLine c := by simpa using hend
  rw [h c hc (isBlank_of_endsLine hends)] at hends
  exact absurd hends (by decide)

theorem unbroken_oneLine (s : List Char) : Unbroken (oneLine s) :=
  unbroken_of_blanks fun _ hc => eq_space_of_mem_oneLine hc

/-! ## Lines -/

theorem linesFrom_cons_of_not_endsLine {c : Char} (h : endsLine c = false) (current s : List Char) :
    linesFrom current (c :: s) = linesFrom (c :: current) s := by
  have hreturn : ∀ rest, c = '\r' → s = '\n' :: rest → False := by
    rintro rest rfl
    exact absurd h (by decide)
  rw [linesFrom.eq_3 _ _ _ hreturn, if_neg (Bool.eq_false_iff.1 h)]

/-- A character that ends a line, if it is not a carriage return with a line feed after it. -/
theorem linesFrom_cons_of_endsLine {c : Char} (h : endsLine c) (current : List Char) {s : List Char}
    (hpair : ∀ rest, c = '\r' → s = '\n' :: rest → False) :
    linesFrom current (c :: s) = current.reverse :: linesFrom [] s := by
  rw [linesFrom.eq_3 _ _ _ hpair, if_pos h]

theorem linesFrom_append_newline {p : List Char} (h : Unbroken p) (current s : List Char) :
    linesFrom current (p ++ '\n' :: s) = (current.reverse ++ p) :: lines s := by
  induction p generalizing current with
  | nil =>
    rw [List.append_nil]
    rfl
  | cons c p ih =>
    obtain ⟨hc, hp⟩ := unbroken_cons.1 h
    rw [List.cons_append, linesFrom_cons_of_not_endsLine hc, ih hp, List.reverse_cons, List.append_assoc]
    rfl

/-- A piece without a line end, up to a line feed, is a line. -/
theorem lines_append_newline {p : List Char} (h : Unbroken p) (s : List Char) :
    lines (p ++ '\n' :: s) = p :: lines s :=
  linesFrom_append_newline h [] s

theorem linesFrom_append (current p s : List Char) :
    linesFrom current (p ++ '\n' :: s) = linesFrom current (p ++ ['\n']) ++ lines s := by
  fun_induction linesFrom current p with
  | case1 | case2 => rfl
  | case3 current p ih => exact congrArg (current.reverse :: ·) ih
  | case4 current c p hpair hend ih =>
    cases p with
    | nil =>
      by_cases hreturn : c = '\r'
      · rw [hreturn]
        rfl
      · have hc : ∀ rest : List Char, linesFrom current (c :: rest) = current.reverse :: linesFrom [] rest :=
          fun rest => linesFrom_cons_of_endsLine hend current fun _ h _ => hreturn h
        simp only [List.cons_append, List.nil_append, hc]
        rfl
    | cons d p =>
      have hc : ∀ rest, linesFrom current (c :: d :: rest) = current.reverse :: linesFrom [] (d :: rest) := by
        intro rest
        refine linesFrom_cons_of_endsLine hend current fun more hreturn hnext => hpair p hreturn ?_
        rw [(List.cons.inj hnext).1]
      simp only [List.cons_append, hc] at ih ⊢
      rw [ih]
  | case5 current c p hpair hend ih =>
    have hc := linesFrom_cons_of_not_endsLine (Bool.eq_false_iff.2 hend) current
    simp only [List.cons_append, hc]
    exact ih

/-- What follows a line feed is cut into lines for itself. -/
theorem lines_append (p s : List Char) : lines (p ++ '\n' :: s) = lines (p ++ ['\n']) ++ lines s :=
  linesFrom_append [] p s

theorem unbroken_of_mem_linesFrom {current : List Char} (hcurrent : Unbroken current) (s : List Char) :
    ∀ l ∈ linesFrom current s, Unbroken l := by
  have hreverse : ∀ {u : List Char}, Unbroken u → Unbroken u.reverse := fun h c hc => h c (List.mem_reverse.1 hc)
  fun_induction linesFrom current s with
  | case1 => simp
  | case2 current => exact List.forall_mem_singleton.2 (hreverse hcurrent)
  | case3 current s ih => exact List.forall_mem_cons.2 ⟨hreverse hcurrent, ih unbroken_nil⟩
  | case4 current c s _ _ ih => exact List.forall_mem_cons.2 ⟨hreverse hcurrent, ih unbroken_nil⟩
  | case5 current c s _ hend ih => exact ih (unbroken_cons.2 ⟨Bool.eq_false_iff.2 hend, hcurrent⟩)

end ClientForge.Text
