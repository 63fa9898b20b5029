import ClientForge.Client.Artifact
import ClientForge.Proofs.Client.CommentForm
import ClientForge.Proofs.Client.Literals

/-!
The lines of generated files. Comments stay on their line whatever text they are made from
(`Target.oneLine_comment`), and so do literals but for those in PHP (`Target.oneLine_literal`). A file is read
line by line, each for itself (`lines_lineChars`).
-/

namespace ClientForge

/-! ## Characters of lines -/

/-- The characters of lines, each with its end. -/
def lineChars (lines : List String) : List Char := lines.flatMap fun l => l.toList ++ ['\n']

theorem lineChars_append (ls ks : List String) : lineChars (ls ++ ks) = lineChars ls ++ lineChars ks :=
  List.flatMap_append

theorem lineChars_flatMap {α : Type} (f : α → List String) (xs : List α) :
    lineChars (xs.flatMap f) = xs.flatMap fun x => lineChars (f x) := List.flatMap_assoc

theorem Artifact.toList_text (a : Artifact) : a.text.toList = lineChars a.lines := by
  unfold text lineChars
  rw [String.toList_join, List.flatMap_map]
  simp only [String.toList_append]
  rfl

/-- The lines that a line of a file is read as: more than one, if there are line ends in it. -/
def writtenLines (l : String) : List (List Char) := Text.lines (l.toList ++ ['\n'])

theorem writtenLines_eq_singleton_iff {l : String} : writtenLines l = [l.toList] ↔ Text.Unbroken l.toList := by
  constructor
  · intro h
    have hmem : l.toList ∈ writtenLines l := by
      rw [h]
      exact List.mem_singleton_self _
    exact Text.unbroken_of_mem_linesFrom Text.unbroken_nil _ _ hmem
  · exact fun h => Text.lines_append_newline h []

theorem flatMap_writtenLines {ls : List String} (h : ∀ l ∈ ls, Text.Unbroken l.toList) :
    ls.flatMap writtenLines = ls.map String.toList := by
  induction ls with
  | nil => rfl
  | cons l ls ih =>
    obtain ⟨hl, hls⟩ := List.forall_mem_cons.1 h
    rw [List.flatMap_cons, writtenLines_eq_singleton_iff.2 hl, ih hls]
    rfl

/-- The lines of a file are read one after another. -/
theorem lines_lineChars (ls : List String) : Text.lines (lineChars ls) = ls.flatMap writtenLines := by
  induction ls with
  | nil => rfl
  | cons l ls ih =>
    have hchars : lineChars (l :: ls) = l.toList ++ '\n' :: lineChars ls := by simp [lineChars]
    rw [hchars, Text.lines_append, ih]
    rfl

theorem toList_commas_cons (s : String) (ss : List String) :
    (commas (s :: ss)).toList = s.toList ++ if ss = [] then [] else ", ".toList ++ (commas ss).toList := by
  unfold commas
  split
  · rename_i h
    rw [h, String.intercalate_singleton, List.append_nil]
  · rename_i h
    rw [String.intercalate_cons_of_ne_nil h, String.toList_append, String.toList_append, List.append_assoc]

theorem not_mem_commas {c : Char} (hc : c ∉ ", ".toList) {ss : List String} (h : ∀ s ∈ ss, c ∉ s.toList) :
    c ∉ (commas ss).toList := by
  induction ss with
  | nil => simp [commas]
  | cons s ss ih =>
    obtain ⟨hs, hss⟩ := List.forall_mem_cons.1 h
    rw [toList_commas_cons, List.mem_append, not_or]
    refine ⟨hs, ?_⟩
    split
    · simp
    · rw [List.mem_append, not_or]
      exact ⟨hc, ih hss⟩

/-! ## Texts on one line -/

/-- Is no line feed in the text? -/
def OneLine (s : String) : Prop := '\n' ∉ s.toList

instance (s : String) : Decidable (OneLine s) := inferInstanceAs (Decidable ('\n' ∉ s.toList))

theorem oneLine_ofList {s : List Char} (h : '\n' ∉ s) : OneLine (.ofList s) := by
  unfold OneLine
  rwa [String.toList_ofList]

@[simp] theorem oneLine_append {s u : String} : OneLine (s ++ u) ↔ OneLine s ∧ OneLine u := by
  unfold OneLine
  rw [String.toList_append, List.mem_append, not_or]

@[simp] theorem oneLine_inBraces {s : String} : OneLine (inBraces s) ↔ OneLine s := by
  unfold inBraces
  rw [oneLine_append, oneLine_append]
  exact ⟨fun h => h.1.2, fun h => ⟨⟨by decide, h⟩, by decide⟩⟩

theorem oneLine_commas {ss : List String} (h : ∀ s ∈ ss, OneLine s) : OneLine (commas ss) :=
  not_mem_commas (by decide) h

namespace Target

/-- There is no line end in a comment. -/
theorem unbroken_comment (t : Target) (s : String) : Text.Unbroken (t.comment s).toList :=
  (t.inCommentForm_comment s).unbroken

@[simp] theorem oneLine_comment (t : Target) (s : String) : OneLine (t.comment s) := fun h =>
  absurd ((t.inCommentForm_comment s).isOneLine.blanks _ h (by decide)) (by decide)

@[simp] theorem oneLine_literal {t : Target} (h : t ≠ .php) (s : String) : OneLine (t.literal s) := by
  rw [literal_of_ne_php h]
  exact fun hmem => absurd (Json.toNat_le_of_mem_literal hmem) (by decide)

end Target

end ClientForge
