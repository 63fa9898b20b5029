import ClientForge.Proofs.Text

/-!
Texts on one line. A text is on one line if its only blanks are single spaces between other characters. Putting a text
on one line makes it so (`isOneLine_oneLine`) and changes nothing that is so already (`IsOneLine.oneLine_eq`). It stays
so when pieces are replaced by others that are on one line (`IsOneLine.replace`).
-/

namespace ClientForge.Text

/-- Are the only blanks of a text single spaces between other characters? -/
structure IsOneLine (s : List Char) : Prop where
  blanks : ∀ c ∈ s, isBlank c → c = ' '
  single : ¬[' ', ' '] <:+: s
  head : s.head? ≠ some ' '
  last : s.getLast? ≠ some ' '

theorem isOneLine_iff {s : List Char} : IsOneLine s ↔
    (∀ c ∈ s, isBlank c → c = ' ') ∧ ¬[' ', ' '] <:+: s ∧ s.head? ≠ some ' ' ∧ s.getLast? ≠ some ' ' :=
  ⟨fun h => ⟨h.blanks, h.single, h.head, h.last⟩, fun h => ⟨h.1, h.2.1, h.2.2.1, h.2.2.2⟩⟩

instance (s : List Char) : Decidable (IsOneLine s) :=
  -- Only the characters of the text are tried: there is an instance that tries all characters there are.
  letI := List.decidableBAll (fun c => isBlank c → c = ' ') s
  decidable_of_iff _ isOneLine_iff.symm

/-! ## Trimming -/

theorem head?_dropWhile_ne {p : Char → Bool} {c : Char} (hc : p c) (s : List Char) :
    (s.dropWhile p).head? ≠ some c := by
  intro h
  have hhead := List.head?_dropWhile_not p s
  rw [h] at hhead
  simp [hc] at hhead

theorem head?_stripBy_ne {p : Char → Bool} {c : Char} (hc : p c) (s : List Char) : (stripBy p s).head? ≠ some c := by
  intro h
  obtain ⟨rest, hrest⟩ := prefix_stripBy p s
  apply head?_dropWhile_ne hc s
  rw [← hrest, List.head?_append, h]
  rfl

theorem getLast?_stripRightBy_ne {p : Char → Bool} {c : Char} (hc : p c) (s : List Char) :
    (stripRightBy p s).getLast? ≠ some c := by
  unfold stripRightBy
  rw [List.getLast?_reverse]
  exact head?_dropWhile_ne hc _

theorem getLast?_stripBy_ne {p : Char → Bool} {c : Char} (hc : p c) (s : List Char) :
    (stripBy p s).getLast? ≠ some c :=
  getLast?_stripRightBy_ne hc (s.dropWhile p)

theorem dropWhile_eq_self {p : Char → Bool} {s : List Char} (h : ∀ c, s.head? = some c → p c = false) :
    s.dropWhile p = s := by
  cases s with
  | nil => rfl
  | cons c s => simp [h c rfl]

theorem stripRightBy_eq_self {p : Char → Bool} {s : List Char} (hlast : ∀ c, s.getLast? = some c → p c = false) :
    stripRightBy p s = s := by
  unfold stripRightBy
  rw [dropWhile_eq_self (by simpa using hlast), List.reverse_reverse]

theorem stripBy_eq_self {p : Char → Bool} {s : List Char} (hhead : ∀ c, s.head? = some c → p c = false)
    (hlast : ∀ c, s.getLast? = some c → p c = false) : stripBy p s = s := by
  show stripRightBy p (s.dropWhile p) = s
  rw [dropWhile_eq_self hhead, stripRightBy_eq_self hlast]

/-! ## Squeezing -/

/-- No two spaces stand together in a squeezed text, and none at the start after a run of blanks. -/
theorem single_squeeze (inRun : Bool) (s : List Char) :
    ¬[' ', ' '] <:+: squeeze inRun s ∧ (inRun → (squeeze inRun s).head? ≠ some ' ') := by
  fun_induction squeeze inRun s with
  | case1 => simp
  | case2 c s hblank ih => exact ih
  | case3 inRun c s hblank hrun ih =>
    refine ⟨?_, fun h => absurd h hrun⟩
    rw [List.infix_cons_iff, pair_prefix_cons_iff]
    simpa [ih.1] using ih.2 rfl
  | case4 inRun c s hblank ih =>
    have hc : c ≠ ' ' := by
      rintro rfl
      exact hblank (by decide)
    rw [List.infix_cons_iff, pair_prefix_cons_iff]
    simp [ih.1, hc, Ne.symm hc]

/-- Single spaces stay as they are, but for one at the start after a run of blanks. -/
theorem squeeze_eq_self {s : List Char} (hblanks : ∀ c ∈ s, isBlank c → c = ' ') (hsingle : ¬[' ', ' '] <:+: s)
    {inRun : Bool} (hstart : inRun = false ∨ s.head? ≠ some ' ') : squeeze inRun s = s := by
  induction s generalizing inRun with
  | nil => rfl
  | cons c s ih =>
    obtain ⟨hc, hs⟩ := List.forall_mem_cons.1 hblanks
    rw [List.infix_cons_iff, pair_prefix_cons_iff, not_or] at hsingle
    obtain ⟨hpair, hsingle⟩ := hsingle
    unfold squeeze
    by_cases hblank : isBlank c
    · obtain rfl := hc hblank
      have hrun : inRun = false := hstart.resolve_right fun h => h rfl
      have hnext : s.head? ≠ some ' ' := fun h => hpair ⟨rfl, h⟩
      rw [if_pos hblank, hrun, ih hs hsingle (Or.inr hnext)]
      rfl
    · rw [if_neg hblank, ih hs hsingle (Or.inl rfl)]

/-! ## One line -/

theorem isOneLine_oneLine (s : List Char) : IsOneLine (oneLine s) where
  blanks _ hc := eq_space_of_mem_oneLine hc
  single h := (single_squeeze false s).1 (h.trans (infix_stripBy _ _))
  head := head?_stripBy_ne (by decide) _
  last := getLast?_stripBy_ne (by decide) _

theorem IsOneLine.oneLine_eq {s : List Char} (h : IsOneLine s) : oneLine s = s := by
  have hink : ∀ c ∈ s, c ≠ ' ' → isBlank c = false := by
    intro c hc hspace
    by_contra hblank
    exact hspace (h.blanks c hc (by simpa using hblank))
  unfold oneLine
  rw [squeeze_eq_self h.blanks h.single (Or.inl rfl)]
  refine stripBy_eq_self (fun c hc => ?_) fun c hc => ?_
  · apply hink c (List.mem_of_mem_head? hc)
    rintro rfl
    exact h.head hc
  · apply hink c (List.mem_of_getLast? hc)
    rintro rfl
    exact h.last hc

/-! ## Replacing -/

/-- A single character is replaced wherever it is. -/
theorem replace_singleton (a : Char) (new s : List Char) :
    replace [a] new s = s.flatMap fun c => if c = a then new else [c] := by
  unfold replace
  induction s with
  | nil => rfl
  | cons c s ih =>
    have hstart : [a].isPrefixOf (c :: s) = true ↔ c = a := by
      rw [List.isPrefixOf_iff_prefix, List.cons_prefix_cons]
      exact ⟨fun h => h.1.symm, fun h => ⟨h.symm, List.nil_prefix⟩⟩
    unfold replaceFrom
    rw [if_neg (Nat.lt_irrefl 0), List.flatMap_cons]
    by_cases hc : c = a
    · rw [if_pos (hstart.2 hc), if_pos hc, ← ih]
      rfl
    · rw [if_neg (hc ∘ hstart.1), if_neg hc, ih]
      rfl

/-- Nothing changes where there is nothing to replace. -/
theorem replace_eq_self {old new s : List Char} (h : ¬old <:+: s) : replace old new s = s := by
  unfold replace
  induction s with
  | nil => rfl
  | cons c s ih =>
    rw [List.infix_cons_iff, not_or] at h
    have hstart : ¬old.isPrefixOf (c :: s) := by
      rw [List.isPrefixOf_iff_prefix]
      exact h.1
    unfold replaceFrom
    rw [if_neg (Nat.lt_irrefl 0), if_neg hstart, ih h.2]

/-- A pattern that the last character of a piece is not in does not reach over its end. -/
theorem infix_of_infix_append {p new s : List Char} (hnew : new ≠ []) (hlast : new.getLast hnew ∉ p)
    (h : p <:+: new ++ s) : p <:+: new ∨ p <:+: s := by
  rw [← List.dropLast_concat_getLast hnew, List.append_assoc, List.singleton_append,
    infix_append_cons_iff hlast] at h
  exact h.imp_left fun hp => hp.trans (List.dropLast_prefix new).isInfix

section

variable {old new : List Char} (hnew : new ≠ [])

include hnew

/-- What a text starts with was there before or comes from a replacement. -/
theorem head?_of_head?_replace {s : List Char} {c : Char} (hc : new.head? ≠ some c)
    (h : (replaceFrom old new 0 s).head? = some c) : s.head? = some c := by
  cases s with
  | nil => exact h
  | cons d s =>
    unfold replaceFrom at h
    rw [if_neg (Nat.lt_irrefl 0)] at h
    split at h
    · cases new with
      | nil => exact absurd rfl hnew
      | cons e new => exact absurd h hc
    · exact h

theorem replaceFrom_ne_nil {s : List Char} (hs : s ≠ []) : replaceFrom old new 0 s ≠ [] := by
  cases s with
  | nil => exact absurd rfl hs
  | cons c s =>
    unfold replaceFrom
    split
    · rename_i h
      exact absurd h (Nat.lt_irrefl 0)
    split
    · exact List.append_ne_nil_of_left_ne_nil hnew _
    · exact List.cons_ne_nil _ _

theorem getLast?_of_getLast?_replace {s : List Char} {skip : Nat} {c : Char} (hc : new.getLast? ≠ some c)
    (h : (replaceFrom old new skip s).getLast? = some c) : s.getLast? = some c := by
  induction s generalizing skip with
  | nil => exact h
  | cons d s ih =>
    have hmore : s.getLast? = some c → (d :: s).getLast? = some c := by
      intro hs
      rw [List.getLast?_cons, hs]
      rfl
    unfold replaceFrom at h
    split at h
    · exact hmore (ih h)
    split at h
    · rw [List.getLast?_append, Option.or_eq_some_iff] at h
      rcases h with h | ⟨-, h⟩
      · exact hmore (ih h)
      · exact absurd h hc
    · by_cases hs : s = []
      · subst hs
        exact h
      · rw [List.getLast?_cons_of_ne_nil (replaceFrom_ne_nil hnew hs)] at h
        exact hmore (ih h)

/-- Two characters that no replacement brings in stand together only where they did before. -/
theorem infix_of_infix_replace {s : List Char} {a b : Char} (ha : a ∉ new) (hb : b ∉ new)
    (h : [a, b] <:+: replace old new s) : [a, b] <:+: s := by
  have hlast : new.getLast hnew ∉ [a, b] := by
    have hmem := List.getLast_mem hnew
    grind
  have hpiece : ¬[a, b] <:+: new := fun hp => ha (hp.subset List.mem_cons_self)
  have hhead : new.head? ≠ some b := fun hh => hb (List.mem_of_mem_head? hh)
  unfold replace at h
  generalize 0 = skip at h
  induction s generalizing skip with
  | nil => exact h
  | cons c s ih =>
    rw [List.infix_cons_iff]
    unfold replaceFrom at h
    split at h
    · exact Or.inr (ih _ h)
    split at h
    · exact Or.inr (ih _ ((infix_of_infix_append hnew hlast h).resolve_left hpiece))
    · rw [List.infix_cons_iff, pair_prefix_cons_iff] at h
      rw [pair_prefix_cons_iff]
      exact h.imp (And.imp_right (head?_of_head?_replace hnew hhead)) (ih 0)

/-- Two spaces stand together only where they did before, if there are single ones between other characters in
replacements. -/
theorem IsOneLine.single_replace (hone : IsOneLine new) {s : List Char} (h : ¬[' ', ' '] <:+: s) :
    ¬[' ', ' '] <:+: replace old new s := by
  have hlast : new.getLast hnew ∉ [' ', ' '] := by
    have hne := hone.last
    rw [List.getLast?_eq_some_getLast hnew] at hne
    simpa using hne
  unfold replace
  generalize 0 = skip
  induction s generalizing skip with
  | nil => exact h
  | cons c s ih =>
    rw [List.infix_cons_iff, pair_prefix_cons_iff, not_or] at h
    unfold replaceFrom
    split
    · exact ih h.2 _
    split
    · exact fun hp => (infix_of_infix_append hnew hlast hp).elim hone.single (ih h.2 _)
    · rw [List.infix_cons_iff, pair_prefix_cons_iff]
      rintro (⟨hspace, hnext⟩ | hrest)
      · exact h.1 ⟨hspace, head?_of_head?_replace hnew hone.head hnext⟩
      · exact ih h.2 0 hrest

end

/-- A text on one line stays so when pieces are replaced by one that is on one line. -/
theorem IsOneLine.replace {s old new : List Char} (h : IsOneLine s) (hnew : new ≠ []) (hone : IsOneLine new) :
    IsOneLine (replace old new s) where
  blanks c hc := (mem_replace hc).elim (hone.blanks c) (h.blanks c)
  single := hone.single_replace hnew h.single
  head hc := h.head (head?_of_head?_replace hnew hone.head hc)
  last hc := h.last (getLast?_of_getLast?_replace hnew hone.last hc)

end ClientForge.Text
