import ClientForge.Proofs.Words

/-!
Cutting texts into words, and joining the words. The words of a text break between two neighbours exactly if
one is no letter or digit or the case shows a new word (`breaksBetween_iff`). Joining them changes nothing but
the case of letters and what stands between words, so a name in either case is made of the letters and digits of
its text, in order (`casing_conserves`).
-/

namespace ClientForge

/-! ## Breaks -/

/-- Do the words of a text break where it is cut into `s` and `t`? The first of them then hold what is in `s`. -/
def BreaksBetween (s t : List Char) : Prop :=
  ∃ us vs, words (s ++ t) = us ++ vs ∧ us.flatten = s.filter isWordChar

theorem ne_nil_of_flatten_eq_cons {ws : List (List Char)} {c : Char} {s : List Char} (h : ws.flatten = c :: s) :
    ws ≠ [] := by
  rintro rfl
  cases h

/-- A character in front of a text makes no new break in it, and takes none away. -/
theorem breaksBetween_cons_cons {c d : Char} {s t : List Char} :
    BreaksBetween (c :: d :: s) t ↔ BreaksBetween (d :: s) t := by
  unfold BreaksBetween
  rw [List.cons_append, words_cons]
  by_cases hc : isWordChar c
  · rw [if_pos hc, List.filter_cons_of_pos hc]
    split
    · -- The character joins the first word, which holds the letter or digit after it.
      rename_i hgoes
      have hd : isWordChar d := (Bool.and_eq_true_iff.1 hgoes).1
      rw [List.filter_cons_of_pos hd]
      constructor
      · rintro ⟨us, vs, hwords, hflat⟩
        obtain ⟨u, us, rfl⟩ := List.exists_cons_of_ne_nil (ne_nil_of_flatten_eq_cons hflat)
        obtain ⟨w, ws, hws⟩ := List.exists_cons_of_ne_nil (words_ne_nil hd (s ++ t))
        rw [List.cons_append, hws] at hwords ⊢
        obtain ⟨rfl, rfl⟩ := List.cons.inj hwords
        exact ⟨w :: us, vs, rfl, (List.cons.inj hflat).2⟩
      · rintro ⟨us, vs, hwords, hflat⟩
        obtain ⟨u, us, rfl⟩ := List.exists_cons_of_ne_nil (ne_nil_of_flatten_eq_cons hflat)
        rw [hwords]
        exact ⟨(c :: u) :: us, vs, rfl, congrArg (c :: ·) hflat⟩
    · -- The character is a word.
      constructor
      · rintro ⟨us, vs, hwords, hflat⟩
        obtain ⟨u, us, rfl⟩ := List.exists_cons_of_ne_nil (ne_nil_of_flatten_eq_cons hflat)
        obtain ⟨rfl, hrest⟩ := List.cons.inj hwords
        exact ⟨us, vs, hrest, (List.cons.inj hflat).2⟩
      · rintro ⟨us, vs, hwords, hflat⟩
        exact ⟨[c] :: us, vs, congrArg ([c] :: ·) hwords, congrArg (c :: ·) hflat⟩
  · rw [if_neg hc, List.filter_cons_of_neg hc]

/-- After one character the words break unless its word goes on. -/
theorem breaksBetween_singleton {c : Char} {t : List Char} :
    BreaksBetween [c] t ↔ (isWordChar c → goesOn c t = false) := by
  unfold BreaksBetween
  rw [List.singleton_append, words_cons]
  by_cases hc : isWordChar c
  · rw [if_pos hc, List.filter_cons_of_pos hc, List.filter_nil]
    cases t with
    | nil => exact iff_of_true ⟨[[c]], [], rfl, rfl⟩ fun _ => rfl
    | cons d t =>
      cases hgoes : goesOn c (d :: t) with
      | false => exact iff_of_true ⟨[[c]], words (d :: t), rfl, rfl⟩ fun _ => rfl
      | true =>
        refine iff_of_false ?_ fun h => Bool.noConfusion (h hc)
        rintro ⟨us, vs, hwords, hflat⟩
        have hd : d.isAlphanum := (Bool.and_eq_true_iff.1 hgoes).1
        have hok := wordsOk_words (d :: t)
        obtain ⟨w, ws, hws⟩ := List.exists_cons_of_ne_nil (words_ne_nil hd t)
        obtain ⟨u, us, rfl⟩ := List.exists_cons_of_ne_nil (ne_nil_of_flatten_eq_cons hflat)
        rw [hws] at hwords hok
        obtain ⟨rfl, -⟩ := List.cons.inj hwords
        have hnil : w ++ us.flatten = [] := (List.cons.inj hflat).2
        exact (hok w List.mem_cons_self).1 (List.append_eq_nil_iff.1 hnil).1
  · have hnone : [c].filter isWordChar = [] := List.filter_cons_of_neg hc
    exact iff_of_true ⟨[], _, rfl, hnone.symm⟩ fun h => absurd h hc

/-- Between two neighbours the words break exactly if one is no letter or digit, or if a new word starts at the
second. -/
theorem breaksBetween_iff (s : List Char) (c d : Char) (t : List Char) :
    BreaksBetween (s ++ [c]) (d :: t) ↔ (c.isAlphanum → d.isAlphanum → startsWord c d t) := by
  induction s with
  | nil =>
    rw [List.nil_append, breaksBetween_singleton]
    refine imp_congr_right fun _ => ?_
    show (d.isAlphanum && !startsWord c d t) = false ↔ _
    cases d.isAlphanum <;> simp
  | cons e s ih =>
    rw [← ih]
    cases s <;> exact breaksBetween_cons_cons

theorem startsWord_iff {c d : Char} {t : List Char} : startsWord c d t ↔
    ((c.isLower ∨ c.isDigit) ∧ d.isUpper) ∨ (c.isUpper ∧ d.isUpper ∧ ∃ e, t.head? = some e ∧ e.isLower) := by
  have hhead : t.head?.any Char.isLower ↔ ∃ e, t.head? = some e ∧ e.isLower := by
    cases t <;> simp
  simp only [startsWord, Bool.and_eq_true, Bool.or_eq_true, hhead]
  tauto

/-! ## Small letters -/

theorem toLower_toLower (c : Char) : c.toLower.toLower = c.toLower :=
  toLower_of_not_isUpper (Bool.eq_false_iff.1 (isUpper_toLower c))

theorem toLower_toUpper (c : Char) : c.toUpper.toLower = c.toLower := by
  by_cases h : c.isLower
  · have hle := isLower_iff.1 h
    have hupper := toUpper_of_isLower h
    have hnot : ¬c.isUpper := by
      rw [isUpper_iff]
      omega
    rw [toLower_of_not_isUpper hnot]
    refine Char.toNat_inj.1 ?_
    rw [toLower_of_isUpper (isUpper_iff.2 (by omega)), hupper]
    omega
  · rw [toUpper_of_not_isLower h]

theorem lowerWord_capitalize (w : List Char) : lowerWord (capitalize w) = lowerWord w := by
  cases w with
  | nil => rfl
  | cons c w => exact congrArg (· :: lowerWord w) (toLower_toUpper c)

theorem lowerWord_lowerWord (w : List Char) : lowerWord (lowerWord w) = lowerWord w := by
  unfold lowerWord
  rw [List.map_map]
  exact List.map_congr_left fun c _ => toLower_toLower c

theorem lowerWord_headWord (w : List Char) : lowerWord (headWord w) = lowerWord w := by
  unfold headWord
  split
  · cases w with
    | nil => rfl
    | cons c w => exact congrArg (· :: lowerWord w) (toLower_toLower c)
  · exact lowerWord_lowerWord w

/-- In small letters a text of letters and digits differs letter by letter. -/
theorem AllAlphanum.lower_eq {s : List Char} (h : AllAlphanum s) : Text.lower s = lowerWord s :=
  lowerAfter_ascii [] fun c hc => toNat_lt_of_isAlphanum (h c hc)

theorem allAlphanum_filter (s : List Char) : AllAlphanum (s.filter Char.isAlphanum) :=
  fun _ hc => (List.mem_filter.1 hc).2

/-! ## Joined words -/

/-- But for the case of its letters, a name holds what is in the words. -/
theorem lowerWord_camel (s : List Char) : lowerWord (camel s) = lowerWord (s.filter isWordChar) := by
  rw [← flatten_words]
  unfold camel
  cases words s with
  | nil => rfl
  | cons w ws =>
    have htail : lowerWord (ws.flatMap capitalize) = lowerWord ws.flatten := by
      unfold lowerWord
      rw [List.map_flatMap, List.map_flatten, List.flatMap_def]
      exact congrArg List.flatten (List.map_congr_left fun v _ => lowerWord_capitalize v)
    show List.map _ _ = List.map _ _
    rw [List.map_append, List.flatten_cons, List.map_append]
    exact congrArg₂ (· ++ ·) (lowerWord_headWord w) htail

theorem filter_underscore {s : List Char} (h : AllAlphanum s) : s.filter (· ≠ '_') = s := by
  refine List.filter_eq_self.2 fun c hc => ?_
  have hne : c ≠ '_' := by
    rintro rfl
    exact absurd (h _ hc) (by decide)
  simpa using hne

/-- Words joined by underscores are what is left without these. -/
theorem filter_join {ws : List (List Char)} (h : ∀ w ∈ ws, AllAlphanum w) :
    (Text.join ['_'] ws).filter (· ≠ '_') = ws.flatten := by
  induction ws with
  | nil => rfl
  | cons w ws ih =>
    obtain ⟨hw, hws⟩ := List.forall_mem_cons.1 h
    cases ws with
    | nil => rw [Text.join, filter_underscore hw, List.flatten_singleton]
    | cons v ws =>
      rw [Text.join, List.filter_append, List.filter_append, filter_underscore hw, ih hws]
      simp

theorem filter_snake (s : List Char) : (snake s).filter (· ≠ '_') = lowerWord (s.filter isWordChar) := by
  have hwords : ∀ w ∈ (words s).map lowerWord, AllAlphanum w := by
    intro w hw
    obtain ⟨v, hv, rfl⟩ := List.mem_map.1 hw
    exact (wordsOk_words s v hv).2.map isAlphanum_toLower
  unfold snake
  rw [filter_join hwords, ← flatten_words]
  exact List.map_flatten.symm

/-- The words of a text are not empty and hold all its letters and digits, in order. Between two of these that are
neighbours they break exactly at a capital after a small letter or a digit, and at a capital after a capital and
before a small letter; at all other characters they break in any case. No case of names loses, adds or moves a
letter or digit. -/
theorem casing_conserves (s : List Char) :
    (∀ w ∈ words s, w ≠ []) ∧ (words s).flatten = s.filter Char.isAlphanum ∧
    (∀ before a b after, s = before ++ a :: b :: after →
      (BreaksBetween (before ++ [a]) (b :: after) ↔ (a.isAlphanum → b.isAlphanum →
        ((a.isLower ∨ a.isDigit) ∧ b.isUpper) ∨
          (a.isUpper ∧ b.isUpper ∧ ∃ c, after.head? = some c ∧ c.isLower)))) ∧
    Text.lower (camel s) = Text.lower (s.filter Char.isAlphanum) ∧
    (snake s).filter (· ≠ '_') = Text.lower (s.filter Char.isAlphanum) := by
  refine ⟨fun w hw => (wordsOk_words s w hw).1, flatten_words s, fun before a b after _ => ?_, ?_, ?_⟩
  · rw [breaksBetween_iff, startsWord_iff]
  · rw [(allAlphanum_camel s).lower_eq, (allAlphanum_filter s).lower_eq]
    exact lowerWord_camel s
  · rw [(allAlphanum_filter s).lower_eq]
    exact filter_snake s

example : words "parseHTTPBody2Text".toList = ["parse", "HTTP", "Body2", "Text"].map String.toList := by decide

end ClientForge
