import ClientForge.Proofs.Numbering
import ClientForge.Api.Basic

/-!
The characters of names. Whatever a text holds, its words are made of its ASCII letters and digits
(`flatten_words`), and so are the names joined from them. An operation id starts with a small letter, whether
it comes from a text (`lowerCamel_identifier`) or from a verb and a text (`lowerCamel_derivedIdentifier`), and
a number after it changes nothing in that (`IsLowerCamel.numbered`).
-/

namespace ClientForge

/-! ## Case -/

theorem isUpper_iff {c : Char} : c.isUpper ↔ 65 ≤ c.toNat ∧ c.toNat ≤ 90 := decide_eq_true_iff

theorem isLower_iff {c : Char} : c.isLower ↔ 97 ≤ c.toNat ∧ c.toNat ≤ 122 :=
  Bool.and_eq_true_iff.trans (and_congr decide_eq_true_iff decide_eq_true_iff)

theorem isDigit_iff {c : Char} : c.isDigit ↔ 48 ≤ c.toNat ∧ c.toNat ≤ 57 :=
  Bool.and_eq_true_iff.trans (and_congr decide_eq_true_iff decide_eq_true_iff)

theorem isAlpha_iff {c : Char} : c.isAlpha ↔ c.isUpper ∨ c.isLower := Bool.or_eq_true_iff

theorem isAlphanum_iff {c : Char} : c.isAlphanum ↔ c.isAlpha ∨ c.isDigit := Bool.or_eq_true_iff

theorem isAlphanum_of_isLower {c : Char} (h : c.isLower) : c.isAlphanum :=
  isAlphanum_iff.2 (.inl (isAlpha_iff.2 (.inr h)))

theorem isAlphanum_of_isUpper {c : Char} (h : c.isUpper) : c.isAlphanum :=
  isAlphanum_iff.2 (.inl (isAlpha_iff.2 (.inl h)))

theorem isAlphanum_of_isDigit {c : Char} (h : c.isDigit) : c.isAlphanum := isAlphanum_iff.2 (.inr h)

theorem isLower_of_isAlphanum {c : Char} (h : c.isAlphanum) (hd : c.isDigit = false)
    (hu : c.isUpper = false) : c.isLower := by
  simpa [isAlphanum_iff, isAlpha_iff, hd, hu] using h

theorem toLower_of_isUpper {c : Char} (h : c.isUpper) : c.toLower.toNat = c.toNat + 32 := by
  have hval : c.toLower.val = c.val + 32 := congrArg Char.val (dif_pos (of_decide_eq_true h))
  have hle := (isUpper_iff.1 h).2
  rw [← Char.toNat_val, hval, UInt32.toNat_add, Char.toNat_val]
  exact Nat.mod_eq_of_lt (show c.toNat + 32 < 2 ^ 32 by omega)

theorem toLower_of_not_isUpper {c : Char} (h : ¬ c.isUpper) : c.toLower = c :=
  dif_neg fun hc => h (decide_eq_true hc)

theorem toUpper_of_isLower {c : Char} (h : c.isLower) : c.toUpper.toNat = c.toNat - 32 := by
  have hle := isLower_iff.1 h
  have heq : c.toUpper = ⟨c.val + ('A'.val - 'a'.val), _⟩ := dif_pos hle
  have hstep : ('A'.val - 'a'.val).toNat = 2 ^ 32 - 32 := by decide
  rw [heq, ← Char.toNat_val, UInt32.toNat_add, Char.toNat_val, hstep]
  omega

theorem toUpper_of_not_isLower {c : Char} (h : ¬ c.isLower) : c.toUpper = c :=
  dif_neg fun hc => h (isLower_iff.2 hc)

theorem isUpper_toLower (c : Char) : c.toLower.isUpper = false := by
  rw [Bool.eq_false_iff]
  by_cases h : c.isUpper
  · have hle := isUpper_iff.1 h
    rw [Ne, isUpper_iff, toLower_of_isUpper h]
    omega
  · rwa [toLower_of_not_isUpper h]

theorem isLower_toUpper (c : Char) : c.toUpper.isLower = false := by
  rw [Bool.eq_false_iff]
  by_cases h : c.isLower
  · have hle := isLower_iff.1 h
    rw [Ne, isLower_iff, toUpper_of_isLower h]
    omega
  · rwa [toUpper_of_not_isLower h]

theorem isAlphanum_toLower (c : Char) : c.toLower.isAlphanum = c.isAlphanum := by
  by_cases h : c.isUpper
  · have hle := isUpper_iff.1 h
    have hlower : c.toLower.isLower := isLower_iff.2 (by rw [toLower_of_isUpper h]; omega)
    rw [isAlphanum_of_isUpper h, isAlphanum_of_isLower hlower]
  · rw [toLower_of_not_isUpper h]

theorem isAlphanum_toUpper (c : Char) : c.toUpper.isAlphanum = c.isAlphanum := by
  by_cases h : c.isLower
  · have hle := isLower_iff.1 h
    have hupper : c.toUpper.isUpper := isUpper_iff.2 (by rw [toUpper_of_isLower h]; omega)
    rw [isAlphanum_of_isLower h, isAlphanum_of_isUpper hupper]
  · rw [toUpper_of_not_isLower h]

theorem toNat_lt_of_isAlphanum {c : Char} (h : c.isAlphanum) : c.toNat < 0x80 := by
  rw [isAlphanum_iff, isAlpha_iff, isUpper_iff, isLower_iff, isDigit_iff] at h
  omega

theorem lowerAfter_ascii (before : List Char) {s : List Char} (h : ∀ c ∈ s, c.toNat < 0x80) :
    Text.lowerAfter before s = s.map Char.toLower := by
  induction s generalizing before with
  | nil => rfl
  | cons c s ih =>
    have hc := h c List.mem_cons_self
    have hsigma : c ≠ 'Σ' := by rintro rfl; exact absurd hc (by decide)
    rw [Text.lowerAfter, ih _ fun d hd => h d (List.mem_cons_of_mem _ hd)]
    simp [hsigma, Text.lowerChar, hc]

/-! ## Words -/

/-- Are all characters ASCII letters and digits? -/
def AllAlphanum (s : List Char) : Prop := ∀ c ∈ s, c.isAlphanum

theorem allAlphanum_nil : AllAlphanum [] := by simp [AllAlphanum]

theorem allAlphanum_cons {c : Char} {s : List Char} :
    AllAlphanum (c :: s) ↔ c.isAlphanum ∧ AllAlphanum s := by simp [AllAlphanum]

theorem allAlphanum_append {s t : List Char} :
    AllAlphanum (s ++ t) ↔ AllAlphanum s ∧ AllAlphanum t := by
  simp only [AllAlphanum, List.mem_append]
  exact ⟨fun h => ⟨fun c hc => h c (Or.inl hc), fun c hc => h c (Or.inr hc)⟩,
    fun h c hc => hc.elim (h.1 c) (h.2 c)⟩

theorem AllAlphanum.map {f : Char → Char} (hf : ∀ c, (f c).isAlphanum = c.isAlphanum) {s : List Char}
    (h : AllAlphanum s) : AllAlphanum (s.map f) := by
  intro c hc
  obtain ⟨d, hd, rfl⟩ := List.mem_map.1 hc
  rw [hf]
  exact h d hd

/-- The words of a text are not empty, and they are made of letters and digits. -/
def WordsOk (ws : List (List Char)) : Prop := ∀ w ∈ ws, w ≠ [] ∧ AllAlphanum w

theorem WordsOk.cons {w : List Char} {ws : List (List Char)} (hne : w ≠ []) (hw : AllAlphanum w)
    (h : WordsOk ws) : WordsOk (w :: ws) := by
  intro v hv
  rcases List.mem_cons.1 hv with rfl | hv
  · exact ⟨hne, hw⟩
  · exact h v hv

theorem wordsOk_attach {c : Char} (hc : c.isAlphanum) :
    ∀ {ws : List (List Char)}, WordsOk ws → WordsOk (attach c ws)
  | [], h => h.cons (List.cons_ne_nil c []) (allAlphanum_cons.2 ⟨hc, allAlphanum_nil⟩)
  | w :: ws, h => by
    have hw := h w List.mem_cons_self
    have hws : WordsOk ws := fun v hv => h v (List.mem_cons_of_mem _ hv)
    exact hws.cons (List.cons_ne_nil c w) (allAlphanum_cons.2 ⟨hc, hw.2⟩)

/-- Does the word that `c` is in go on with the text after `c`? -/
def goesOn (c : Char) : List Char → Bool
  | [] => false
  | d :: more => isWordChar d && !startsWord c d more

theorem words_cons (c : Char) (s : List Char) : words (c :: s) =
    if isWordChar c then if goesOn c s then attach c (words s) else [c] :: words s else words s := by
  cases s with
  | nil => simp [words, goesOn]
  | cons d more => rfl

theorem flatten_attach (c : Char) (ws : List (List Char)) : (attach c ws).flatten = c :: ws.flatten := by
  cases ws <;> rfl

theorem wordsOk_words (s : List Char) : WordsOk (words s) := by
  induction s with
  | nil => simp [words, WordsOk]
  | cons c s ih =>
    rw [words_cons]
    split
    · rename_i hc
      split
      · exact wordsOk_attach hc ih
      · exact ih.cons (List.cons_ne_nil c []) (allAlphanum_cons.2 ⟨hc, allAlphanum_nil⟩)
    · exact ih

/-- The words hold all letters and digits of the text, in order. -/
theorem flatten_words (s : List Char) : (words s).flatten = s.filter isWordChar := by
  induction s with
  | nil => rfl
  | cons c s ih =>
    rw [words_cons, List.filter_cons]
    split
    · split
      · rw [flatten_attach, ih]
      · rw [List.flatten_cons, ih]
        rfl
    · exact ih

/-- The first word starts with the first letter or digit. -/
theorem head_words (s : List Char) : (words s).head?.bind List.head? = s.find? isWordChar := by
  have hok := wordsOk_words s
  rw [← List.head?_filter, ← flatten_words]
  cases hs : words s with
  | nil => rfl
  | cons w ws =>
    rw [hs] at hok
    obtain ⟨c, v, rfl⟩ := List.exists_cons_of_ne_nil (hok w List.mem_cons_self).1
    rfl

theorem words_ne_nil {c : Char} (hc : c.isAlphanum) (s : List Char) : words (c :: s) ≠ [] := by
  have hword : isWordChar c := hc
  intro h
  have hflat := flatten_words (c :: s)
  rw [h, List.filter_cons_of_pos hword] at hflat
  cases hflat

/-! ## Names -/

theorem allAlphanum_capitalize {w : List Char} (h : AllAlphanum w) : AllAlphanum (capitalize w) := by
  cases w with
  | nil => exact h
  | cons c w =>
    obtain ⟨hc, hw⟩ := allAlphanum_cons.1 h
    exact allAlphanum_cons.2 ⟨by rw [isAlphanum_toUpper]; exact hc, hw⟩

theorem allAlphanum_headWord {w : List Char} (h : AllAlphanum w) : AllAlphanum (headWord w) := by
  unfold headWord
  split
  · cases w with
    | nil => exact h
    | cons c w =>
      obtain ⟨hc, hw⟩ := allAlphanum_cons.1 h
      exact allAlphanum_cons.2 ⟨by rw [isAlphanum_toLower]; exact hc, hw⟩
  · exact h.map isAlphanum_toLower

theorem headWord_ne_nil {w : List Char} (h : w ≠ []) : headWord w ≠ [] := by
  cases w with
  | nil => exact absurd rfl h
  | cons c w => unfold headWord; split <;> simp [uncapitalize, lowerWord]

/-- The first word of a name does not start with a capital. -/
theorem isUpper_head_headWord {w : List Char} {c : Char} (h : (headWord w).head? = some c) :
    c.isUpper = false := by
  cases w with
  | nil => simp [headWord, lowerWord] at h
  | cons d w =>
    have hc : c = d.toLower := by
      unfold headWord at h
      split at h <;> simpa [uncapitalize, lowerWord, eq_comm] using h
    rw [hc]
    exact isUpper_toLower d

theorem allAlphanum_camel (s : List Char) : AllAlphanum (camel s) := by
  have hok := wordsOk_words s
  unfold camel
  split
  · exact allAlphanum_nil
  · rename_i w ws hs
    rw [hs] at hok
    refine allAlphanum_append.2 ⟨allAlphanum_headWord (hok w List.mem_cons_self).2, fun c hc => ?_⟩
    obtain ⟨v, hv, hc⟩ := List.mem_flatMap.1 hc
    exact allAlphanum_capitalize (hok v (List.mem_cons_of_mem _ hv)).2 c hc

theorem isUpper_head_camel {s : List Char} {c : Char} {w : List Char} (h : camel s = c :: w) :
    c.isUpper = false := by
  have hok := wordsOk_words s
  unfold camel at h
  split at h
  · exact absurd h (by simp)
  · rename_i v vs hs
    rw [hs] at hok
    obtain ⟨d, u, hu⟩ := List.exists_cons_of_ne_nil (headWord_ne_nil (hok v List.mem_cons_self).1)
    rw [hu] at h
    have hdc : d = c := (List.cons.inj h).1
    exact isUpper_head_headWord (w := v) (by rw [hu, hdc]; rfl)

theorem allAlphanum_pascal (s : List Char) : AllAlphanum (pascal s) :=
  allAlphanum_capitalize (allAlphanum_camel s)

/-! ## Operation ids -/

/-- A small letter, and letters and digits after it. -/
def IsLowerCamel (s : List Char) : Prop := ∃ c w, s = c :: w ∧ c.isLower ∧ AllAlphanum w

theorem IsLowerCamel.numbered {s : List Char} (h : IsLowerCamel s) (n : Nat) :
    IsLowerCamel (numbered s n) := by
  obtain ⟨c, w, rfl, hc, hw⟩ := h
  refine ⟨c, w ++ (Nat.repr n).toList, rfl, hc, allAlphanum_append.2 ⟨hw, fun d hd => ?_⟩⟩
  exact isAlphanum_of_isDigit (isDigit_of_mem_repr hd)

theorem lowerCamel_identifier (s : List Char) : identifier s = [] ∨ IsLowerCamel (identifier s) := by
  unfold identifier
  split
  · exact Or.inl rfl
  · rename_i c w hcamel
    have hall := allAlphanum_camel s
    rw [hcamel] at hall
    obtain ⟨hc, hw⟩ := allAlphanum_cons.1 hall
    right
    split
    · exact ⟨'o', 'p' :: c :: w, rfl, by decide, allAlphanum_cons.2 ⟨by decide, hall⟩⟩
    · rename_i hdigit
      exact ⟨c, w, rfl, isLower_of_isAlphanum hc (by simpa using hdigit) (isUpper_head_camel hcamel), hw⟩

theorem lowerCamel_lower_name (m : Method) : IsLowerCamel (Text.lower m.name.toList) := by
  cases m <;> exact ⟨_, _, rfl, by decide, List.all_eq_true.1 (by decide)⟩

theorem lowerCamel_derivedIdentifier (m : Method) (text : List Char) :
    IsLowerCamel (derivedIdentifier m.name.toList text) := by
  obtain ⟨c, w, heq, hc, hw⟩ := lowerCamel_lower_name m
  refine ⟨c, w ++ pascal text, ?_, hc, allAlphanum_append.2 ⟨hw, allAlphanum_pascal text⟩⟩
  rw [derivedIdentifier, heq, List.cons_append]

end ClientForge
