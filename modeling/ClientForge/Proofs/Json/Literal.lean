import ClientForge.Json.Reader

/-!
Text literals are read back as they were written: whatever characters a text holds, the reader stops at
the closing quote with the code points of the text (`readUnits_flatMap_encodeChar`), and no code point of
a character is half of another (`joinUnits_map_toNat`). So `readText_encode`.
-/

namespace ClientForge.Json

/-! ## Escapes -/

/-- An escape of one sign is read as the character that it was written for. -/
theorem unescape?_escapeLetter {c e : Char} (h : escapeLetter? c = some e) : unescape? e = some c := by
  unfold escapeLetter? at h
  split at h
  · subst_vars; cases h; rfl
  split at h
  · subst_vars; cases h; rfl
  split at h
  · subst_vars; cases h; rfl
  split at h
  · subst_vars; cases h; rfl
  split at h
  · subst_vars; cases h; rfl
  · cases h

theorem escapeLetter_ne_u {c e : Char} (h : escapeLetter? c = some e) : e ≠ 'u' := by
  rintro rfl
  have := unescape?_escapeLetter h
  simp [unescape?] at this

/-- The digits of a code escape denote the code that they were written for. -/
theorem inBase?_hex : ∀ n, n < 0x20 → Text.inBase? 16 (Text.hex 4 n) = some n := by decide

theorem hex_four (n : Nat) : ∃ a b c d, Text.hex 4 n = [a, b, c, d] := by
  simp [Text.hex]

theorem readUnits_escape (acc : List Nat) {e c : Char} (hu : e ≠ 'u') (h : unescape? e = some c)
    (s : List Char) : readUnits acc ('\\' :: e :: s) = readUnits (c.toNat :: acc) s := by
  rw [readUnits.eq_def]
  split <;> grind

theorem readUnits_code (acc : List Nat) {n : Nat} (h : n < 0x20) {s : List Char} (hs : s ≠ []) :
    readUnits acc ('\\' :: 'u' :: (Text.hex 4 n ++ s)) = readUnits (n :: acc) s := by
  have hval := inBase?_hex n h
  obtain ⟨a, b, c, d, hdigits⟩ := hex_four n
  rw [hdigits] at hval ⊢
  simp [readUnits, hval, hs]

theorem readUnits_plain (acc : List Nat) {c : Char} (hquote : c ≠ '"') (hslash : c ≠ '\\')
    (h : ¬ c.toNat < 0x20) (s : List Char) : readUnits acc (c :: s) = readUnits (c.toNat :: acc) s := by
  rw [readUnits.eq_def]
  split <;> grind

/-! ## Characters -/

/-- No control characters stand in a literal. -/
theorem toNat_le_of_mem_encodeChar {c d : Char} (h : d ∈ encodeChar c) : 0x20 ≤ d.toNat := by
  have hhex : ∀ n < 0x20, (Text.hex 4 n).all (0x20 ≤ ·.toNat) := by decide
  unfold encodeChar at h
  split at h
  · rename_i hescaped
    have hchars : ∀ c ∈ ['"', '\\'], ['\\', c].all (0x20 ≤ ·.toNat) := by simp
    have hc : c ∈ ['"', '\\'] := by simpa using hescaped
    simpa using List.all_eq_true.1 (hchars c hc) d h
  split at h
  · rename_i e he
    have hletters : ['b', 'f', 'n', 'r', 't'].all (0x20 ≤ ·.toNat) := by decide
    have hletter : e ∈ ['b', 'f', 'n', 'r', 't'] := by
      unfold escapeLetter? at he
      grind
    rcases (by simpa using h : d = '\\' ∨ d = e) with rfl | rfl
    · decide
    · simpa using List.all_eq_true.1 hletters _ hletter
  split at h
  · rename_i hcontrol
    rcases List.mem_cons.1 h with rfl | h
    · decide
    rcases List.mem_cons.1 h with rfl | h
    · decide
    · simpa using List.all_eq_true.1 (hhex _ hcontrol) d h
  · rename_i hcontrol
    rw [List.mem_singleton.1 h]
    exact Nat.le_of_not_lt hcontrol

theorem toNat_le_of_mem_encode {s : List Char} {d : Char} (h : d ∈ encode s) : 0x20 ≤ d.toNat := by
  unfold encode at h
  rcases List.mem_append.1 h with h | h
  · rcases List.mem_cons.1 h with rfl | h
    · decide
    · obtain ⟨c, -, hc⟩ := List.mem_flatMap.1 h
      exact toNat_le_of_mem_encodeChar hc
  · rw [List.mem_singleton.1 h]
    decide

/-- Each character of a literal is read as its code point. After it there is always more to read. -/
theorem readUnits_encodeChar (acc : List Nat) (c : Char) {s : List Char} (hs : s ≠ []) :
    readUnits acc (encodeChar c ++ s) = readUnits (c.toNat :: acc) s := by
  unfold encodeChar
  split
  · rename_i h
    have hself : unescape? c = some c := by
      rcases (by simpa using h : c = '"' ∨ c = '\\') with rfl | rfl <;> rfl
    have hu : c ≠ 'u' := by rintro rfl; simp at h
    exact readUnits_escape acc hu hself s
  · rename_i hplain
    obtain ⟨hquote, hslash⟩ : c ≠ '"' ∧ c ≠ '\\' := by simpa using hplain
    split
    · rename_i e he
      exact readUnits_escape acc (escapeLetter_ne_u he) (unescape?_escapeLetter he) s
    · split
      · rename_i hcontrol
        exact readUnits_code acc hcontrol hs
      · rename_i hcontrol
        exact readUnits_plain acc hquote hslash hcontrol s

theorem readUnits_flatMap_encodeChar (acc : List Nat) (s rest : List Char) :
    readUnits acc (s.flatMap encodeChar ++ '"' :: rest) = .ok (acc.reverse ++ s.map Char.toNat, rest) := by
  induction s generalizing acc with
  | nil => simp [readUnits]
  | cons c s ih =>
    have hs : s.flatMap encodeChar ++ '"' :: rest ≠ [] := by simp
    rw [List.flatMap_cons, List.append_assoc, readUnits_encodeChar acc c hs, ih]
    simp

/-! ## Code points -/

/-- The code point of a character is no half of another character. -/
theorem toNat_not_half (c : Char) : isHighUnit c.toNat = false ∧ isLowUnit c.toNat = false := by
  have hvalid := c.valid
  simp only [UInt32.isValidChar, Nat.isValidChar] at hvalid
  have hval : c.toNat = c.val.toNat := rfl
  constructor
  · simp only [isHighUnit, Bool.and_eq_false_iff, decide_eq_false_iff_not]
    omega
  · simp only [isLowUnit, Bool.and_eq_false_iff, decide_eq_false_iff_not]
    omega

theorem joinUnits_map_toNat (s : List Char) : joinUnits (s.map Char.toNat) = s := by
  induction s with
  | nil => rfl
  | cons c s ih =>
    obtain ⟨hhigh, hlow⟩ := toNat_not_half c
    cases s with
    | nil => simp [joinUnits, hhigh, hlow]
    | cons d s =>
      rw [List.map_cons] at ih ⊢
      rw [List.map_cons, joinUnits]
      simp [hhigh, hlow, ih]

theorem holdsHalf_map_toNat (s : List Char) : holdsHalf (s.map Char.toNat) = false := by
  induction s with
  | nil => rfl
  | cons c s ih =>
    obtain ⟨hhigh, hlow⟩ := toNat_not_half c
    cases s with
    | nil => simp [holdsHalf, hhigh, hlow]
    | cons d s =>
      rw [List.map_cons] at ih ⊢
      rw [List.map_cons, holdsHalf]
      simp [hhigh, hlow, ih]

/-- A text is read back from its literal, strictly or not. -/
theorem readText_encode (strict : Bool) (s : String) (rest : List Char) :
    readText strict (s.toList.flatMap encodeChar ++ '"' :: rest) = .ok (s, rest) := by
  unfold readText
  rw [readUnits_flatMap_encodeChar]
  simp [joinUnits_map_toNat, holdsHalf_map_toNat]

end ClientForge.Json
