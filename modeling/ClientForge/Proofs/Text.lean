import ClientForge.Text.Blank
import ClientForge.Text.Search
import Mathlib.Data.List.Infix
import Mathlib.Data.List.TakeWhile

/-!
Texts. What is found in a text is a part of it (`Text.after?_eq_some_iff`, `Text.occurs_iff`). A text on one line
has no blanks but spaces (`Text.eq_space_of_mem_oneLine`), replacing brings in nothing but the replacement
(`Text.mem_replace`) and takes two characters apart everywhere (`Text.not_infix_replace`), and a text is cut where its
separators are (`intercalate_splitAt`, `splitAt_append`).
-/

namespace ClientForge

namespace Text

theorem toNat_ofNat {n : Nat} (h : n.isValidChar) : (Char.ofNat n).toNat = n := by
  rw [Char.ofNat, dif_pos h]
  rfl

/-! ## Finding -/

theorem after?_eq_some_iff {p s rest : List Char} : after? p s = some rest ↔ s = p ++ rest := by
  fun_induction after? p s with
  | case1 s => simp
  | case2 a p => simp
  | case3 p c s ih => simpa using ih
  | case4 a p c s hne => simp [Ne.symm hne]

theorem after?_append (p s : List Char) : after? p (p ++ s) = some s := after?_eq_some_iff.2 rfl

theorem after?_eq_none_iff {p s : List Char} : after? p s = none ↔ ¬p <+: s := by
  rw [Option.eq_none_iff_forall_ne_some]
  constructor
  · rintro h ⟨rest, rfl⟩
    exact h rest (after?_append p rest)
  · intro h rest hrest
    exact h ⟨rest, (after?_eq_some_iff.1 hrest).symm⟩

theorem occurs_iff {p : List Char} (hp : p ≠ []) (s : List Char) : occurs p s = true ↔ p <:+: s := by
  unfold occurs
  induction s with
  | nil => simp [cut?, hp]
  | cons c s ih =>
    rw [List.infix_cons_iff, ← ih, cut?]
    cases h : after? p (c :: s) with
    | none => simp [after?_eq_none_iff.1 h]
    | some rest => simp [after?_eq_some_iff.1 h]

/-- A text is cut first at the first separator in it. -/
theorem cut?_append {c : Char} {p : List Char} (h : c ∉ p) (s : List Char) :
    cut? [c] (p ++ c :: s) = some (p, s) := by
  induction p with
  | nil => simp [cut?, after?]
  | cons d p ih =>
    have hne : c ≠ d := List.ne_of_not_mem_cons h
    simp [cut?, after?, hne, ih (List.not_mem_of_not_mem_cons h)]

theorem upTo_append_cons {c : Char} {p : List Char} (h : c ∉ p) (s : List Char) : upTo c (p ++ c :: s) = p := by
  unfold upTo
  rw [List.takeWhile_append_of_pos (by simpa using fun d hd => ne_of_mem_of_not_mem hd h)]
  simp

theorem upTo_of_not_mem {c : Char} {s : List Char} (h : c ∉ s) : upTo c s = s :=
  List.takeWhile_eq_self_iff.2 (by simpa using fun d hd => ne_of_mem_of_not_mem hd h)

theorem dropWhile_append_cons {c : Char} {p : List Char} (h : c ∉ p) (s : List Char) :
    (p ++ c :: s).dropWhile (· != c) = c :: s := by
  rw [List.dropWhile_append_of_pos (by simpa using fun d hd => ne_of_mem_of_not_mem hd h)]
  simp

/-! ## Blanks -/

theorem prefix_stripRightBy (p : Char → Bool) (s : List Char) : stripRightBy p s <+: s := by
  have hsuffix := List.dropWhile_suffix p (l := s.reverse)
  rwa [← List.reverse_prefix, List.reverse_reverse] at hsuffix

theorem prefix_stripBy (p : Char → Bool) (s : List Char) : stripBy p s <+: s.dropWhile p :=
  prefix_stripRightBy p (s.dropWhile p)

theorem infix_stripBy (p : Char → Bool) (s : List Char) : stripBy p s <:+: s :=
  (prefix_stripBy p s).isInfix.trans (List.dropWhile_suffix p).isInfix

theorem mem_of_mem_stripBy {p : Char → Bool} {s : List Char} {c : Char} (h : c ∈ stripBy p s) : c ∈ s :=
  (infix_stripBy p s).subset h

theorem stripBy_eq_nil_iff {p : Char → Bool} {s : List Char} : stripBy p s = [] ↔ ∀ c ∈ s, p c := by
  unfold stripBy
  rw [List.reverse_eq_nil_iff, List.dropWhile_eq_nil_iff]
  constructor
  · intro h
    refine List.dropWhile_eq_nil_iff.1 (by_contra fun hne => ?_)
    -- What is left begins with a character that stays, but all that is left goes at the other end.
    have hhead := List.head_dropWhile_not p hne
    rw [h _ (List.mem_reverse.2 (List.head_mem hne))] at hhead
    cases hhead
  · intro h c hc
    exact h c ((List.dropWhile_suffix p).subset (List.mem_reverse.1 hc))

theorem eq_space_of_mem_squeeze {inRun : Bool} {s : List Char} {c : Char} (h : c ∈ squeeze inRun s)
    (hblank : isBlank c) : c = ' ' := by
  fun_induction squeeze inRun s <;> grind

/-- The only blanks of a text on one line are spaces. -/
theorem eq_space_of_mem_oneLine {s : List Char} {c : Char} (h : c ∈ oneLine s) (hblank : isBlank c) : c = ' ' :=
  eq_space_of_mem_squeeze (mem_of_mem_stripBy h) hblank

/-! ## Replacing -/

theorem mem_replaceFrom {old new : List Char} {skip : Nat} {s : List Char} {c : Char}
    (h : c ∈ replaceFrom old new skip s) : c ∈ new ∨ c ∈ s := by
  fun_induction replaceFrom old new skip s <;> grind

theorem mem_replace {old new s : List Char} {c : Char} (h : c ∈ replace old new s) : c ∈ new ∨ c ∈ s :=
  mem_replaceFrom h

theorem replaceFrom_length (old new u s : List Char) :
    replaceFrom old new u.length (u ++ s) = replaceFrom old new 0 s := by
  induction u with
  | nil => rfl
  | cons c u ih => simp [replaceFrom, ih]

theorem replace_append_self {old : List Char} (hne : old ≠ []) (new s : List Char) :
    replace old new (old ++ s) = new ++ replace old new s := by
  cases old with
  | nil => exact absurd rfl hne
  | cons a p =>
    have hstart : (a :: p).isPrefixOf (a :: (p ++ s)) = true := List.isPrefixOf_iff_prefix.2 ⟨s, rfl⟩
    have hskip : replaceFrom (a :: p) new p.length (p ++ s) = replaceFrom (a :: p) new 0 s := replaceFrom_length _ _ _ _
    simp [replace, replaceFrom, hstart, hskip]

/-- Nothing is replaced where no old text starts. -/
theorem replace_cons_of_not_begins {old s : List Char} {c : Char} (h : ¬old <+: c :: s) (new : List Char) :
    replace old new (c :: s) = c :: replace old new s := by
  have hstart : old.isPrefixOf (c :: s) = false := Bool.eq_false_iff.2 fun hp => h (List.isPrefixOf_iff_prefix.1 hp)
  simp [replace, replaceFrom, hstart]

theorem replace_append_of_not_mem {a : Char} {u : List Char} (h : a ∉ u) (p new s : List Char) :
    replace (a :: p) new (u ++ s) = u ++ replace (a :: p) new s := by
  induction u with
  | nil => rfl
  | cons c u ih =>
    have hstart : ¬a :: p <+: c :: (u ++ s) := fun hp => List.ne_of_not_mem_cons h (List.cons_prefix_cons.1 hp).1
    rw [List.cons_append, replace_cons_of_not_begins hstart, ih (List.not_mem_of_not_mem_cons h), List.cons_append]

/-! ## Patterns -/

section

variable {α : Type}

theorem prefix_of_prefix_append_cons {p s u : List α} {c : α} (hc : c ∉ p) (h : p <+: s ++ c :: u) : p <+: s := by
  rcases List.prefix_or_prefix_of_prefix h (List.prefix_append s _) with hshort | ⟨q, rfl⟩
  · exact hshort
  · rw [List.prefix_append_right_inj] at h
    cases q with
    | nil => simp
    | cons b q =>
      obtain ⟨rfl, -⟩ := List.cons_prefix_cons.1 h
      exact absurd (List.mem_append_right s List.mem_cons_self) hc

/-- A pattern is on one side of a character that it has not. -/
theorem infix_append_cons_iff {p : List α} {c : α} (hc : c ∉ p) (s u : List α) :
    p <:+: s ++ c :: u ↔ p <:+: s ∨ p <:+: u := by
  constructor
  · intro h
    induction s with
    | nil =>
      rcases List.infix_cons_iff.1 h with hstart | hrest
      · exact Or.inl (prefix_of_prefix_append_cons (s := []) hc hstart).isInfix
      · exact Or.inr hrest
    | cons d s ih =>
      rcases List.infix_cons_iff.1 h with hstart | hrest
      · exact Or.inl (prefix_of_prefix_append_cons (s := d :: s) hc hstart).isInfix
      · exact (ih hrest).imp_left fun hs => hs.trans (List.suffix_cons d s).isInfix
  · rintro (h | h)
    · exact h.trans (List.prefix_append s _).isInfix
    · exact h.trans ((List.suffix_cons c u).trans (List.suffix_append s _)).isInfix

theorem prefix_of_prefix_append_pair {p s u : List α} {a b : α} (hab : ¬[a, b] <:+: p) (h : p <+: s ++ a :: b :: u) :
    p <+: s ++ [a] := by
  rw [List.append_cons] at h
  rcases List.prefix_or_prefix_of_prefix h (List.prefix_append (s ++ [a]) (b :: u)) with hshort | ⟨q, rfl⟩
  · exact hshort
  · rw [List.prefix_append_right_inj] at h
    cases q with
    | nil => simp
    | cons d q =>
      obtain ⟨rfl, -⟩ := List.cons_prefix_cons.1 h
      exact absurd ⟨s, q, by simp⟩ hab

/-- A pattern without a pair is on one side of the cut between the two. -/
theorem infix_append_pair_iff {p : List α} {a b : α} (hab : ¬[a, b] <:+: p) (s u : List α) :
    p <:+: s ++ a :: b :: u ↔ p <:+: s ++ [a] ∨ p <:+: b :: u := by
  constructor
  · intro h
    induction s with
    | nil =>
      rcases List.infix_cons_iff.1 h with hstart | hrest
      · exact Or.inl (prefix_of_prefix_append_pair (s := []) hab hstart).isInfix
      · exact Or.inr hrest
    | cons d s ih =>
      rcases List.infix_cons_iff.1 h with hstart | hrest
      · exact Or.inl (prefix_of_prefix_append_pair (s := d :: s) hab hstart).isInfix
      · exact (ih hrest).imp_left fun hs => hs.trans (List.suffix_cons d _).isInfix
  · rintro (h | h)
    · rw [List.append_cons]
      exact h.trans (List.prefix_append _ _).isInfix
    · exact h.trans ((List.suffix_cons a _).trans (List.suffix_append s _)).isInfix

/-- Two neighbours after a map come from two neighbours. -/
theorem pair_infix_map_iff {β : Type} {f : α → β} {xs : List α} {b d : β} :
    [b, d] <:+: xs.map f ↔ ∃ x y, [x, y] <:+: xs ∧ f x = b ∧ f y = d := by
  rw [List.infix_map_iff]
  constructor
  · rintro ⟨l, hl, heq⟩
    match l with
    | [x, y] =>
      obtain ⟨hx, hy⟩ := List.cons.inj heq
      exact ⟨x, y, hl, hx.symm, (List.cons.inj hy).1.symm⟩
  · rintro ⟨x, y, hxy, rfl, rfl⟩
    exact ⟨[x, y], hxy, rfl⟩

end

theorem head?_replaceFrom (a : Char) (old new s : List Char) :
    (replaceFrom (a :: old) (a :: new) 0 s).head? = s.head? := by
  cases s with
  | nil => rfl
  | cons c s =>
    unfold replaceFrom
    rw [if_neg (Nat.lt_irrefl 0)]
    split
    · rename_i hstart
      rw [List.isPrefixOf_iff_prefix] at hstart
      exact congrArg some (List.cons_prefix_cons.1 hstart).1
    · rfl

theorem pair_prefix_cons_iff {a b c : Char} {s : List Char} : [a, b] <+: c :: s ↔ a = c ∧ s.head? = some b := by
  cases s with
  | nil => simp
  | cons d s => simp [eq_comm]

/-- No two characters are left together that are replaced by themselves with a space between. -/
theorem not_infix_replace {a b : Char} (hab : a ≠ b) (ha : a ≠ ' ') (hb : b ≠ ' ') (s : List Char) :
    ¬[a, b] <:+: replace [a, b] [a, ' ', b] s := by
  unfold replace
  generalize 0 = skip
  induction s generalizing skip with
  | nil => simp [replaceFrom]
  | cons c s ih =>
    unfold replaceFrom
    split
    · exact ih _
    split
    · simp [List.infix_cons_iff, hab, ha, hb, ih]
    · rename_i hstart
      rw [List.isPrefixOf_iff_prefix, pair_prefix_cons_iff] at hstart
      rw [List.infix_cons_iff, pair_prefix_cons_iff, head?_replaceFrom]
      exact not_or.2 ⟨hstart, ih 0⟩

/-! ## Numbers -/

/-- No number has a character in it that is no digit. -/
theorem inBase?_eq_none {base : Nat} {s : List Char} (h : ∃ c ∈ s, hexValue? c = none) :
    inBase? base s = none := by
  obtain ⟨c, hc, hvalue⟩ := h
  obtain ⟨before, after, rfl⟩ := List.append_of_mem hc
  let digit (acc : Option Nat) (c : Char) : Option Nat := do
    let n ← acc
    let d ← hexValue? c
    if d < base then return n * base + d else none
  have hdigit : ∀ acc, digit acc c = none := by
    intro acc
    cases acc <;> simp [digit, hvalue]
  have hnone : ∀ u : List Char, u.foldl digit none = none := by
    intro u
    induction u with
    | nil => rfl
    | cons d u ih => exact ih
  unfold inBase?
  rw [List.foldl_append, List.foldl_cons]
  show (if _ then _ else after.foldl digit (digit _ c)) = none
  rw [hdigit, hnone, ite_self]

end Text

/-! ## Cutting -/

theorem splitAt_ne_nil (c : Char) (s : List Char) : Text.splitAt c s ≠ [] := by
  cases s with
  | nil => simp [Text.splitAt]
  | cons d s =>
    unfold Text.splitAt
    split
    · simp
    · split <;> simp

/-- The pieces of a text with the cuts between them are the text. -/
theorem intercalate_splitAt (c : Char) (s : List Char) : [c].intercalate (Text.splitAt c s) = s := by
  induction s with
  | nil => rfl
  | cons d s ih =>
    unfold Text.splitAt
    split
    · rename_i hd
      rw [List.intercalate_cons_of_ne_nil (splitAt_ne_nil c s), ih, hd]
      rfl
    · split
      · rename_i hnil
        exact absurd hnil (splitAt_ne_nil c s)
      · rename_i piece pieces hpieces
        rw [List.intercalate_cons_cons_left, ← hpieces, ih]

/-- A character that is no separator goes to the first piece. -/
theorem splitAt_cons_of_ne {c d : Char} (h : d ≠ c) {s piece : List Char} {pieces : List (List Char)}
    (hs : Text.splitAt c s = piece :: pieces) : Text.splitAt c (d :: s) = (d :: piece) :: pieces := by
  rw [Text.splitAt, if_neg h, hs]

/-- A text is cut first where its first separator is. -/
theorem splitAt_append {c : Char} {p : List Char} (h : c ∉ p) (s : List Char) :
    Text.splitAt c (p ++ c :: s) = p :: Text.splitAt c s := by
  induction p with
  | nil => simp [Text.splitAt]
  | cons d p ih =>
    exact splitAt_cons_of_ne (List.ne_of_not_mem_cons h).symm (ih (List.not_mem_of_not_mem_cons h))

theorem splitAt_of_not_mem {c : Char} {p : List Char} (h : c ∉ p) : Text.splitAt c p = [p] := by
  induction p with
  | nil => rfl
  | cons d p ih =>
    exact splitAt_cons_of_ne (List.ne_of_not_mem_cons h).symm (ih (List.not_mem_of_not_mem_cons h))

/-- Pieces without a separator are cut apart again where they were joined. -/
theorem splitAt_join {c : Char} {ps : List (List Char)} (hne : ps ≠ []) (h : ∀ p ∈ ps, c ∉ p) :
    Text.splitAt c (Text.join [c] ps) = ps := by
  induction ps with
  | nil => exact absurd rfl hne
  | cons p ps ih =>
    obtain ⟨hp, hps⟩ := List.forall_mem_cons.1 h
    cases ps with
    | nil => exact splitAt_of_not_mem hp
    | cons q ps =>
      rw [Text.join, List.append_assoc, List.singleton_append, splitAt_append hp, ih (by simp) hps]

end ClientForge
