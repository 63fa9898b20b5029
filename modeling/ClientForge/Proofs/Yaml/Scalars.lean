import ClientForge.Proofs.Json.Literal
import ClientForge.Proofs.Json.Reading
import ClientForge.Proofs.Text
import ClientForge.Yaml.Scalar

/-!
Scalars of JSON texts, as they are read in YAML. Of a text between double quotes the two languages read
the same part; what they make of it can differ, as line ends are folded, but not if all of it is letters
(`quotedScalar_of_readUnits`). A word or number is a plain scalar, which ends where the word or number
does, but for blanks (`plainScalar_of_takesScalar`).
-/

namespace ClientForge.Yaml

open Json (TakesScalar isScalarChar skipBlanks isBlank readUnits unescape?)

/-! ## Skipping -/

/-- Blanks and line ends. -/
def isGap (c : Char) : Bool := c == ' ' || c == '\t' || isBreak c

/-- From the first place to the second there are only blanks and line ends. -/
def Skips (c d : Cursor) : Prop := ∃ ws, c.rest = ws ++ d.rest ∧ ∀ w ∈ ws, isGap w = true

theorem Skips.refl (c : Cursor) : Skips c c := ⟨[], rfl, List.forall_mem_nil _⟩

theorem Skips.trans {c d e : Cursor} (h : Skips c d) (h' : Skips d e) : Skips c e := by
  obtain ⟨ws, hws, hgap⟩ := h
  obtain ⟨us, hus, hgap'⟩ := h'
  exact ⟨ws ++ us, by rw [hws, hus, List.append_assoc], List.forall_mem_append.2 ⟨hgap, hgap'⟩⟩

theorem rest_step (c : Cursor) : c.step.rest = c.rest.tail := by
  unfold Cursor.step
  split
  · rename_i h
    rw [h, List.tail_nil]
  · rename_i h
    rw [h, List.tail_cons]
  · rename_i h
    rw [h, List.tail_cons]
    split
    · rfl
    · split <;> rfl

theorem rest_steps (n : Nat) (c : Cursor) : (c.steps n).rest = c.rest.drop n := by
  induction n generalizing c with
  | zero => rfl
  | succ n ih => rw [Cursor.steps, ih, rest_step, List.drop_tail]

theorem rest_span (p : Char → Bool) (c : Cursor) : (c.span p).2.rest = c.rest.dropWhile p := by
  have hdrop : (c.rest.takeWhile p ++ c.rest.dropWhile p).drop (c.rest.takeWhile p).length = c.rest.dropWhile p :=
    List.drop_left
  rw [List.takeWhile_append_dropWhile] at hdrop
  rw [← hdrop]
  exact rest_steps _ c

theorem skips_span {p : Char → Bool} (hp : ∀ c, p c = true → isGap c = true) (c : Cursor) :
    Skips c (c.span p).2 := by
  refine ⟨c.rest.takeWhile p, ?_, fun w hw => hp w (List.mem_takeWhile_imp hw)⟩
  rw [rest_span, List.takeWhile_append_dropWhile]

theorem skips_skipSpaces (c : Cursor) : Skips c c.skipSpaces :=
  skips_span (by simp [isGap]) c

/-- A line end is skipped. What it is read as is a line end too. -/
theorem skips_lineBreak? {c next : Cursor} {b : Char} (h : c.lineBreak? = some (b, next)) :
    Skips c next ∧ isBreak b = true := by
  unfold Cursor.lineBreak? at h
  split at h
  · rename_i s hrest
    cases h
    refine ⟨⟨['\r', '\n'], ?_, List.all_eq_true.1 rfl⟩, rfl⟩
    rw [rest_steps, hrest]
    rfl
  · rename_i ch s _ hrest
    have hone : isBreak ch = true → Skips c c.step := by
      intro hbreak
      refine ⟨[ch], ?_, List.forall_mem_singleton.2 (by simp [isGap, hbreak])⟩
      rw [rest_step, hrest]
      rfl
    split at h
    · rename_i hsep
      cases h
      simp only [Bool.or_eq_true, decide_eq_true_eq] at hsep
      have hbreak : isBreak b = true := by rcases hsep with rfl | rfl <;> rfl
      exact ⟨hone hbreak, hbreak⟩
    · split at h
      · rename_i hbreak
        cases h
        exact ⟨hone hbreak, rfl⟩
      · cases h
  · cases h

theorem skips_quotedBreaks {fuel : Nat} {c next : Cursor} {bs : List Char}
    (h : quotedBreaks fuel c = .ok (bs, next)) : Skips c next ∧ ∀ b ∈ bs, isBreak b = true := by
  induction fuel generalizing c bs with
  | zero =>
    cases h
    exact ⟨.refl _, List.forall_mem_nil _⟩
  | succ fuel ih =>
    unfold quotedBreaks at h
    split at h
    · cases h
    · have hblanks : Skips c (c.skip fun ch => ch == ' ' || ch == '\t') :=
        skips_span (by simp +contextual [isGap]) c
      simp only at h
      split at h
      · rename_i b after hbreak
        obtain ⟨⟨bs', last⟩, hmore, heq⟩ := map_eq_ok.1 h
        cases heq
        obtain ⟨hskip, hb⟩ := skips_lineBreak? hbreak
        obtain ⟨hskip', hbs⟩ := ih hmore
        exact ⟨hblanks.trans (hskip.trans hskip'), List.forall_mem_cons.2 ⟨hb, hbs⟩⟩
      · cases h
        exact ⟨hblanks, List.forall_mem_nil _⟩

theorem skips_plainBreaks (fuel : Nat) (c : Cursor) : Skips c (plainBreaks fuel c).2 := by
  induction fuel generalizing c with
  | zero => exact .refl c
  | succ fuel ih =>
    unfold plainBreaks
    simp only
    split
    · rename_i b next hbreak
      have hskip := (skips_skipSpaces c).trans (skips_lineBreak? hbreak).1
      split
      · exact hskip
      · exact hskip.trans (ih next)
    · exact skips_skipSpaces c

theorem skips_plainGap (fuel : Nat) (c : Cursor) : Skips c (plainGap fuel c).2.2 := by
  have hspaces : Skips c (c.span (· == ' ')).2 := skips_span (by simp [isGap]) c
  unfold plainGap
  simp only
  split
  · rename_i b next hbreak
    have hskip := hspaces.trans (skips_lineBreak? hbreak).1
    split
    · exact hskip
    · exact hskip.trans (skips_plainBreaks fuel next)
  · exact hspaces

/-! ## Blanks of JSON -/

/-- The text starts with something to read, or it is at its end: no blank, no line end and no comment. -/
def Solid (t : List Char) : Prop := ∀ c u, t = c :: u → isGap c = false ∧ c ≠ '#'

theorem skipBlanks_cons_of_isBlank {c : Char} (h : isBlank c = true) (s : List Char) :
    skipBlanks (c :: s) = skipBlanks s := by
  rw [skipBlanks, skipBlanks, List.dropWhile_cons_of_pos h]

theorem skipBlanks_cons_of_not_isBlank {c : Char} (h : ¬isBlank c = true) (s : List Char) :
    skipBlanks (c :: s) = c :: s := by
  rw [skipBlanks, List.dropWhile_cons_of_neg h]

/-- Where something to read comes after the blanks, it still does after blanks and line ends are skipped. -/
theorem skipBlanks_of_skips {c d : Cursor} (h : Skips c d) (hsolid : Solid (skipBlanks c.rest)) :
    skipBlanks d.rest = skipBlanks c.rest := by
  obtain ⟨ws, hws, hgap⟩ := h
  rw [hws] at hsolid ⊢
  clear hws
  induction ws with
  | nil => rfl
  | cons w ws ih =>
    obtain ⟨hw, hgap⟩ := List.forall_mem_cons.1 hgap
    by_cases hblank : isBlank w = true
    · rw [List.cons_append, skipBlanks_cons_of_isBlank hblank] at hsolid ⊢
      exact ih hsolid hgap
    · rw [List.cons_append, skipBlanks_cons_of_not_isBlank hblank] at hsolid
      rw [(hsolid w _ rfl).1] at hw
      cases hw

/-! ## Texts between quotes -/

/-- Characters that are all letters are those of the units. -/
def Agree (chars : List Char) (units : List Nat) : Prop :=
  (∀ c ∈ chars, c.isAlpha = true) → units = chars.map Char.toNat

theorem Agree.cons {c : Char} {n : Nat} {chars : List Char} {units : List Nat} (h : Agree chars units)
    (hc : c.isAlpha = true → n = c.toNat) : Agree (c :: chars) (n :: units) := by
  intro hall
  obtain ⟨hfirst, hall⟩ := List.forall_mem_cons.1 hall
  rw [List.map_cons, hc hfirst, h hall]

theorem Agree.reverse {chars : List Char} {units : List Nat} (h : Agree chars units) :
    Agree chars.reverse units.reverse := by
  intro hall
  rw [h fun c hc => hall c (List.mem_reverse.2 hc), List.map_reverse]

theorem Agree.append_map {chars : List Char} {units : List Nat} (h : Agree chars units) (more : List Char) :
    Agree (more ++ chars) (more.map Char.toNat ++ units) := by
  intro hall
  rw [h fun c hc => hall c (List.mem_append_right _ hc), List.map_append]

theorem agree_of_mem {chars : List Char} {c : Char} (hc : c ∈ chars) (hletter : c.isAlpha = false)
    (units : List Nat) : Agree chars units := by
  intro hall
  rw [hall c hc] at hletter
  cases hletter

theorem isAlpha_of_isBreak {c : Char} (h : isBreak c = true) : c.isAlpha = false := by
  simp only [isBreak, Bool.or_eq_true, beq_iff_eq] at h
  rcases h with (((rfl | rfl) | rfl) | rfl) | rfl <;> decide

/-- What is read of a text between quotes, character by character. -/
theorem readUnits_cases {acc units : List Nat} {s rest : List Char}
    (h : readUnits acc s = .ok (units, rest)) :
    (s = '"' :: rest ∧ units = acc.reverse) ∨
      (∃ a b c d t n, s = '\\' :: 'u' :: a :: b :: c :: d :: t ∧ Text.inBase? 16 [a, b, c, d] = some n ∧
        readUnits (n :: acc) t = .ok (units, rest)) ∨
      (∃ e c t, s = '\\' :: e :: t ∧ unescape? e = some c ∧ readUnits (c.toNat :: acc) t = .ok (units, rest)) ∨
      ∃ c t, s = c :: t ∧ c ≠ '"' ∧ c ≠ '\\' ∧ readUnits (c.toNat :: acc) t = .ok (units, rest) := by
  unfold readUnits at h
  split at h
  · cases h
  · cases h
    exact .inl ⟨rfl, rfl⟩
  · cases h
  · rename_i a b c d t
    split at h
    · rename_i n hn
      split at h
      · cases h
      · exact .inr (.inl ⟨a, b, c, d, t, n, rfl, hn, h⟩)
    · cases h
  · cases h
  · rename_i e t _ _
    split at h
    · rename_i c hc
      exact .inr (.inr (.inl ⟨e, c, t, rfl, hc, h⟩))
    · cases h
  · rename_i c t hquote hend _ _ hslash
    split at h
    · cases h
    · have hne : c ≠ '\\' := by
        rintro rfl
        cases t with
        | nil => exact hend rfl rfl
        | cons e t => exact hslash e t rfl rfl
      exact .inr (.inr (.inr ⟨c, t, rfl, hquote, hne, h⟩))

/-- Blanks and line ends stand for themselves. -/
theorem readUnits_append {ws s rest : List Char} {acc units : List Nat} (hws : ∀ w ∈ ws, isGap w = true)
    (h : readUnits acc (ws ++ s) = .ok (units, rest)) :
    readUnits (ws.reverse.map Char.toNat ++ acc) s = .ok (units, rest) := by
  induction ws generalizing acc with
  | nil => exact h
  | cons w ws ih =>
    obtain ⟨hw, hws⟩ := List.forall_mem_cons.1 hws
    have hnext : readUnits (w.toNat :: acc) (ws ++ s) = .ok (units, rest) := by
      rcases readUnits_cases h with ⟨heq, -⟩ | ⟨_, _, _, _, _, _, heq, -⟩ | ⟨_, _, _, heq, -⟩ | ⟨_, _, heq, -, -, h⟩
      · obtain ⟨rfl, -⟩ := List.cons.inj heq
        cases hw
      · obtain ⟨rfl, -⟩ := List.cons.inj heq
        cases hw
      · obtain ⟨rfl, -⟩ := List.cons.inj heq
        cases hw
      · cases heq
        exact h
    have hmore := ih hws hnext
    rw [List.reverse_cons, List.map_append, List.append_assoc]
    exact hmore

theorem readUnits_of_skips {c d : Cursor} {acc units : List Nat} {rest : List Char} (hskip : Skips c d)
    (h : readUnits acc c.rest = .ok (units, rest)) :
    ∃ ws : List Char, readUnits (ws.map Char.toNat ++ acc) d.rest = .ok (units, rest) := by
  obtain ⟨ws, hws, hgap⟩ := hskip
  rw [hws] at h
  exact ⟨_, readUnits_append hgap h⟩

theorem escape?_of_unescape? {e c : Char} (h : unescape? e = some c) : escape? e = some c := by
  unfold unescape? at h
  split at h <;> cases h <;> rfl

/-- The character of a code is the one with that number, if it is a letter. -/
theorem toNat_of_charOf {n : Nat} {c : Char} (h : charOf n = .ok c) (hc : c.isAlpha = true) : n = c.toNat := by
  unfold charOf at h
  split at h
  · split at h
    · cases h
      cases hc
    · cases h
      have hvalid : n.isValidChar := by
        simp only [Bool.and_eq_true, decide_eq_true_eq] at *
        rw [Nat.isValidChar]
        omega
      exact (Text.toNat_ofNat hvalid).symm
  · split at h <;> cases h

/-- Where a line ends inside quotes, something is read that is no letter. -/
theorem exists_mem_fold {b : Char} {bs : List Char} (hb : isBreak b = true) (hbs : ∀ d ∈ bs, isBreak d = true) :
    ∃ c ∈ fold b bs, c.isAlpha = false := by
  unfold fold
  split
  · exact ⟨b, List.mem_cons_self, isAlpha_of_isBreak hb⟩
  · cases bs with
    | nil => exact ⟨' ', List.mem_cons_self, rfl⟩
    | cons d bs => exact ⟨d, List.mem_cons_self, isAlpha_of_isBreak (hbs d List.mem_cons_self)⟩

theorem quotedScalar_escape {c : Cursor} {e ch : Char} {t : List Char} (hrest : c.rest = '\\' :: e :: t)
    (he : escape? e = some ch) (fuel : Nat) (acc : List Char) :
    quotedScalar true (fuel + 1) acc c = quotedScalar true fuel (ch :: acc) (c.steps 2) := by
  simp only [quotedScalar, hrest, he]
  rfl

/-- A code is that of a character, or it is no code in YAML. -/
theorem quotedScalar_code {c next : Cursor} {a b x y : Char} {t acc text : List Char} {n fuel : Nat}
    (hrest : c.rest = '\\' :: 'u' :: a :: b :: x :: y :: t) (hn : Text.inBase? 16 [a, b, x, y] = some n)
    (h : quotedScalar true (fuel + 1) acc c = .ok (text, next)) :
    ∃ ch, charOf n = .ok ch ∧ quotedScalar true fuel (ch :: acc) (c.steps 6) = .ok (text, next) := by
  have hescape : escape? 'u' = none := rfl
  have hwidth : escapeWidth? 'u' = some 4 := rfl
  have htake : List.take 4 (a :: b :: x :: y :: t) = [a, b, x, y] := rfl
  simp only [quotedScalar, hrest, hescape, hwidth, htake, hn, Bool.not_true, Bool.false_eq_true, if_false] at h
  split at h
  · cases h
  · split at h
    · rename_i ch hch
      exact ⟨ch, hch, h⟩
    · cases h

/-- A run of blanks is taken as it is, or a line end in it is folded; any other character is taken. -/
theorem quotedScalar_char {c next : Cursor} {ch : Char} {t acc text : List Char} {fuel : Nat}
    (hrest : c.rest = ch :: t) (hquote : ch ≠ '"') (hslash : ch ≠ '\\')
    (h : quotedScalar true (fuel + 1) acc c = .ok (text, next)) :
    quotedScalar true fuel (ch :: acc) c.step = .ok (text, next) ∨
      ∃ more d, quotedScalar true fuel (more ++ acc) d = .ok (text, next) ∧ Skips c d ∧
        ((∃ e ∈ more, e.isAlpha = false) ∨ c.rest = more.reverse ++ d.rest) := by
  unfold quotedScalar at h
  rw [hrest] at h
  split at h
  · cases h
  · rename_i heq
    cases heq
    exact .inl h
  · rename_i heq
    cases heq
    exact absurd rfl hquote
  · rename_i heq
    cases heq
    exact absurd rfl hslash
  · rename_i heq
    cases heq
    split at h
    · have hblanks : Skips c (c.span fun ch => ch == ' ' || ch == '\t').2 :=
        skips_span (by simp +contextual [isGap]) c
      simp only at h
      split at h
      · rename_i b after hbreak
        obtain ⟨hskip, hb⟩ := skips_lineBreak? hbreak
        split at h
        · rename_i bs last hmore
          obtain ⟨hskip', hbs⟩ := skips_quotedBreaks hmore
          obtain ⟨e, he, hletter⟩ := exists_mem_fold hb hbs
          exact .inr ⟨_, _, h, hblanks.trans (hskip.trans hskip'), .inl ⟨e, List.mem_reverse.2 he, hletter⟩⟩
        · cases h
      · refine .inr ⟨_, _, h, hblanks, .inr ?_⟩
        rw [List.reverse_reverse, rest_span]
        exact List.takeWhile_append_dropWhile.symm
    · exact .inl h

/-- Of a text between double quotes that is one in JSON, what is read in YAML ends in the same place, and
has the same letters if it has nothing else. -/
theorem quotedScalar_of_readUnits {fuel : Nat} {acc text rest : List Char} {units found : List Nat}
    {c next : Cursor} (hagree : Agree acc units) (hread : readUnits units c.rest = .ok (found, rest))
    (h : quotedScalar true fuel acc c = .ok (text, next)) : next.rest = rest ∧ Agree text found := by
  induction fuel generalizing acc units c with
  | zero => cases h
  | succ fuel ih =>
    rcases readUnits_cases hread with ⟨hrest, rfl⟩ | ⟨a, b, x, y, t, n, hrest, hn, hmore⟩ |
      ⟨e, ch, t, hrest, hch, hmore⟩ | ⟨ch, t, hrest, hquote, hslash, hmore⟩
    · simp only [quotedScalar, hrest, if_true] at h
      cases h
      rw [rest_step, hrest]
      exact ⟨rfl, hagree.reverse⟩
    · obtain ⟨ch, hch, h⟩ := quotedScalar_code hrest hn h
      refine ih (hagree.cons fun hletter => toNat_of_charOf hch hletter) ?_ h
      rw [rest_steps, hrest]
      exact hmore
    · rw [quotedScalar_escape hrest (escape?_of_unescape? hch)] at h
      refine ih (hagree.cons fun _ => rfl) ?_ h
      rw [rest_steps, hrest]
      exact hmore
    · rcases quotedScalar_char hrest hquote hslash h with h | ⟨more, d, h, hskip, ⟨e, he, hletter⟩ | hsame⟩
      · refine ih (hagree.cons fun _ => rfl) ?_ h
        rw [rest_step, hrest]
        exact hmore
      · obtain ⟨ws, hws⟩ := readUnits_of_skips hskip hread
        exact ih (agree_of_mem (List.mem_append_left _ he) hletter _) hws h
      · obtain ⟨ws, hws, hgap⟩ := hskip
        obtain rfl : ws = more.reverse := List.append_cancel_right (hws.symm.trans hsame)
        rw [hsame] at hread
        have hws := readUnits_append hgap hread
        rw [List.reverse_reverse] at hws
        exact ih (hagree.append_map more) hws h

/-! ## Words and numbers -/

/-- What comes after a value, but for blanks: nothing, or in a collection the sign that goes on or ends. -/
def Follows (inFlow : Bool) (t : List Char) : Prop :=
  t = [] ∨ inFlow = true ∧ ∃ c u, t = c :: u ∧ (c = ',' ∨ c = ']' ∨ c = '\x7d')

theorem Follows.solid {inFlow : Bool} {t : List Char} (h : Follows inFlow t) : Solid t := by
  rcases h with rfl | ⟨-, c, u, rfl, hc⟩
  · exact fun _ _ hnil => nomatch hnil
  · intro d v heq
    cases heq
    rcases hc with rfl | rfl | rfl <;> decide

theorem plainStops_of_follows {inFlow : Bool} {s : List Char} (h : Follows inFlow (skipBlanks s)) :
    plainStops inFlow s = true := by
  cases s with
  | nil => rfl
  | cons c s =>
    by_cases hblank : isBlank c = true
    · simp only [isBlank, Bool.or_eq_true, beq_iff_eq] at hblank
      rcases hblank with ((rfl | rfl) | rfl) | rfl <;> rfl
    · rw [skipBlanks_cons_of_not_isBlank hblank] at h
      rcases h with h | ⟨rfl, d, u, heq, hc⟩
      · cases h
      · cases heq
        rcases hc with rfl | rfl | rfl <;> simp [plainStops, isFlowSign]

theorem plainStops_cons_of_isScalarChar {inFlow : Bool} {c : Char} (h : isScalarChar c = true) (s : List Char) :
    plainStops inFlow (c :: s) = false := by
  have hne : ∀ d : Char, isScalarChar d = false → c ≠ d := by
    rintro d hd rfl
    rw [hd] at h
    cases h
  have hbreak : isBreak c = false := by
    simp [isBreak, hne '\n' rfl, hne '\r' rfl, hne '\u0085' rfl, hne '\u2028' rfl, hne '\u2029' rfl]
  have hsign : isFlowSign c = false := by
    simp [isFlowSign, hne ',' rfl, hne '[' rfl, hne ']' rfl, hne '\x7b' rfl, hne '\x7d' rfl]
  simp [plainStops, hbreak, hsign, hne ' ' rfl, hne '\t' rfl, hne ':' rfl, hne '?' rfl]

/-- The characters of a word or number are one run. -/
theorem plainRun_append {inFlow : Bool} {w s : List Char} (hw : ∀ c ∈ w, isScalarChar c = true)
    (hs : plainStops inFlow s = true) : plainRun inFlow (w ++ s) = w := by
  induction w with
  | nil =>
    cases s with
    | nil => rfl
    | cons c s => rw [List.nil_append, plainRun, if_pos hs]
  | cons c w ih =>
    obtain ⟨hc, hw⟩ := List.forall_mem_cons.1 hw
    have hgoes : plainStops inFlow (c :: (w ++ s)) = false := plainStops_cons_of_isScalarChar hc (w ++ s)
    rw [List.cons_append, plainRun, if_neg (by simp [hgoes]), ih hw]

theorem plainScalar_of_follows {inFlow : Bool} {c : Cursor} (h : Follows inFlow (skipBlanks c.rest)) (indent : Int)
    (fuel : Nat) (acc gap : List Char) (broken : Bool) :
    plainScalar inFlow indent fuel acc gap broken c = (acc, broken, c) := by
  cases fuel with
  | zero => rfl
  | succ fuel =>
    have hrun : plainRun inFlow c.rest = [] :=
      plainRun_append (w := []) (List.forall_mem_nil _) (plainStops_of_follows h)
    simp [plainScalar, hrun]

/-- A word or number is a plain scalar, after which only blanks are skipped. -/
theorem plainScalar_of_takesScalar {inFlow : Bool} {c : Cursor} {w rest : List Char} (hrest : c.rest = w ++ rest)
    (hw : ∀ d ∈ w, isScalarChar d = true) (hne : w ≠ []) (hfollow : Follows inFlow (skipBlanks rest))
    (indent : Int) (fuel : Nat) :
    skipBlanks (plainScalar inFlow indent (fuel + 1) [] [] false c).2.2.rest = skipBlanks rest := by
  have hrun : plainRun inFlow (w ++ rest) = w := plainRun_append hw (plainStops_of_follows hfollow)
  have hhead : (w ++ rest).head? ≠ some '#' := by
    obtain ⟨d, w, rfl⟩ := List.exists_cons_of_ne_nil hne
    intro hcomment
    obtain rfl := Option.some.inj hcomment
    exact absurd (hw '#' List.mem_cons_self) (by decide)
  have hafter : (c.steps w.length).rest = rest := by
    rw [rest_steps, hrest, List.drop_left]
  have hgap : skipBlanks (plainGap fuel (c.steps w.length)).2.2.rest = skipBlanks rest := by
    rw [skipBlanks_of_skips (skips_plainGap fuel _) (by rw [hafter]; exact hfollow.solid), hafter]
  unfold plainScalar
  simp only [hrest, if_neg hhead, hrun, List.isEmpty_iff, if_neg hne]
  split
  · exact hgap
  · rw [plainScalar_of_follows (by rw [hgap]; exact hfollow)]
    exact hgap

end ClientForge.Yaml
