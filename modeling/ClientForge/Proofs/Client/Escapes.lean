import ClientForge.Proofs.Client.CommentForm
import ClientForge.Proofs.Client.Comments
import ClientForge.Proofs.SavedValue

/-!
Comments in Java once Unicode escapes are translated, which comes before comments are recognised. Each sign of a text
is a character, an escape, or a backslash with a u after it that is refused. Putting a text into the form of a comment
touches blanks and pairs of an asterisk and a slash only, so the other signs stay, and side by side if they were so
(`infix_signs_comment`). Thus the comment of a text stays one for the compiler exactly if the escapes in the text
are harmless (`staysHidden_comment`).
-/

namespace ClientForge.Java

/-! ## Signs -/

/-- What the compiler makes of a piece of a text. -/
inductive Sign where
  | plain (c : Char)
  /-- An escape for a code unit. -/
  | escaped (unit : Nat)
  /-- A backslash with a u after it but without four hexadecimal digits, which is an error. -/
  | broken
deriving DecidableEq, Repr

/-- The code unit that the compiler reads. Beyond 16 bits a character counts as one. -/
def Sign.unit? : Sign → Option Nat
  | plain c => some c.toNat
  | escaped n => some n
  | broken => none

/-- The signs of a text. `skip` counts the characters of the last escape still to pass, and `odd` says whether an odd
number of backslashes comes before. -/
def signsFrom (skip : Nat) (odd : Bool) : List Char → List Sign
  | [] => []
  | c :: s =>
    if 0 < skip then signsFrom (skip - 1) odd s
    else if c = '\\' ∧ odd = false ∧ s.head? = some 'u' then
      match escapedUnit? s with
      | some n => .escaped n :: signsFrom ((s.takeWhile (· == 'u')).length + 4) false s
      | none => .broken :: signsFrom (s.takeWhile (· == 'u')).length false s
    else .plain c :: signsFrom 0 (c == '\\' && !odd) s

/-- The signs of a text. -/
def signs (s : List Char) : List Sign := signsFrom 0 false s

/-- The code units of a text after its escapes are translated, unless one is refused. -/
def translate? (s : List Char) : Option (List Nat) := (signs s).mapM Sign.unit?

example : translate? "a\\u002a\\\\u0041\\uu002F".toList = some ("a*\\\\u0041/".toList.map Char.toNat) := by decide

/-- Does a text stay in a comment once its escapes are translated? None is refused, no line ends in it, and it does not
close the comment. -/
def StaysHidden (s : List Char) : Prop :=
  ∃ us, translate? s = some us ∧ 0xA ∉ us ∧ 0xD ∉ us ∧ ¬[0x2A, 0x2F] <:+: us

/-- Are the escapes in a text harmless in a comment? None is refused, none is for a line end, and none makes an
asterisk with a slash after it. -/
structure Harmless (s : List Char) : Prop where
  accepted : .broken ∉ signs s
  unended : NoEscapedEnd s
  unclosing : ∀ x y, [x, y] <:+: signs s → x.unit? = some 0x2A → y.unit? = some 0x2F → x = .plain '*' ∧ y = .plain '/'

/-! ## Cutting -/

theorem length_of_escapedUnit? {s : List Char} {n : Nat} (h : escapedUnit? s = some n) :
    (s.takeWhile (· == 'u')).length + 4 ≤ s.length := by
  unfold escapedUnit? at h
  split at h
  · rename_i s
    have hsplit := congrArg List.length (List.takeWhile_append_dropWhile (p := (· == 'u')) (l := s))
    unfold startUnit? at h
    split at h
    · simp only [List.takeWhile_cons, beq_self_eq_true, if_true, List.length_cons, List.length_append] at hsplit ⊢
      omega
    · cases h
  · cases h

variable {c : Char}

theorem takeWhile_append_of_ne (hc : c ≠ 'u') (p r : List Char) :
    (p ++ c :: r).takeWhile (· == 'u') = p.takeWhile (· == 'u') := by
  induction p with
  | nil => simp [hc]
  | cons d p ih =>
    by_cases hd : d = 'u'
    · simp [hd, ih]
    · simp [hd]

/-- The signs of a text with an inert character in it are those on each side, with the character between them. -/
theorem signsFrom_append (hc : IsInert c) (p r : List Char) {skip : Nat} {odd : Bool} (hskip : skip ≤ p.length) :
    signsFrom skip odd (p ++ c :: r) = signsFrom skip odd p ++ .plain c :: signs r := by
  induction p generalizing skip odd with
  | nil =>
    have hskip : skip = 0 := by simpa using hskip
    have hbackslash : (c == '\\') = false := beq_eq_false_iff_ne.2 hc.ne_backslash
    simp [signsFrom, signs, hskip, hc.ne_backslash, hbackslash]
  | cons d p ih =>
    have hhead : (p ++ c :: r).head? = some 'u' ↔ p.head? = some 'u' := by
      cases p with
      | nil => simp [hc.ne_u]
      | cons e p => rfl
    rw [List.cons_append, signsFrom, signsFrom]
    simp only [hhead, escapedUnit?_append hc, takeWhile_append_of_ne hc.ne_u]
    by_cases hpass : 0 < skip
    · have hrest : skip - 1 ≤ p.length := by
        simp only [List.length_cons] at hskip
        omega
      simp only [if_pos hpass]
      exact ih hrest
    simp only [if_neg hpass]
    by_cases hstart : d = '\\' ∧ odd = false ∧ p.head? = some 'u'
    · simp only [if_pos hstart]
      cases hunit : escapedUnit? p with
      | none => exact congrArg (_ :: ·) (ih (List.takeWhile_prefix _).length_le)
      | some n => exact congrArg (_ :: ·) (ih (length_of_escapedUnit? hunit))
    · simp only [if_neg hstart]
      exact congrArg (_ :: ·) (ih (Nat.zero_le _))

theorem signs_append (hc : IsInert c) (p r : List Char) : signs (p ++ c :: r) = signs p ++ .plain c :: signs r :=
  signsFrom_append hc p r (Nat.zero_le _)

theorem signs_cons (hc : IsInert c) (r : List Char) : signs (c :: r) = .plain c :: signs r := signs_append hc [] r

/-! ## Characters -/

theorem mem_of_mem_signsFrom {skip : Nat} {odd : Bool} {s : List Char} (h : .plain c ∈ signsFrom skip odd s) :
    c ∈ s := by
  induction s generalizing skip odd with
  | nil => cases h
  | cons d s ih =>
    rw [signsFrom] at h
    split at h
    · exact List.mem_cons_of_mem d (ih h)
    split at h
    · split at h
      · exact List.mem_cons_of_mem d (ih (List.mem_of_ne_of_mem (by simp) h))
      · exact List.mem_cons_of_mem d (ih (List.mem_of_ne_of_mem (by simp) h))
    · rcases List.mem_cons.1 h with heq | h
      · cases heq
        exact List.mem_cons_self
      · exact List.mem_cons_of_mem d (ih h)

theorem mem_of_mem_signs {s : List Char} (h : .plain c ∈ signs s) : c ∈ s := mem_of_mem_signsFrom h

theorem head?_of_head?_signsFrom {odd : Bool} {s : List Char} (h : (signsFrom 0 odd s).head? = some (.plain c)) :
    s.head? = some c := by
  cases s with
  | nil => cases h
  | cons d s =>
    rw [signsFrom, if_neg (Nat.lt_irrefl 0)] at h
    split at h
    · split at h
      · cases h
      · cases h
    · cases h
      rfl

theorem infix_of_infix_signsFrom {a b : Char} {skip : Nat} {odd : Bool} {s : List Char}
    (h : [.plain a, .plain b] <:+: signsFrom skip odd s) : [a, b] <:+: s := by
  induction s generalizing skip odd with
  | nil => simp [signsFrom] at h
  | cons d s ih =>
    rw [signsFrom] at h
    rw [List.infix_cons_iff, Text.pair_prefix_cons_iff]
    split at h
    · exact Or.inr (ih h)
    split at h
    · split at h
      · refine Or.inr (ih ((List.infix_cons_iff.1 h).resolve_left fun hstart => ?_))
        cases (List.cons_prefix_cons.1 hstart).1
      · refine Or.inr (ih ((List.infix_cons_iff.1 h).resolve_left fun hstart => ?_))
        cases (List.cons_prefix_cons.1 hstart).1
    · rcases List.infix_cons_iff.1 h with hstart | hrest
      · obtain ⟨heq, hnext⟩ := List.cons_prefix_cons.1 hstart
        cases heq
        obtain ⟨rest, hnext⟩ := hnext
        exact Or.inl ⟨rfl, head?_of_head?_signsFrom (by rw [← hnext]; rfl)⟩
      · exact Or.inr (ih hrest)

theorem infix_of_infix_signs {a b : Char} {s : List Char} (h : [.plain a, .plain b] <:+: signs s) : [a, b] <:+: s :=
  infix_of_infix_signsFrom h

/-- Without a backslash that has a u after it, a text is as it stands. -/
theorem signsFrom_eq_map {odd : Bool} {s : List Char} (h : ¬['\\', 'u'] <:+: s) :
    signsFrom 0 odd s = s.map .plain := by
  induction s generalizing odd with
  | nil => rfl
  | cons c s ih =>
    rw [List.infix_cons_iff, Text.pair_prefix_cons_iff, not_or] at h
    have hstart : ¬(c = '\\' ∧ odd = false ∧ s.head? = some 'u') := fun hc => h.1 ⟨hc.1.symm, hc.2.2⟩
    rw [signsFrom, if_neg (Nat.lt_irrefl 0), if_neg hstart, ih h.2]
    rfl

/-! ## Code units -/

theorem not_mem_takeWhile_u {s : List Char} : '\\' ∉ s.takeWhile (· == 'u') := fun h =>
  absurd (List.mem_takeWhile_imp h) (by decide)

/-- There is no backslash in an escape after the one that starts it. -/
theorem not_mem_of_escapedUnit? {s : List Char} {n : Nat} (h : escapedUnit? s = some n) :
    '\\' ∉ s.take ((s.takeWhile (· == 'u')).length + 4) := by
  intro hmem
  unfold escapedUnit? at h
  split at h
  · rename_i s
    have hcut : ('u' :: s).take ((('u' :: s).takeWhile (· == 'u')).length + 4) =
        ('u' :: s).takeWhile (· == 'u') ++ (s.dropWhile (· == 'u')).take 4 := by
      have htake := @List.take_length_add_append _ (('u' :: s).takeWhile (· == 'u')) (('u' :: s).dropWhile (· == 'u')) 4
      rwa [List.takeWhile_append_dropWhile] at htake
    rw [hcut] at hmem
    have hdigits := (List.mem_append.1 hmem).resolve_left not_mem_takeWhile_u
    unfold startUnit? at h
    rw [Text.inBase?_eq_none ⟨_, hdigits, by decide⟩, ite_self] at h
    cases h
  · cases h

/-- The escapes among the signs of a text are for its code units of Unicode escapes. -/
theorem escaped_mem_signsFrom {n skip : Nat} {odd : Bool} {s : List Char} (hskip : '\\' ∉ s.take skip) :
    .escaped n ∈ signsFrom skip (odd && skip == 0) s ↔ n ∈ escapedUnits odd s := by
  -- While the signs pass an escape, the code units take it for text after a backslash, in which no escape starts.
  induction s generalizing skip odd with
  | nil => simp [signsFrom, escapedUnits]
  | cons c s ih =>
    have hpass : ∀ {k : Nat}, '\\' ∉ s.take k → 0 < k →
        (.escaped n ∈ signsFrom k false s ↔ n ∈ escapedUnits true s) := by
      intro k hk hpos
      have hrest := @ih k true hk
      rwa [beq_eq_false_iff_ne.2 (Nat.ne_of_gt hpos), Bool.and_false] at hrest
    have hnext : ∀ o, .escaped n ∈ signsFrom 0 o s ↔ n ∈ escapedUnits o s := by
      intro o
      have hrest := @ih 0 o (by simp)
      rwa [beq_self_eq_true, Bool.and_true] at hrest
    cases skip with
    | succ k =>
      rw [List.take_succ_cons, List.mem_cons, not_or] at hskip
      have hc : (c == '\\') = false := beq_eq_false_iff_ne.2 (Ne.symm hskip.1)
      have hrest := @ih k false hskip.2
      rw [Bool.false_and] at hrest
      simpa [signsFrom, escapedUnits, hc] using hrest
    | zero =>
      rw [beq_self_eq_true, Bool.and_true, signsFrom, escapedUnits, if_neg (Nat.lt_irrefl 0)]
      by_cases hstart : c = '\\' ∧ odd = false
      · obtain ⟨rfl, rfl⟩ := hstart
        by_cases hu : s.head? = some 'u'
        · have hpos : 0 < (s.takeWhile (· == 'u')).length := by
            obtain ⟨r, rfl⟩ := List.head?_eq_some_iff.1 hu
            simp
          cases hunit : escapedUnit? s with
          | none =>
            have hus : '\\' ∉ s.take (s.takeWhile (· == 'u')).length := by
              rw [← List.prefix_iff_eq_take.1 (List.takeWhile_prefix _)]
              exact not_mem_takeWhile_u
            simpa [hu] using hpass hus hpos
          | some m =>
            have hrest := hpass (not_mem_of_escapedUnit? hunit) (by omega)
            simp [hu, hrest]
        · simpa [hu, escapedUnit?_eq_none hu] using hnext true
      · have hplain : ¬(c = '\\' ∧ odd = false ∧ s.head? = some 'u') := fun h => hstart ⟨h.1, h.2.1⟩
        have hflag : (c == '\\' && !odd) = false := by simpa [beq_iff_eq] using hstart
        rw [if_neg hplain, hflag]
        simpa using hnext false

theorem escaped_mem_signs {n : Nat} {s : List Char} : .escaped n ∈ signs s ↔ n ∈ escapedUnits false s :=
  @escaped_mem_signsFrom n 0 false s (by simp)

theorem eq_of_unit? {a b : Char} (h : (Sign.plain a).unit? = some b.toNat) : a = b :=
  Char.toNat_inj.1 (Option.some.inj h)

section

variable {s : List Char} {us : List Nat} (h : translate? s = some us)

include h

theorem map_unit?_signs : (signs s).map Sign.unit? = us.map some := mapM_eq_some_iff.1 h

theorem mem_of_translate? {n : Nat} : n ∈ us ↔ ∃ x ∈ signs s, x.unit? = some n := by
  rw [← List.mem_map, map_unit?_signs h]
  simp

theorem pair_infix_of_translate? {m n : Nat} :
    [m, n] <:+: us ↔ ∃ x y, [x, y] <:+: signs s ∧ x.unit? = some m ∧ y.unit? = some n := by
  rw [← Text.pair_infix_map_iff, map_unit?_signs h, Text.pair_infix_map_iff]
  simp

end

/-- Escapes are translated unless one is refused. -/
theorem exists_translate?_iff {s : List Char} : (∃ us, translate? s = some us) ↔ .broken ∉ signs s := by
  constructor
  · rintro ⟨us, hus⟩ hbroken
    have hnone : none ∈ us.map some := by
      rw [← map_unit?_signs hus]
      exact List.mem_map_of_mem hbroken
    simp at hnone
  · intro hbroken
    refine ⟨(signs s).map fun x => x.unit?.getD 0, mapM_eq_some_iff.2 ?_⟩
    rw [List.map_map]
    refine List.map_congr_left fun x hx => ?_
    cases x with
    | broken => exact absurd hx hbroken
    | plain c => rfl
    | escaped n => rfl

/-- A text stays in a comment if no sign is refused, none is for a line end, and no two together close the comment. -/
theorem staysHidden_iff {s : List Char} : StaysHidden s ↔ .broken ∉ signs s ∧
    (∀ x ∈ signs s, x.unit? ≠ some 0xA ∧ x.unit? ≠ some 0xD) ∧
    ∀ x y, [x, y] <:+: signs s → x.unit? = some 0x2A → y.unit? ≠ some 0x2F := by
  constructor
  · rintro ⟨us, hus, hfeed, hreturn, hclose⟩
    rw [mem_of_translate? hus] at hfeed hreturn
    rw [pair_infix_of_translate? hus] at hclose
    exact ⟨exists_translate?_iff.1 ⟨us, hus⟩, fun x hx => ⟨fun h => hfeed ⟨x, hx, h⟩, fun h => hreturn ⟨x, hx, h⟩⟩,
      fun x y hxy hx hy => hclose ⟨x, y, hxy, hx, hy⟩⟩
  · rintro ⟨hbroken, hends, hclose⟩
    obtain ⟨us, hus⟩ := exists_translate?_iff.2 hbroken
    refine ⟨us, hus, ?_, ?_, ?_⟩
    · rw [mem_of_translate? hus]
      exact fun ⟨x, hx, hunit⟩ => (hends x hx).1 hunit
    · rw [mem_of_translate? hus]
      exact fun ⟨x, hx, hunit⟩ => (hends x hx).2 hunit
    · rw [pair_infix_of_translate? hus]
      exact fun ⟨x, y, hxy, hx, hy⟩ => hclose x y hxy hx hy

/-! ## Blanks -/

theorem isInert_of_isBlank (h : Text.isBlank c) : IsInert c where
  ne_backslash := by
    rintro rfl
    exact absurd h (by decide)
  ne_u := by
    rintro rfl
    exact absurd h (by decide)
  no_digit := by
    have hle : ∀ a b : Char, a ≤ b ↔ a.toNat ≤ b.toNat := fun _ _ => Iff.rfl
    unfold Text.isBlank at h
    unfold Text.hexValue?
    simp only [Bool.or_eq_true, Bool.and_eq_true, decide_eq_true_eq, beq_iff_eq, hle] at h ⊢
    have h0 : '0'.toNat = 48 := rfl
    have h9 : '9'.toNat = 57 := rfl
    have ha : 'a'.toNat = 97 := rfl
    have hf : 'f'.toNat = 102 := rfl
    have hA : 'A'.toNat = 65 := rfl
    have hF : 'F'.toNat = 70 := rfl
    rw [if_neg (by omega), if_neg (by omega), if_neg (by omega)]

section

variable {L : List Sign}

theorem infix_signs_append (hc : IsInert c) (hL : .plain c ∉ L) (p r : List Char) :
    L <:+: signs (p ++ c :: r) ↔ L <:+: signs p ∨ L <:+: signs r := by
  rw [signs_append hc, Text.infix_append_cons_iff hL]

theorem infix_signs_nil (h : L <:+: signs []) (s : List Char) : L <:+: signs s := by
  have hL : L = [] := List.infix_nil.1 h
  rw [hL]
  exact List.nil_infix

variable (hL : ∀ c, Text.isBlank c → .plain c ∉ L)

include hL

/-- Squeezing blanks keeps all other signs, and which of them stand together. -/
theorem infix_signs_squeeze {inRun : Bool} (p s : List Char) (hp : inRun = false ∨ p = []) :
    L <:+: signs (p ++ Text.squeeze inRun s) ↔ L <:+: signs (p ++ s) := by
  induction s generalizing inRun p with
  | nil => rfl
  | cons c s ih =>
    unfold Text.squeeze
    by_cases hblank : Text.isBlank c
    · rw [if_pos hblank, infix_signs_append (isInert_of_isBlank hblank) (hL c hblank)]
      have hrest : L <:+: signs (Text.squeeze true s) ↔ L <:+: signs s := ih [] (Or.inr rfl)
      by_cases hrun : inRun
      · rw [if_pos hrun, hp.resolve_left (by simpa using hrun), List.nil_append, hrest]
        exact (or_iff_right_of_imp fun h => infix_signs_nil h s).symm
      · rw [if_neg hrun, infix_signs_append (by decide) (hL ' ' (by decide)), hrest]
    · rw [if_neg hblank, List.append_cons p c (Text.squeeze false s), ih (p ++ [c]) (Or.inl rfl), ← List.append_cons]

theorem infix_signs_dropWhile (s : List Char) : L <:+: signs (s.dropWhile Text.isBlank) ↔ L <:+: signs s := by
  induction s with
  | nil => rfl
  | cons c s ih =>
    by_cases hblank : Text.isBlank c
    · rw [List.dropWhile_cons_of_pos hblank, ih]
      have hsides := infix_signs_append (isInert_of_isBlank hblank) (hL c hblank) [] s
      rw [List.nil_append] at hsides
      rw [hsides]
      exact (or_iff_right_of_imp fun h => infix_signs_nil h s).symm
    · rw [List.dropWhile_cons_of_neg hblank]

theorem infix_signs_reverse_dropWhile (s : List Char) :
    L <:+: signs (s.dropWhile Text.isBlank).reverse ↔ L <:+: signs s.reverse := by
  induction s with
  | nil => rfl
  | cons c s ih =>
    by_cases hblank : Text.isBlank c
    · rw [List.dropWhile_cons_of_pos hblank, ih, List.reverse_cons,
        infix_signs_append (isInert_of_isBlank hblank) (hL c hblank)]
      exact (or_iff_left_of_imp fun h => infix_signs_nil h s.reverse).symm
    · rw [List.dropWhile_cons_of_neg hblank]

theorem infix_signs_oneLine (s : List Char) : L <:+: signs (Text.oneLine s) ↔ L <:+: signs s := by
  unfold Text.oneLine Text.trim Text.stripBy
  rw [infix_signs_reverse_dropWhile hL, List.reverse_reverse, infix_signs_dropWhile hL]
  exact infix_signs_squeeze hL [] s (Or.inl rfl)

/-- Taking asterisks and slashes apart keeps all other signs, and which of them stand together. -/
theorem infix_signs_replace (hpair : ¬[.plain '*', .plain '/'] <:+: L) : ∀ s p : List Char,
    L <:+: signs (p ++ Text.replace ['*', '/'] ['*', ' ', '/'] s) ↔ L <:+: signs (p ++ s)
  | [], p => Iff.rfl
  | [c], p => by
    rw [Text.replace_eq_self fun h => absurd h.length_le (by simp)]
  | c :: d :: s, p => by
    by_cases hstart : c = '*' ∧ d = '/'
    · obtain ⟨rfl, rfl⟩ := hstart
      have hreplace : Text.replace ['*', '/'] ['*', ' ', '/'] ('*' :: '/' :: s) =
          '*' :: ' ' :: '/' :: Text.replace ['*', '/'] ['*', ' ', '/'] s := rfl
      have hrest : L <:+: signs ('/' :: Text.replace ['*', '/'] ['*', ' ', '/'] s) ↔ L <:+: signs ('/' :: s) :=
        infix_signs_replace hpair s ['/']
      have hslash : signs ('/' :: s) = .plain '/' :: signs s := signs_cons (by decide) s
      have hleft : signs (p ++ ['*']) = signs p ++ [.plain '*'] := signs_append (by decide) p []
      have hboth : signs (p ++ '*' :: '/' :: s) = signs p ++ .plain '*' :: .plain '/' :: signs s := by
        rw [signs_append (by decide), hslash]
      rw [hreplace, List.append_cons, infix_signs_append (by decide) (hL ' ' (by decide)), hrest, hslash, hleft, hboth,
        Text.infix_append_pair_iff hpair]
    · have hreplace : Text.replace ['*', '/'] ['*', ' ', '/'] (c :: d :: s) =
          c :: Text.replace ['*', '/'] ['*', ' ', '/'] (d :: s) := by
        have hprefix : ¬['*', '/'].isPrefixOf (c :: d :: s) := by
          rw [List.isPrefixOf_iff_prefix, Text.pair_prefix_cons_iff]
          exact fun h => hstart ⟨h.1.symm, Option.some.inj h.2⟩
        unfold Text.replace
        rw [Text.replaceFrom, if_neg (Nat.lt_irrefl 0), if_neg hprefix]
      rw [hreplace, List.append_cons p c (Text.replace _ _ _), infix_signs_replace hpair (d :: s) (p ++ [c]),
        ← List.append_cons]

end

/-- Putting a text into the form of a comment keeps all signs but blanks and pairs of an asterisk and a slash, and which
of them stand together. -/
theorem infix_signs_comment {L : List Sign} (hblank : ∀ c, Text.isBlank c → .plain c ∉ L)
    (hpair : ¬[.plain '*', .plain '/'] <:+: L) (s : String) :
    L <:+: signs (Target.java.comment s).toList ↔ L <:+: signs s.toList := by
  rw [Target.comment, String.toList_ofList]
  show L <:+: signs (Target.plainComment s.toList) ↔ _
  unfold Target.plainComment
  exact (infix_signs_replace hblank hpair _ []).trans (infix_signs_oneLine hblank s.toList)

/-! ## Comments -/

/-- A text without a backslash that has a u after it is harmless. -/
theorem harmless_of_unescaped {s : List Char} (h : ¬['\\', 'u'] <:+: s) : Harmless s := by
  have hsigns : signs s = s.map .plain := signsFrom_eq_map h
  refine ⟨by simp [hsigns], fun n hn => ?_, fun x y hxy hx hy => ?_⟩
  · rw [← escaped_mem_signs, hsigns] at hn
    simp at hn
  · rw [hsigns, Text.pair_infix_map_iff] at hxy
    obtain ⟨a, b, -, rfl, rfl⟩ := hxy
    exact ⟨congrArg _ (eq_of_unit? hx), congrArg _ (eq_of_unit? hy)⟩

/-- The escapes in a comment, those refused included, are those in the text. -/
theorem mem_signs_comment_iff {x : Sign} (hx : ∀ c, x ≠ .plain c) (s : String) :
    x ∈ signs (Target.java.comment s).toList ↔ x ∈ signs s.toList := by
  rw [← List.singleton_infix_iff, ← List.singleton_infix_iff]
  refine infix_signs_comment (fun c _ hc => ?_) (fun h => ?_) s
  · exact hx c (List.mem_singleton.1 hc).symm
  · exact absurd h.length_le (by simp)

/-- Two signs that close a comment stand together in the comment if they do so in the text, unless they are an asterisk
and a slash as they are. -/
theorem closing_infix_signs_comment_iff {x y : Sign} (hx : x.unit? = some 0x2A) (hy : y.unit? = some 0x2F)
    (hne : ¬(x = .plain '*' ∧ y = .plain '/')) (s : String) :
    [x, y] <:+: signs (Target.java.comment s).toList ↔ [x, y] <:+: signs s.toList := by
  refine infix_signs_comment (fun c hblank hc => ?_) (fun h => ?_) s
  · rcases List.mem_pair.1 hc with rfl | rfl
    · obtain rfl := @eq_of_unit? c '*' hx
      exact absurd hblank (by decide)
    · obtain rfl := @eq_of_unit? c '/' hy
      exact absurd hblank (by decide)
  · obtain ⟨hxeq, hyeq⟩ := List.cons.inj (h.eq_of_length rfl)
    exact hne ⟨hxeq.symm, (List.cons.inj hyeq).1.symm⟩

theorem staysHidden_comment_iff (s : String) :
    StaysHidden (Target.java.comment s).toList ↔ Harmless s.toList := by
  have hform := Target.java.inCommentForm_comment s
  have hbroken : .broken ∈ signs (Target.java.comment s).toList ↔ .broken ∈ signs s.toList :=
    mem_signs_comment_iff (fun _ => Sign.noConfusion) s
  have hescaped : ∀ n, .escaped n ∈ signs (Target.java.comment s).toList ↔ n ∈ escapedUnits false s.toList := by
    intro n
    rw [mem_signs_comment_iff fun _ => Sign.noConfusion, escaped_mem_signs]
  have hunclosed : ¬[.plain '*', .plain '/'] <:+: signs (Target.java.comment s).toList := fun h =>
    hform.unclosed (infix_of_infix_signs h)
  rw [staysHidden_iff]
  constructor
  · rintro ⟨haccepted, hends, hclose⟩
    refine ⟨hbroken.not.1 haccepted, fun n hn => ?_, fun x y hxy hx hy => by_contra fun hne => ?_⟩
    · have hend := hends (.escaped n) ((hescaped n).2 hn)
      exact ⟨fun heq => hend.1 (congrArg some heq), fun heq => hend.2 (congrArg some heq)⟩
    · exact hclose x y ((closing_infix_signs_comment_iff hx hy hne s).2 hxy) hx hy
  · intro h
    refine ⟨hbroken.not.2 h.accepted, fun x hx => ?_, fun x y hxy hx hy => ?_⟩
    · cases x with
      | broken => exact ⟨nofun, nofun⟩
      | escaped n =>
        obtain ⟨hfeed, hreturn⟩ := h.unended n ((hescaped n).1 hx)
        exact ⟨fun heq => hfeed (Option.some.inj heq), fun heq => hreturn (Option.some.inj heq)⟩
      | plain c =>
        have hc := mem_of_mem_signs hx
        refine ⟨fun heq => ?_, fun heq => ?_⟩
        · obtain rfl := @eq_of_unit? c '\n' heq
          exact absurd (hform.isOneLine.blanks _ hc (by decide)) (by decide)
        · obtain rfl := @eq_of_unit? c '\r' heq
          exact absurd (hform.isOneLine.blanks _ hc (by decide)) (by decide)
    · by_cases hplain : x = .plain '*' ∧ y = .plain '/'
      · rw [hplain.1, hplain.2] at hxy
        exact hunclosed hxy
      · exact hplain (h.unclosing x y ((closing_infix_signs_comment_iff hx hy hplain s).1 hxy) hx hy)

/-- A text made into a comment stays one for the compiler exactly if the escapes in the text are harmless there, thus at
least if there is no backslash in it that has a u after it. -/
theorem staysHidden_comment (s : String) :
    (StaysHidden (Target.java.comment s).toList ↔ Harmless s.toList) ∧
      (¬['\\', 'u'] <:+: s.toList → StaysHidden (Target.java.comment s).toList) :=
  ⟨staysHidden_comment_iff s, fun h => (staysHidden_comment_iff s).2 (harmless_of_unescaped h)⟩

/-- An escape for an asterisk with a slash after it closes the comment. -/
theorem escapedAsterisk_not_staysHidden : ¬∀ s : String, StaysHidden (Target.java.comment s).toList := by
  intro h
  obtain ⟨us, hus, -, -, hclose⟩ := h "\\u002a/"
  cases hus
  exact hclose (by decide)

end ClientForge.Java
