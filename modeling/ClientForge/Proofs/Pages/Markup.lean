import ClientForge.Html.Tree
import Mathlib.Data.List.TakeDrop

/-!
Markup that cannot be read. Each step of reading leaves an end of the text that it is given, so what a
reading stops at stands in the text: a section that opens between brackets, or a character number with more
digits than numbers can have (`read_eq_error`). A text that holds neither is always read.
-/

namespace ClientForge.Html

/-- Does a text hold what the fault is about? -/
def Fault.Occurs : Fault → List Char → Prop
  | .badSection, s => "<![".toList <:+: s
  | .longNumber, s =>
    ∃ ds : List Char, "&#".toList ++ ds <:+: s ∧ (∀ d ∈ ds, isDecimal d = true) ∧ digitLimit < ds.length

theorem Fault.Occurs.mono {f : Fault} {s t : List Char} (h : f.Occurs t) (hpart : t <:+: s) : f.Occurs s := by
  cases f with
  | badSection => exact List.IsInfix.trans h hpart
  | longNumber =>
    obtain ⟨ds, hds, hdecimal, hlong⟩ := h
    exact ⟨ds, hds.trans hpart, hdecimal, hlong⟩

/-! ## Character numbers -/

theorem hexValue?_of_isDecimal {c : Char} (h : isDecimal c = true) : ∃ d < 10, Text.hexValue? c = some d := by
  have hle : c.toNat ≤ 57 := (of_decide_eq_true (Bool.and_eq_true_iff.1 h).2 : c ≤ '9')
  exact ⟨c.toNat - 48, by omega, if_pos h⟩

/-- Digits of a base are always a number. -/
theorem inBase?_ne_none {base : Nat} {ds : List Char} (hne : ds ≠ [])
    (h : ∀ c ∈ ds, ∃ d < base, Text.hexValue? c = some d) : Text.inBase? base ds ≠ none := by
  have hfold : ∀ n : Nat, ds.foldl (fun acc c => do
      let n ← acc
      let d ← Text.hexValue? c
      if d < base then return n * base + d else none) (some n) ≠ none := by
    clear hne
    induction ds with
    | nil => simp
    | cons c ds ih =>
      intro n
      obtain ⟨d, hd, hc⟩ := h c List.mem_cons_self
      rw [List.foldl_cons, hc]
      simpa [hd] using ih (fun e he => h e (List.mem_cons_of_mem c he)) (n * base + d)
  unfold Text.inBase?
  simpa [hne] using hfold 0

theorem hexValue?_of_isHex {c : Char} (h : isHex c = true) : ∃ d < 16, Text.hexValue? c = some d := by
  obtain ⟨d, hd⟩ := Option.isSome_iff_exists.1 h
  refine ⟨d, ?_, hd⟩
  unfold Text.hexValue? at hd
  split at hd
  · rename_i hdigit
    have hle : c.toNat ≤ 57 := (of_decide_eq_true (Bool.and_eq_true_iff.1 hdigit).2 : c ≤ '9')
    cases hd
    omega
  split at hd
  · rename_i hletter
    have hle : c.toNat ≤ 102 := (of_decide_eq_true (Bool.and_eq_true_iff.1 hletter).2 : c ≤ 'f')
    cases hd
    omega
  split at hd
  · rename_i hletter
    have hle : c.toNat ≤ 70 := (of_decide_eq_true (Bool.and_eq_true_iff.1 hletter).2 : c ≤ 'F')
    cases hd
    omega
  · cases hd

/-- The digits of a reference are decimal, or hexadecimal after a letter that says so. -/
theorem referenceDigits_cases (s : List Char) :
    (∀ d ∈ referenceDigits s, isDecimal d = true) ∨
      ∃ c ds, referenceDigits s = c :: ds ∧ (c = 'x' ∨ c = 'X') ∧ ds ≠ [] ∧ ∀ d ∈ ds, isHex d = true := by
  have hhex : ∀ t : List Char, t.head?.any isHex = true →
      t.takeWhile isHex ≠ [] ∧ ∀ d ∈ t.takeWhile isHex, isHex d = true := by
    intro t ht
    refine ⟨?_, List.all_eq_true.1 List.all_takeWhile⟩
    cases t with
    | nil => cases ht
    | cons c t => simpa [List.takeWhile_cons] using ht
  unfold referenceDigits
  split
  · split
    · rename_i t ht
      exact Or.inr ⟨'x', _, rfl, Or.inl rfl, hhex t ht⟩
    · exact Or.inl fun d hd => absurd hd List.not_mem_nil
  · split
    · rename_i t ht
      exact Or.inr ⟨'X', _, rfl, Or.inr rfl, hhex t ht⟩
    · exact Or.inl fun d hd => absurd hd List.not_mem_nil
  · exact Or.inl (List.all_eq_true.1 List.all_takeWhile)

/-- The digits of a reference are no number only if they are decimal and too many. -/
theorem number?_eq_none {s : List Char} (hne : referenceDigits s ≠ []) (h : number? (referenceDigits s) = none) :
    (∀ d ∈ referenceDigits s, isDecimal d = true) ∧ digitLimit < (referenceDigits s).length := by
  rcases referenceDigits_cases s with hdecimal | ⟨c, ds, hds, hc, hdsne, hhex⟩
  · refine ⟨hdecimal, ?_⟩
    unfold number? at h
    split at h
    · rename_i ds hds
      exact absurd (hdecimal 'x' (by rw [hds]; exact List.mem_cons_self)) (by decide)
    · rename_i ds hds
      exact absurd (hdecimal 'X' (by rw [hds]; exact List.mem_cons_self)) (by decide)
    · split at h
      · assumption
      · exact absurd h (inBase?_ne_none hne fun c hc => hexValue?_of_isDecimal (hdecimal c hc))
  · have hvalue := inBase?_ne_none hdsne fun d hd => hexValue?_of_isHex (hhex d hd)
    rw [hds] at h
    rcases hc with rfl | rfl <;> exact absurd h hvalue

theorem referenceDigits_prefix (s : List Char) : referenceDigits s <+: s := by
  unfold referenceDigits
  split
  · split
    · exact (List.prefix_cons_inj _).2 (List.takeWhile_prefix _)
    · exact List.nil_prefix
  · split
    · exact (List.prefix_cons_inj _).2 (List.takeWhile_prefix _)
    · exact List.nil_prefix
  · exact List.takeWhile_prefix _

/-- The text shows the number that is too long. -/
theorem longNumber_occurs {s : List Char} (hne : referenceDigits s ≠ []) (h : number? (referenceDigits s) = none) :
    Fault.longNumber.Occurs ('&' :: '#' :: s) := by
  obtain ⟨hdecimal, hlong⟩ := number?_eq_none hne h
  obtain ⟨rest, hrest⟩ := referenceDigits_prefix s
  refine ⟨referenceDigits s, ⟨[], rest, ?_⟩, hdecimal, hlong⟩
  rw [List.nil_append, List.append_assoc, hrest]
  rfl

theorem afterReference_suffix (s : List Char) : afterReference s <:+ s := by
  unfold afterReference
  split
  · exact List.suffix_cons _ _
  · exact List.suffix_refl _

/-- In an attribute value, too, a reference is left with its semicolon or without one. -/
theorem semicolon_suffix (s : List Char) :
    (match s with | ';' :: t => (true, t) | t => (false, t) : Bool × List Char).2 <:+ s := by
  split
  · exact List.suffix_cons _ _
  · exact List.suffix_refl _

theorem unescapeFrom_eq_none {fuel : Nat} {s : List Char} (h : unescapeFrom fuel s = none) :
    Fault.longNumber.Occurs s := by
  induction fuel generalizing s with
  | zero => cases h
  | succ fuel ih =>
    cases s with
    | nil => cases h
    | cons c s =>
      have hlater : ∀ t, t <:+ s → unescapeFrom fuel t = none → Fault.longNumber.Occurs (c :: s) :=
        fun t hsuffix ht => (ih ht).mono (hsuffix.trans (List.suffix_cons c s)).isInfix
      simp only [unescapeFrom] at h
      split at h
      · exact hlater _ (List.suffix_refl _) (Option.map_eq_none_iff.1 h)
      · rename_i hc
        obtain rfl : c = '&' := by simpa using hc
        split at h
        · rename_i t
          split at h
          · exact hlater _ (List.suffix_refl _) (Option.map_eq_none_iff.1 h)
          · rename_i hne
            split at h
            · rename_i hnumber
              exact longNumber_occurs (by simpa using hne) (Option.map_eq_none_iff.1 hnumber)
            · have hdrop : t.drop (referenceDigits t).length <:+ '#' :: t :=
                (List.drop_suffix _ t).trans (List.suffix_cons '#' t)
              exact hlater _ ((semicolon_suffix _).trans hdrop) (Option.map_eq_none_iff.1 h)
        · split at h
          · exact hlater _ (List.suffix_refl _) (Option.map_eq_none_iff.1 h)
          · have hdrop := List.drop_suffix ((s.take 32).takeWhile isNameChar).length s
            exact hlater _ ((semicolon_suffix _).trans hdrop) (Option.map_eq_none_iff.1 h)

/-! ## What a step leaves -/

theorem suffix_of_after? {p s rest : List Char} (h : Text.after? p s = some rest) : rest <:+ s := by
  induction p generalizing s with
  | nil =>
    cases h
    exact List.suffix_refl _
  | cons a p ih =>
    cases s with
    | nil => cases h
    | cons c s =>
      simp only [Text.after?] at h
      split at h
      · exact (ih h).trans (List.suffix_cons c s)
      · cases h

theorem suffix_of_cut? {p s before rest : List Char} (h : Text.cut? p s = some (before, rest)) : rest <:+ s := by
  induction s generalizing before with
  | nil =>
    simp only [Text.cut?] at h
    split at h <;> cases h
    exact List.suffix_refl _
  | cons c s ih =>
    simp only [Text.cut?] at h
    split at h
    · rename_i rest' hafter
      cases h
      exact suffix_of_after? hafter
    · obtain ⟨⟨before', rest'⟩, hcut, heq⟩ := Option.map_eq_some_iff.1 h
      cases heq
      exact (ih hcut).trans (List.suffix_cons c s)

/-- What a search for an end leaves is an end of the text, if that is so of what `ends` leaves. -/
theorem suffix_of_cutBy? {ends : List Char → Option (List Char)}
    (hends : ∀ t rest, ends t = some rest → rest <:+ t) {s body rest : List Char}
    (h : cutBy? ends s = some (body, rest)) : rest <:+ s := by
  induction s generalizing body with
  | nil => cases h
  | cons c s ih =>
    simp only [cutBy?] at h
    split at h
    · rename_i rest' hend
      cases h
      exact hends _ _ hend
    · obtain ⟨⟨before', rest'⟩, hcut, heq⟩ := Option.map_eq_some_iff.1 h
      cases heq
      exact (ih hcut).trans (List.suffix_cons c s)

theorem suffix_of_closing? {s rest : List Char} (h : closing? s = some rest) : rest <:+ s := by
  unfold closing? at h
  split at h
  · rename_i rest' hdrop
    cases h
    exact (List.suffix_cons '>' rest).trans (hdrop ▸ List.dropWhile_suffix _)
  · cases h

theorem suffix_of_commentEnd? {s rest : List Char} (h : commentEnd? s = some rest) : rest <:+ s := by
  unfold commentEnd? at h
  split at h
  · exact (suffix_of_closing? h).trans ((List.suffix_cons _ _).trans (List.suffix_cons _ _))
  · cases h

theorem suffix_of_conditionEnd? {s rest : List Char} (h : conditionEnd? s = some rest) : rest <:+ s := by
  unfold conditionEnd? at h
  split at h
  · exact (suffix_of_closing? h).trans (List.suffix_cons _ _)
  · cases h

theorem suffix_of_sectionEnd? {s rest : List Char} (h : sectionEnd? s = some rest) : rest <:+ s := by
  unfold sectionEnd? at h
  split at h
  · rename_i s'
    split at h
    · rename_i t hdrop
      have ht : t <:+ s' := (List.suffix_cons ']' t).trans (hdrop ▸ List.dropWhile_suffix _)
      exact (suffix_of_closing? h).trans (ht.trans (List.suffix_cons _ _))
    · cases h
  · cases h

/-- Does the step leave an end of the text? -/
def Step.Leaves (s : List Char) : Step → Prop
  | .token _ rest => rest <:+ s
  | .unfinished => True

theorem Step.Leaves.mono {s t : List Char} {x : Step} (h : x.Leaves t) (hsuffix : t <:+ s) : x.Leaves s := by
  cases x with
  | token _ rest => exact List.IsSuffix.trans h hsuffix
  | unfinished => trivial

theorem leaves_bodyTo {ends : List Char → Option (List Char)} (hends : ∀ t rest, ends t = some rest → rest <:+ t)
    (make : List Char → Token) (s : List Char) : (bodyTo ends make s).Leaves s := by
  unfold bodyTo
  split
  · rename_i hcut
    exact suffix_of_cutBy? hends hcut
  · trivial

theorem leaves_bogusComment (s : List Char) : (bogusComment s).Leaves s := by
  unfold bogusComment
  split
  · rename_i hclose
    exact suffix_of_cut? hclose
  · trivial

/-! ## Tags -/

theorem skipBetween_suffix (s : List Char) : skipBetween s <:+ s := by
  induction s with
  | nil => exact List.suffix_refl _
  | cons c s ih =>
    unfold skipBetween
    split
    · exact List.nil_suffix
    · rename_i heq
      cases heq
      split
      · exact List.suffix_refl _
      · exact ih.trans (List.suffix_cons _ _)
    · rename_i heq
      cases heq
      split
      · exact ih.trans (List.suffix_cons _ _)
      · exact List.suffix_refl _

theorem suffix_of_plainEndTag? {s name rest : List Char} (h : plainEndTag? s = some (name, rest)) : rest <:+ s := by
  unfold plainEndTag? at h
  simp only at h
  split at h
  · rename_i c name' rest' _ hdrop
    split at h
    · cases h
      have hrest : rest <:+ (s.dropWhile Text.isBlank).drop
          ((s.dropWhile Text.isBlank).takeWhile isEndTagChar).length :=
        (List.suffix_cons '>' rest).trans (hdrop ▸ List.dropWhile_suffix _)
      exact hrest.trans ((List.drop_suffix _ _).trans (List.dropWhile_suffix _))
    · cases h
  · cases h

theorem leaves_endTag (raw : Option (List Char)) (s : List Char) : (endTag raw s).Leaves s := by
  unfold endTag
  split
  · trivial
  · rename_i before rest hclose
    have hrest : rest <:+ s := suffix_of_cut? hclose
    simp only
    split
    · rename_i hplain
      exact suffix_of_plainEndTag? hplain
    · rename_i hplain
      split
      · exact suffix_of_plainEndTag? hplain
      · exact hrest
    · exact hrest
    · split
      · trivial
      · rename_i c s
        split
        · split
          · rename_i hlater
            exact (suffix_of_cut? hlater).trans ((skipBetween_suffix _).trans (List.drop_suffix _ _))
          · trivial
        · split
          · exact hrest
          · exact leaves_bogusComment _

theorem infix_of_quotedValue? {q : Char} {s value rest : List Char} (h : quotedValue? q s = some (value, rest)) :
    value <:+: s ∧ rest <:+ s := by
  unfold quotedValue? at h
  simp only at h
  split at h
  · cases h
  · rename_i c rest' hdrop
    cases h
    exact ⟨(List.takeWhile_prefix _).isInfix, (List.suffix_cons c rest).trans (hdrop ▸ List.drop_suffix _ _)⟩

theorem infix_of_bareValue (s : List Char) : (bareValue s).1 <:+: s ∧ (bareValue s).2 <:+ s := by
  unfold bareValue
  rw [List.span_eq_takeWhile_dropWhile]
  exact ⟨(List.takeWhile_prefix _).isInfix, List.dropWhile_suffix _⟩

/-- What follows a run of signs is an end of the text together with one of them. -/
theorem sign_suffix {c : Char} {s : List Char} (h : s.takeWhile (· == c) ≠ []) :
    c :: s.drop (s.takeWhile (· == c)).length <:+ s := by
  obtain ⟨before, last, hrun⟩ := List.eq_nil_or_concat (s.takeWhile (· == c)) |>.resolve_left h
  have hlast : last = c := by
    have hin : last ∈ s.takeWhile (· == c) := by rw [hrun]; simp
    simpa using List.all_eq_true.1 List.all_takeWhile last hin
  have hwhole := List.prefix_iff_eq_append.1 (List.takeWhile_prefix (p := (· == c)) (l := s))
  refine ⟨before, ?_⟩
  rw [hrun, hlast, List.concat_eq_append] at hwhole
  rw [hrun, hlast, List.concat_eq_append]
  simpa using hwhole

theorem infix_of_attributeValue? {s value rest : List Char} (h : attributeValue? s = some (value, rest)) :
    value <:+: s ∧ rest <:+ s := by
  have hstart : s.dropWhile Text.isBlank <:+ s := List.dropWhile_suffix _
  unfold attributeValue? at h
  generalize s.dropWhile Text.isBlank = t at h hstart
  simp only at h
  split at h
  · cases h
  · rename_i hsigns
    have hsign := sign_suffix (c := '=') (s := t) (by simpa using hsigns)
    generalize t.drop (t.takeWhile (· == '=')).length = after at h hsign
    have hvalue : after.dropWhile Text.isBlank <:+ s :=
      (List.dropWhile_suffix _).trans ((List.suffix_cons _ _).trans (hsign.trans hstart))
    have hbare : ∀ u, u <:+ s → (bareValue u).1 <:+: s ∧ (bareValue u).2 <:+ s := fun u hu =>
      ⟨(infix_of_bareValue u).1.trans hu.isInfix, (infix_of_bareValue u).2.trans hu⟩
    have hquoted : ∀ q u v r, q :: u <:+ s → quotedValue? q u = some (v, r) → v <:+: s ∧ r <:+ s := by
      intro q u v r hu hq
      obtain ⟨hv, hr⟩ := infix_of_quotedValue? hq
      have hu' := (List.suffix_cons q u).trans hu
      exact ⟨hv.trans hu'.isInfix, hr.trans hu'⟩
    generalize after.dropWhile Text.isBlank = u at h hvalue
    have hunquoted : ∀ v r, (if u.length < after.length then some ([], u)
        else if 1 < (t.takeWhile (· == '=')).length then some (bareValue ('=' :: after)) else none) = some (v, r) →
        v <:+: s ∧ r <:+ s := by
      intro v r hv
      split at hv
      · cases hv
        exact ⟨List.nil_infix, hvalue⟩
      · split at hv
        · obtain ⟨rfl, rfl⟩ := Prod.mk.inj (Option.some.inj hv)
          exact hbare _ (hsign.trans hstart)
        · cases hv
    split at h
    · rcases Option.or_eq_some_iff.1 h with hq | ⟨-, hu⟩
      · exact hquoted _ _ _ _ hvalue hq
      · exact hunquoted _ _ hu
    · rcases Option.or_eq_some_iff.1 h with hq | ⟨-, hu⟩
      · exact hquoted _ _ _ _ hvalue hq
      · exact hunquoted _ _ hu
    · obtain ⟨rfl, rfl⟩ := Prod.mk.inj (Option.some.inj h)
      exact hbare _ hvalue

/-- A place between attributes is their end, or an attribute is taken whose value stands in the text, and an
end of the text is left. -/
theorem attributes_step (fuel : Nat) (before : Char) (s : List Char) :
    attributes (fuel + 1) before s = ([], s) ∨
      ∃ name value next rest, (∀ v ∈ value, v <:+: s) ∧ rest <:+ s ∧ attributes (fuel + 1) before s =
        ((name, value) :: (attributes fuel next rest).1, (attributes fuel next rest).2) := by
  cases s with
  | nil => exact Or.inl rfl
  | cons c s =>
    simp only [attributes]
    split
    · exact Or.inl rfl
    · right
      generalize s.takeWhile (fun c => !(Text.isBlank c || c == '/' || c == '=' || c == '>')) = more
      have hrest : s.drop more.length <:+ c :: s := (List.drop_suffix _ s).trans (List.suffix_cons c s)
      cases hvalue : attributeValue? (s.drop more.length) with
      | none =>
        exact ⟨_, none, _, _, by simp, (skipBetween_suffix _).trans hrest, rfl⟩
      | some found =>
        obtain ⟨value, rest⟩ := found
        obtain ⟨hpart, hsuffix⟩ := infix_of_attributeValue? hvalue
        refine ⟨_, some value, _, _, ?_, (skipBetween_suffix _).trans (hsuffix.trans hrest), rfl⟩
        rintro v ⟨⟩
        exact hpart.trans hrest.isInfix

theorem infix_of_attributes (fuel : Nat) (before : Char) (s : List Char) :
    (attributes fuel before s).2 <:+ s ∧ ∀ a ∈ (attributes fuel before s).1, ∀ v ∈ a.2, v <:+: s := by
  induction fuel generalizing before s with
  | zero => exact ⟨List.suffix_refl s, fun a ha => absurd ha List.not_mem_nil⟩
  | succ fuel ih =>
    rcases attributes_step fuel before s with hend | ⟨name, value, next, rest, hvalue, hrest, hstep⟩
    · rw [hend]
      exact ⟨List.suffix_refl s, fun a ha => absurd ha List.not_mem_nil⟩
    · obtain ⟨hlast, hothers⟩ := ih next rest
      rw [hstep]
      refine ⟨hlast.trans hrest, List.forall_mem_cons.2 ⟨hvalue, fun a ha v hv => ?_⟩⟩
      exact (hothers a ha v hv).trans hrest.isInfix

/-- The values of attributes hold a number that is too long, if they cannot be finished. -/
theorem finishAttributes_eq_error {as : List (List Char × Option (List Char))} {f : Fault}
    (h : finishAttributes as = .error f) : f = .longNumber ∧ ∃ a ∈ as, f.Occurs (a.2.getD []) := by
  unfold finishAttributes at h
  generalize ([] : List (List Char × List Char)) = acc at h
  induction as generalizing acc with
  | nil => cases h
  | cons a as ih =>
    rw [List.foldlM_cons] at h
    cases hvalue : unescape? (a.2.getD []) with
    | none =>
      simp only [hvalue, bind, Except.bind] at h
      cases h
      exact ⟨rfl, a, List.mem_cons_self, unescapeFrom_eq_none hvalue⟩
    | some v =>
      simp only [hvalue, bind, Except.bind] at h
      obtain ⟨hf, b, hb, hoccurs⟩ := ih _ h
      exact ⟨hf, b, List.mem_cons_of_mem a hb, hoccurs⟩

/-- What is so of every outcome of reading markup at the front of a text: a step leaves an end of the text,
and a fault stands in it. -/
def Sees (s : List Char) : Except Fault Step → Prop
  | .ok x => x.Leaves s
  | .error f => f.Occurs s

theorem sees_finishAttributes {as : List (List Char × Option (List Char))} {s : List Char} {next : _ → Step}
    (hvalues : ∀ a ∈ as, ∀ v ∈ a.2, v <:+: s) (hnext : ∀ xs, (next xs).Leaves s) :
    Sees s (finishAttributes as >>= fun xs => pure (next xs)) := by
  cases h : finishAttributes as with
  | ok xs => exact hnext xs
  | error f =>
    obtain ⟨-, a, ha, hoccurs⟩ := finishAttributes_eq_error h
    show f.Occurs s
    cases hvalue : a.2 with
    | none => exact hoccurs.mono (by rw [hvalue]; exact List.nil_infix)
    | some v => exact hoccurs.mono (by rw [hvalue]; exact hvalues a ha v hvalue)

theorem sees_startTag (s : List Char) : Sees s (startTag s) := by
  unfold startTag
  simp only
  generalize hafter : (s.drop (s.takeWhile isTagChar).length).dropWhile (fun c => Text.isBlank c || c == '/') = after
  generalize lastOr (lastOr 'a' (s.takeWhile isTagChar)) _ = before
  have hsuffix : after <:+ s := hafter ▸ (List.dropWhile_suffix _).trans (List.drop_suffix _ s)
  obtain ⟨hrest, hvalues⟩ := infix_of_attributes s.length before after
  generalize attributes s.length before after = found at hrest hvalues
  obtain ⟨as, rest⟩ := found
  replace hrest : rest <:+ s := List.IsSuffix.trans hrest hsuffix
  replace hvalues : ∀ a ∈ as, ∀ v ∈ a.2, v <:+: s := fun a ha v hv => (hvalues a ha v hv).trans hsuffix.isInfix
  simp only
  split
  · trivial
  · exact sees_finishAttributes hvalues fun _ => (List.suffix_cons _ _).trans hrest
  · exact sees_finishAttributes hvalues fun _ =>
      ((List.suffix_cons _ _).trans (List.suffix_cons _ _)).trans hrest
  · split
    · trivial
    · exact sees_finishAttributes hvalues fun _ => hrest

/-! ## Other markup -/

theorem sees_markedSection (s : List Char) : Sees ('<' :: '!' :: '[' :: s) (markedSection s) := by
  have hsection : Fault.badSection.Occurs ('<' :: '!' :: '[' :: s) := ⟨[], s, rfl⟩
  have hbody : ∀ ends make, (∀ t rest, ends t = some rest → rest <:+ t) →
      (bodyTo ends make s).Leaves ('<' :: '!' :: '[' :: s) := fun ends make hends =>
    (leaves_bodyTo hends make s).mono
      ((List.suffix_cons _ _).trans ((List.suffix_cons _ _).trans (List.suffix_cons _ _)))
  unfold markedSection
  simp only
  split
  · trivial
  · split
    · exact hsection
    split
    · trivial
    split
    · exact hbody _ _ fun _ _ => suffix_of_sectionEnd?
    split
    · exact hbody _ _ fun _ _ => suffix_of_conditionEnd?
    · exact hsection

theorem sees_declaration (s : List Char) : Sees ('<' :: '!' :: s) (declaration s) := by
  have hmark : s <:+ '<' :: '!' :: s := (List.suffix_cons _ _).trans (List.suffix_cons _ _)
  unfold declaration
  split
  · rename_i body
    exact ((leaves_bodyTo (fun _ _ => suffix_of_commentEnd?) .comment body).mono
      ((List.suffix_cons _ _).trans (List.suffix_cons _ _))).mono hmark
  · exact sees_markedSection _
  · split
    · split
      · rename_i hclose
        exact (suffix_of_cut? hclose).trans ((List.drop_suffix _ _).trans hmark)
      · trivial
    · exact (leaves_bogusComment _).mono hmark

theorem sees_markup? {raw : Option (List Char)} {s : List Char} {x : Except Fault Step}
    (h : markup? raw s = some x) : Sees ('<' :: s) x := by
  unfold markup? at h
  split at h
  · rename_i t
    cases h
    exact (leaves_endTag raw t).mono ((List.suffix_cons _ _).trans (List.suffix_cons _ _))
  · rename_i t
    cases h
    refine (leaves_bodyTo (fun u rest hend => ?_) .instruction t).mono
      ((List.suffix_cons _ _).trans (List.suffix_cons _ _))
    unfold markup?.closeSign? at hend
    split at hend
    · cases hend
      exact List.suffix_cons _ _
    · cases hend
  · rename_i t
    cases h
    exact sees_declaration t
  · rename_i c t _ _ _
    split at h
    · cases h
      have hsees := sees_startTag (c :: t)
      cases hstep : startTag (c :: t) with
      | ok x =>
        rw [hstep] at hsees
        exact Step.Leaves.mono hsees (List.suffix_cons _ _)
      | error f =>
        rw [hstep] at hsees
        exact Fault.Occurs.mono hsees (List.suffix_cons _ _).isInfix
    · cases h
  · cases h

/-! ## The whole -/

/-- What is so of every outcome of reading on from a text: an end of it is left, or a fault stands in it. -/
def Covers (s : List Char) : Except Fault Progress → Prop
  | .ok (_, rest, _) => rest <:+ s
  | .error f => f.Occurs s

theorem Covers.mono {s t : List Char} {x : Except Fault Progress} (h : Covers t x) (hsuffix : t <:+ s) :
    Covers s x := by
  cases x with
  | ok p => exact List.IsSuffix.trans h hsuffix
  | error f => exact Fault.Occurs.mono h hsuffix.isInfix

theorem suffix_of_numericReference? {s ds rest : List Char} (h : numericReference? s = some (ds, rest)) :
    rest <:+ s ∧ ds = referenceDigits s ∧ ds ≠ [] := by
  unfold numericReference? at h
  simp only at h
  split at h
  · cases h
  · cases h
  · rename_i hdrop hne
    split at h
    · cases h
    · cases h
      refine ⟨(afterReference_suffix _).trans (hdrop ▸ List.drop_suffix _ s), rfl, ?_⟩
      exact hne

theorem suffix_of_namedReference? {s name rest : List Char} (h : namedReference? s = some (name, rest)) :
    rest <:+ s := by
  unfold namedReference? at h
  split at h
  · cases h
  · split at h
    · cases h
    · obtain ⟨found, -, heq⟩ := Option.map_eq_some_iff.1 h
      cases heq
      exact (afterReference_suffix _).trans (List.drop_suffix _ _)

section ReadOn

variable {atEnd : Bool} {fuel : Nat} {ts : List Token} {c : Char} {s : List Char}

/-- Reading on after a step covers a text, if reading on from every end of the text does. -/
theorem covers_raw {r : List Char} {s : List Char}
    (hlater : ∀ {ts raw rest}, rest <:+ s → Covers s (readOn atEnd fuel ts raw rest)) (hs : s ≠ []) :
    Covers s (readOn atEnd (fuel + 1) ts (some r) s) := by
  cases s with
  | nil => exact absurd rfl hs
  | cons c s =>
    simp only [readOn]
    split
    · exact List.suffix_refl _
    · rename_i body s' hcut
      have hbody : s' <:+ c :: s := by
        refine suffix_of_cutBy? (fun t rest hend => ?_) hcut
        obtain ⟨u, -, rfl⟩ := Option.map_eq_some_iff.1 hend
        exact List.suffix_refl _
      have htag := leaves_endTag (some r) (s'.drop 2)
      split
      · rename_i t rest hstep
        rw [hstep] at htag
        exact hlater (List.IsSuffix.trans htag ((List.drop_suffix 2 s').trans hbody))
      · exact hbody

theorem covers_mark (hlater : ∀ {ts raw rest}, rest <:+ '<' :: s → Covers ('<' :: s) (readOn atEnd fuel ts raw rest)) :
    Covers ('<' :: s) (readOn atEnd (fuel + 1) ts none ('<' :: s)) := by
  have hafter : s <:+ '<' :: s := List.suffix_cons _ s
  simp only [readOn, if_true]
  split
  · rename_i f hmarkup
    exact sees_markup? hmarkup
  · rename_i t rest hmarkup
    exact hlater (sees_markup? hmarkup)
  · split
    · exact List.suffix_refl _
    · refine hlater ?_
      split
      · rename_i hclose
        exact (suffix_of_cut? hclose).trans hafter
      · split
        · exact (List.drop_suffix _ s).trans hafter
        · exact hafter
  · split
    · rename_i hempty
      rw [List.isEmpty_iff.1 hempty]
      exact List.suffix_refl _
    · exact hlater hafter

theorem covers_reference
    (hlater : ∀ {ts raw rest}, rest <:+ '&' :: s → Covers ('&' :: s) (readOn atEnd fuel ts raw rest)) :
    Covers ('&' :: s) (readOn atEnd (fuel + 1) ts none ('&' :: s)) := by
  have hafter : s <:+ '&' :: s := List.suffix_cons _ s
  have hmark : ('&' : Char) ≠ '<' := by decide
  simp only [readOn, hmark, if_false, if_true]
  split
  · rename_i t
    have ht : t <:+ '&' :: '#' :: t := (List.suffix_cons _ t).trans (List.suffix_cons _ _)
    split
    · rename_i ds rest hreference
      obtain ⟨hrest, rfl, hne⟩ := suffix_of_numericReference? hreference
      split
      · exact hlater (hrest.trans ht)
      · rename_i hnumber
        exact longNumber_occurs hne hnumber
    · split
      · exact ht
      · exact List.suffix_refl _
  · split
    · rename_i hreference
      exact hlater ((suffix_of_namedReference? hreference).trans hafter)
    · split
      · show (if _ then s else '&' :: s) <:+ _
        split
        · exact hafter
        · exact List.suffix_refl _
      split
      · rename_i hempty
        rw [List.isEmpty_iff.1 hempty]
        exact List.suffix_refl _
      · exact hlater hafter

end ReadOn

theorem covers_readOn (atEnd : Bool) (fuel : Nat) (ts : List Token) (raw : Option (List Char)) (s : List Char) :
    Covers s (readOn atEnd fuel ts raw s) := by
  induction fuel generalizing ts raw s with
  | zero => exact List.suffix_refl s
  | succ fuel ih =>
    have hlater : ∀ {ts raw rest}, rest <:+ s → Covers s (readOn atEnd fuel ts raw rest) :=
      fun hrest => (ih _ _ _).mono hrest
    cases s with
    | nil => exact List.suffix_refl _
    | cons c s =>
      cases raw with
      | some r => exact covers_raw hlater (List.cons_ne_nil c s)
      | none =>
        by_cases hmark : c = '<'
        · subst hmark
          exact covers_mark hlater
        by_cases hreference : c = '&'
        · subst hreference
          exact covers_reference hlater
        · simp only [readOn, hmark, hreference, if_false]
          exact hlater ((List.drop_suffix _ s).trans (List.suffix_cons c s))

/-- What a text cannot be read for stands in it. -/
theorem scan_eq_error {s : List Char} {f : Fault} (h : Token.scan s = .error f) : f.Occurs s := by
  unfold Token.scan at h
  have hfirst := covers_readOn false (s.length + 1) [] none s
  cases hread : readOn false (s.length + 1) [] none s with
  | error e =>
    rw [hread] at h hfirst
    cases h
    exact hfirst
  | ok p =>
    obtain ⟨ts, rest, raw⟩ := p
    rw [hread] at h hfirst
    have hlast := covers_readOn true (rest.length + 1) ts raw rest
    simp only [bind, Except.bind] at h
    cases hreread : readOn true (rest.length + 1) ts raw rest with
    | error e =>
      rw [hreread] at h hlast
      cases h
      exact Fault.Occurs.mono hlast (List.IsSuffix.isInfix hfirst)
    | ok q =>
      rw [hreread] at h
      cases h

/-- A text that cannot be read holds a section that opens between brackets, or a character number with too
many digits. -/
theorem read_eq_error {text : String} {f : Fault} (h : read text = .error f) : f.Occurs text.toList := by
  unfold read at h
  cases hscan : Token.scan text.toList with
  | error e =>
    rw [hscan] at h
    cases h
    exact scan_eq_error hscan
  | ok ts =>
    rw [hscan] at h
    cases h

end ClientForge.Html
