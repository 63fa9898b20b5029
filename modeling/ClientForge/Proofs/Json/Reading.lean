import ClientForge.Json.Reader
import ClientForge.Proofs.Endpoints
import Mathlib.Data.List.TakeWhile

/-!
What a text is that is read as a value. A word or a number is a piece of letters, digits and signs at the
front of the text (`readScalar_cases`); other values show by their first character what they are
(`readValue_cases`), so only a text that starts with a brace holds an object.
-/

namespace ClientForge.Json

/-- The characters of words and numbers. -/
def isScalarChar (c : Char) : Bool := c.isAlphanum || c == '+' || c == '-' || c == '.'

/-- Is the value neither an array nor an object? -/
def IsScalar (v : Json) : Prop := (∀ xs, v ≠ .array xs) ∧ ∀ ms, v ≠ .object ms

/-- Words and numbers start with a letter or digit `c`, or with one after a minus sign. -/
def StartsScalar (c : Char) (t : List Char) : Prop :=
  c.isAlphanum = true ∨ c = '-' ∧ ∃ d u, t = d :: u ∧ d.isAlphanum = true

/-- The text starts with a piece of a word or number, before `rest`. -/
def TakesScalar (s rest : List Char) : Prop :=
  ∃ w, s = w ++ rest ∧ ∀ c ∈ w, isScalarChar c = true

namespace TakesScalar

theorem refl (s : List Char) : TakesScalar s s := ⟨[], rfl, fun _ hc => nomatch hc⟩

theorem cons {c : Char} {s rest : List Char} (hc : isScalarChar c = true) (h : TakesScalar s rest) :
    TakesScalar (c :: s) rest := by
  obtain ⟨w, rfl, hw⟩ := h
  exact ⟨c :: w, rfl, List.forall_mem_cons.2 ⟨hc, hw⟩⟩

theorem trans {s t rest : List Char} (h : TakesScalar s t) (h' : TakesScalar t rest) : TakesScalar s rest := by
  obtain ⟨w, rfl, hw⟩ := h
  obtain ⟨u, rfl, hu⟩ := h'
  exact ⟨w ++ u, (List.append_assoc ..).symm, fun c hc => (List.mem_append.1 hc).elim (hw c) (hu c)⟩

end TakesScalar

/-! ## Numbers -/

theorem isAlphanum_of_isDigit {c : Char} (h : isDigit c = true) : c.isAlphanum = true := by
  have hdigit : c.isDigit = true := h
  simp [Char.isAlphanum, hdigit]

theorem isScalarChar_of_isDigit {c : Char} (h : isDigit c = true) : isScalarChar c = true := by
  simp [isScalarChar, isAlphanum_of_isDigit h]

theorem takesScalar_digits (s : List Char) : TakesScalar s (digits s).2 := by
  refine ⟨(digits s).1, (List.takeWhile_append_dropWhile).symm, fun c hc => ?_⟩
  exact isScalarChar_of_isDigit (List.mem_takeWhile_imp hc)

/-- Digits that are read stand in front. -/
theorem takesScalar_of_digits {s ds rest : List Char} (h : digits s = (ds, rest)) : TakesScalar s rest := by
  have hrest := takesScalar_digits s
  rwa [h] at hrest

theorem digits_of_cons {s : List Char} {c : Char} {ds rest : List Char} (h : digits s = (c :: ds, rest)) :
    ∃ t, s = c :: t ∧ isDigit c = true ∧ digits t = (ds, rest) := by
  cases s with
  | nil => cases h
  | cons d t =>
    by_cases hd : isDigit d = true
    · simp only [digits, List.takeWhile_cons, List.dropWhile_cons, hd, if_true, Prod.mk.injEq,
        List.cons.injEq] at h
      obtain ⟨⟨rfl, hds⟩, hrest⟩ := h
      exact ⟨t, rfl, hd, by rw [digits, hds, hrest]⟩
    · simp [digits, hd] at h

theorem takesScalar_wholeDigits? {s ds rest : List Char} (h : wholeDigits? s = some (ds, rest)) :
    ∃ c t, s = c :: t ∧ isDigit c = true ∧ TakesScalar t rest := by
  unfold wholeDigits? at h
  split at h
  · cases h
    exact ⟨'0', _, rfl, rfl, .refl _⟩
  · cases hd : digits s with
    | mk found left =>
      rw [hd] at h
      cases found with
      | nil => cases h
      | cons c found =>
        cases h
        obtain ⟨t, rfl, hc, ht⟩ := digits_of_cons hd
        exact ⟨c, t, rfl, hc, takesScalar_of_digits ht⟩

theorem takesScalar_fractionDigits? {s ds rest : List Char} (h : fractionDigits? s = some (ds, rest)) :
    TakesScalar s rest := by
  unfold fractionDigits? at h
  split at h
  · rename_i t
    cases hd : digits t with
    | mk found left =>
      rw [hd] at h
      cases found with
      | nil => cases h
      | cons c found =>
        cases h
        exact (takesScalar_of_digits hd).cons rfl
  · cases h

theorem takesScalar_exponent? {s rest : List Char} {n : Int} (h : exponent? s = some (n, rest)) :
    TakesScalar s rest := by
  unfold exponent? at h
  split at h
  · rename_i e t
    split at h
    · rename_i he
      have hletter : isScalarChar e = true := by
        simp only [Bool.or_eq_true, decide_eq_true_eq] at he
        rcases he with rfl | rfl <;> rfl
      refine TakesScalar.cons hletter ?_
      split at h
      rename_i signed negative u hsign
      have hsigned : TakesScalar t u := by
        split at hsign
        · cases hsign
          exact (TakesScalar.refl _).cons rfl
        · cases hsign
          exact (TakesScalar.refl _).cons rfl
        · cases hsign
          exact .refl _
      refine hsigned.trans ?_
      cases hd : digits u with
      | mk found left =>
        rw [hd] at h
        cases found with
        | nil => cases h
        | cons c found =>
          cases h
          exact takesScalar_of_digits hd
    · cases h
  · cases h

theorem readNumber_cases {strict negative : Bool} {left : Nat} {s rest : List Char} {v : Json}
    (h : readNumber strict negative left s = .ok (v, rest)) :
    (∃ c t, s = c :: t ∧ isDigit c = true ∧ TakesScalar t rest) ∧ IsScalar v := by
  unfold readNumber at h
  split at h
  · cases h
  · rename_i whole t hwhole
    obtain ⟨c, u, rfl, hc, hu⟩ := takesScalar_wholeDigits? hwhole
    have hfraction : TakesScalar t (((fractionDigits? t).map (·.2)).getD t) := by
      cases hf : fractionDigits? t with
      | none => exact .refl t
      | some found => exact takesScalar_fractionDigits? hf
    have hscale : ∀ t', TakesScalar t' (((exponent? t').map (·.2)).getD t') := by
      intro t'
      cases he : exponent? t' with
      | none => exact .refl t'
      | some found => exact takesScalar_exponent? he
    have hrest := (hu.trans hfraction).trans (hscale _)
    simp only at h
    split at h
    · split at h
      · cases h
      · cases h
        exact ⟨⟨c, u, rfl, hc, hrest⟩, by simp [IsScalar]⟩
    · split at h
      · cases h
      · cases h
        exact ⟨⟨c, u, rfl, hc, hrest⟩, by simp [IsScalar]⟩

/-! ## Words -/

theorem eq_append_of_after? {p s rest : List Char} (h : Text.after? p s = some rest) : s = p ++ rest := by
  fun_induction Text.after? p s with
  | case1 s => cases h; rfl
  | case2 => cases h
  | case3 p a s ih => rw [ih h, List.cons_append]
  | case4 => cases h

/-- A word that is read stands in front, and has characters of words. -/
theorem takesScalar_of_word {c : Char} {w s rest : List Char} {v found : Json}
    (hstart : StartsScalar c w) (hw : w.all isScalarChar = true) (hv : IsScalar v)
    (h : (Text.after? (c :: w) s).map (fun r => (v, r)) = some (found, rest)) :
    (∃ d t, s = d :: t ∧ StartsScalar d t ∧ TakesScalar t rest) ∧ IsScalar found := by
  obtain ⟨r, hr, heq⟩ := Option.map_eq_some_iff.1 h
  cases heq
  have hstart' : StartsScalar c (w ++ rest) := by
    refine hstart.imp_right fun ⟨hc, d, u, hu, hd⟩ => ⟨hc, d, u ++ rest, ?_, hd⟩
    rw [hu, List.cons_append]
  exact ⟨⟨c, w ++ rest, eq_append_of_after? hr, hstart', w, rfl, List.all_eq_true.1 hw⟩, hv⟩

/-- A word or a number starts as one should, and goes on with its characters. -/
theorem readScalar_cases {strict : Bool} {s rest : List Char} {v : Json}
    (h : readScalar strict s = .ok (v, rest)) :
    (∃ c t, s = c :: t ∧ StartsScalar c t ∧ TakesScalar t rest) ∧ IsScalar v := by
  unfold readScalar at h
  simp only at h
  split at h
  · rename_i found _ hwords
    cases h
    simp only [Option.orElse_eq_orElse, Option.orElse_eq_or, Option.or_eq_some_iff] at hwords
    rcases hwords with h | ⟨-, h | ⟨-, h | ⟨-, h | ⟨-, h | ⟨-, h⟩⟩⟩⟩⟩
    -- Of the words only the last has a sign.
    case inr.inr.inr.inr.inr =>
      exact takesScalar_of_word (.inr ⟨rfl, 'I', _, rfl, by decide⟩) (by decide) (by simp [IsScalar]) h
    all_goals exact takesScalar_of_word (.inl (by decide)) (by decide) (by simp [IsScalar]) h
  · rename_i t _
    obtain ⟨⟨c, u, rfl, hc, hu⟩, hv⟩ := readNumber_cases h
    have hstart : StartsScalar '-' (c :: u) := .inr ⟨rfl, c, u, rfl, isAlphanum_of_isDigit hc⟩
    exact ⟨⟨'-', _, rfl, hstart, hu.cons (isScalarChar_of_isDigit hc)⟩, hv⟩
  · obtain ⟨⟨c, u, rfl, hc, hu⟩, hv⟩ := readNumber_cases h
    exact ⟨⟨c, u, rfl, .inl (isAlphanum_of_isDigit hc), hu⟩, hv⟩

/-! ## Steps of reading -/

/-- Texts, arrays and objects start with characters of their own; the other values are scalars. -/
theorem readValue_cases {strict : Bool} {levels fuel : Nat} {s rest : List Char} {v : Json}
    (h : readValue strict levels (fuel + 1) s = .ok (v, rest)) :
    (∃ t name, s = '"' :: t ∧ v = .text name ∧ readText strict t = .ok (name, rest)) ∨
    (∃ t xs, s = '[' :: t ∧ v = .array xs ∧
      (xs = [] ∧ skipBlanks t = ']' :: rest ∨ readItems strict (levels - 1) fuel [] (skipBlanks t) = .ok (xs, rest))) ∨
    (∃ t ms, s = '\x7b' :: t ∧ v = .object ms ∧
      (ms = [] ∧ skipBlanks t = '\x7d' :: rest ∨
        readMembers strict (levels - 1) fuel [] (skipBlanks t) = .ok (ms, rest))) ∨
    readScalar strict s = .ok (v, rest) := by
  unfold readValue at h
  split at h
  · obtain ⟨⟨name, _⟩, hread, heq⟩ := map_eq_ok.1 h
    cases heq
    exact .inl ⟨_, name, rfl, rfl, hread⟩
  · split at h
    · rename_i hclose
      cases h
      exact .inr (.inl ⟨_, [], rfl, rfl, .inl ⟨rfl, hclose⟩⟩)
    · split at h
      · cases h
      · obtain ⟨⟨xs, _⟩, hitems, heq⟩ := map_eq_ok.1 h
        cases heq
        exact .inr (.inl ⟨_, xs, rfl, rfl, .inr hitems⟩)
  · split at h
    · rename_i hclose
      cases h
      exact .inr (.inr (.inl ⟨_, [], rfl, rfl, .inl ⟨rfl, hclose⟩⟩))
    · split at h
      · cases h
      · obtain ⟨⟨ms, _⟩, hmembers, heq⟩ := map_eq_ok.1 h
        cases heq
        exact .inr (.inr (.inl ⟨_, ms, rfl, rfl, .inr hmembers⟩))
  · exact .inr (.inr (.inr h))

/-- An item is read, and after it the closing bracket or a comma and more items. -/
theorem readItems_cases {strict : Bool} {levels fuel : Nat} {acc xs : List Json} {s rest : List Char}
    (h : readItems strict levels (fuel + 1) acc s = .ok (xs, rest)) :
    ∃ v t, readValue strict levels fuel s = .ok (v, t) ∧
      (skipBlanks t = ']' :: rest ∨
        ∃ u, skipBlanks t = ',' :: u ∧ readItems strict levels fuel (v :: acc) (skipBlanks u) = .ok (xs, rest)) := by
  unfold readItems at h
  split at h
  · cases h
  · rename_i v t hvalue
    refine ⟨v, t, hvalue, ?_⟩
    split at h
    · rename_i hclose
      cases h
      exact .inl hclose
    · rename_i u hcomma
      exact .inr ⟨u, hcomma, h⟩
    · cases h

/-- A name, a colon and a value are read, and after them the closing brace or a comma and more members. -/
theorem readMembers_cases {strict : Bool} {levels fuel : Nat} {acc ms : List (String × Json)} {s rest : List Char}
    (h : readMembers strict levels (fuel + 1) acc s = .ok (ms, rest)) :
    ∃ q name t u v w, s = '"' :: q ∧ readText strict q = .ok (name, t) ∧ skipBlanks t = ':' :: u ∧
      readValue strict levels fuel (skipBlanks u) = .ok (v, w) ∧
      (skipBlanks w = '\x7d' :: rest ∧ ms = put name v acc ∨
        ∃ x, skipBlanks w = ',' :: x ∧ readMembers strict levels fuel (put name v acc) (skipBlanks x) = .ok (ms, rest)) := by
  unfold readMembers at h
  split at h
  · rename_i q
    split at h
    · cases h
    · rename_i name t hname
      split at h
      · rename_i u hcolon
        split at h
        · cases h
        · rename_i v w hvalue
          refine ⟨q, name, t, u, v, w, rfl, hname, hcolon, hvalue, ?_⟩
          simp only at h
          split at h
          · rename_i hclose
            cases h
            exact .inl ⟨hclose, rfl⟩
          · rename_i x hcomma
            exact .inr ⟨x, hcomma, h⟩
          · cases h
      · cases h
  · cases h

/-! ## Members -/

theorem mem_names_put {name k : String} {v : Json} {ms : List (String × Json)} :
    k ∈ (put name v ms).map Prod.fst ↔ k = name ∨ k ∈ ms.map Prod.fst := by
  induction ms with
  | nil => simp [put]
  | cons m ms ih =>
    obtain ⟨n, w⟩ := m
    unfold put
    split
    · rename_i heq
      subst heq
      simp
    · rw [List.map_cons, List.mem_cons, ih, List.map_cons, List.mem_cons]
      tauto

/-- Members are only added. -/
theorem names_of_readMembers {strict : Bool} {levels fuel : Nat} {acc ms : List (String × Json)} {s rest : List Char}
    (h : readMembers strict levels fuel acc s = .ok (ms, rest)) {k : String} (hk : k ∈ acc.map Prod.fst) :
    k ∈ ms.map Prod.fst := by
  induction fuel generalizing acc s with
  | zero => cases h
  | succ fuel ih =>
    obtain ⟨_, name, _, _, v, _, -, -, -, -, ⟨-, rfl⟩ | ⟨_, -, hmore⟩⟩ := readMembers_cases h
    · exact mem_names_put.2 (.inr hk)
    · exact ih hmore (mem_names_put.2 (.inr hk))

/-! ## Objects -/

theorem starts_of_readValue_object {strict : Bool} {levels fuel : Nat} {s rest : List Char} {ms : List (String × Json)}
    (h : readValue strict levels fuel s = .ok (.object ms, rest)) : ∃ t, s = '\x7b' :: t := by
  cases fuel with
  | zero => cases h
  | succ fuel =>
    rcases readValue_cases h with ⟨_, _, -, hv, -⟩ | ⟨_, _, -, hv, -⟩ | ⟨t, _, hs, -⟩ | hscalar
    · cases hv
    · cases hv
    · exact ⟨t, hs⟩
    · exact absurd rfl ((readScalar_cases hscalar).2.2 ms)

theorem readDocument_of_read {text : String} {v : Json} (h : read text = .ok v) :
    readDocument false text.length text.toList = .ok v := by
  cases hread : readDocument false text.length text.toList with
  | error stop => simp [read, readWithin, hread, Except.mapError] at h
  | ok v => simpa [read, readWithin, hread, Except.mapError] using h

/-- A document is a value between blanks, without a byte order mark. -/
theorem readDocument_eq_ok {strict : Bool} {levels : Nat} {s : List Char} {v : Json}
    (h : readDocument strict levels s = .ok v) :
    s.head? ≠ some '\uFEFF' ∧ ∃ fuel rest, readValue strict levels fuel (skipBlanks s) = .ok (v, rest) ∧
      skipBlanks rest = [] := by
  unfold readDocument at h
  split at h
  · cases h
  · rename_i hmark
    split at h
    · cases h
    · rename_i hvalue
      split at h
      · rename_i hend
        cases h
        refine ⟨fun hhead => ?_, _, _, hvalue, hend⟩
        obtain ⟨t, rfl⟩ := List.head?_eq_some_iff.1 hhead
        exact hmark t rfl
      · cases h

/-- A text that holds an object is not blank. -/
theorem brace_mem_of_read_object {text : String} {ms : List (String × Json)} (h : read text = .ok (.object ms)) :
    '\x7b' ∈ text.toList := by
  obtain ⟨-, fuel, rest, hvalue, -⟩ := readDocument_eq_ok (readDocument_of_read h)
  obtain ⟨t, ht⟩ := starts_of_readValue_object hvalue
  have hmem : '\x7b' ∈ skipBlanks text.toList := ht ▸ List.mem_cons_self
  exact (List.dropWhile_sublist _).subset hmem

end ClientForge.Json
