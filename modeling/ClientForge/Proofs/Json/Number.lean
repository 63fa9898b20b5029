import ClientForge.Json.Reader
import ClientForge.Proofs.Numbering

/-!
Reading numbers. A number is read up to the first character that cannot go on with it, and what it
stands for depends on its digits, its places and its exponent alone: without places and exponent it is
an integer (`readNumber_whole`), else a decimal (`readNumber_decimal`).
-/

namespace ClientForge.Json

/-! ## Digits -/

def AllDigits (s : List Char) : Prop := ∀ c ∈ s, isDigit c = true

/-- Does a text start with no digit? -/
def DigitsEnd (s : List Char) : Prop := ∀ c ∈ s.head?, isDigit c = false

/-- Does a text start with nothing that goes on with a number? -/
def NumberEnds (s : List Char) : Prop := ∀ c ∈ s.head?, isDigit c = false ∧ c ≠ '.' ∧ c ≠ 'e' ∧ c ≠ 'E'

theorem NumberEnds.digitsEnd {s : List Char} (h : NumberEnds s) : DigitsEnd s := fun c hc => (h c hc).1

theorem numberEnds_nil : NumberEnds [] := by simp [NumberEnds]

theorem numberEnds_cons {c : Char} (h : isDigit c = false ∧ c ≠ '.' ∧ c ≠ 'e' ∧ c ≠ 'E') (s : List Char) :
    NumberEnds (c :: s) := by
  intro d hd
  cases hd
  exact h

theorem digitsEnd_cons {c : Char} (h : isDigit c = false) (s : List Char) : DigitsEnd (c :: s) := by
  intro d hd
  cases hd
  exact h

theorem allDigits_append {s t : List Char} : AllDigits (s ++ t) ↔ AllDigits s ∧ AllDigits t := by
  simp only [AllDigits, List.mem_append]
  exact ⟨fun h => ⟨fun c hc => h c (Or.inl hc), fun c hc => h c (Or.inr hc)⟩,
    fun h c hc => hc.elim (h.1 c) (h.2 c)⟩

theorem isDigit_eq (c : Char) : isDigit c = c.isDigit := rfl

theorem allDigits_repr (n : Nat) : AllDigits (Nat.repr n).toList := by
  intro c hc
  rw [isDigit_eq]
  exact isDigit_of_mem_repr hc

theorem allDigits_replicate_zero (n : Nat) : AllDigits (List.replicate n '0') := by
  intro c hc
  rw [List.eq_of_mem_replicate hc]
  rfl

/-- All digits in front are taken, and nothing after them. -/
theorem digits_append {ds rest : List Char} (hds : AllDigits ds) (hrest : DigitsEnd rest) :
    digits (ds ++ rest) = (ds, rest) := by
  have htake : rest.takeWhile isDigit = [] := by
    cases rest with
    | nil => rfl
    | cons c rest => simp [hrest c rfl]
  have hdrop : rest.dropWhile isDigit = rest := by
    cases rest with
    | nil => rfl
    | cons c rest => simp [hrest c rfl]
  unfold digits
  rw [List.takeWhile_append_of_pos hds, List.dropWhile_append_of_pos hds, htake, hdrop, List.append_nil]

theorem natOf_eq (ds : List Char) : natOf ds = Nat.ofDigitChars 10 ds 0 := by
  rw [natOf, Nat.ofDigitChars_eq_foldl]
  congr 1
  funext n d
  rw [Nat.mul_comm]
  rfl

theorem natOf_repr (n : Nat) : natOf (Nat.repr n).toList = n := by
  rw [natOf_eq, Nat.toList_repr, Nat.ofDigitChars_ten_toDigits]

/-! ## The parts of a number -/

/-- May the digits stand before the point? There is a zero alone, or no zero in front. -/
def IsWhole (ds : List Char) : Prop := ds = ['0'] ∨ ∃ c w, ds = c :: w ∧ c ≠ '0' ∧ AllDigits ds

theorem wholeDigits?_append {ds rest : List Char} (hds : IsWhole ds) (hrest : DigitsEnd rest) :
    wholeDigits? (ds ++ rest) = some (ds, rest) := by
  rcases hds with rfl | ⟨c, w, rfl, hc, hall⟩
  · rfl
  · have hdigits := digits_append hall hrest
    rw [List.cons_append] at hdigits ⊢
    unfold wholeDigits?
    split
    · rename_i heq
      exact absurd (List.cons.inj heq).1 hc
    · rw [hdigits]

theorem fractionDigits?_point {ds rest : List Char} (hne : ds ≠ []) (hds : AllDigits ds)
    (hrest : DigitsEnd rest) : fractionDigits? ('.' :: ds ++ rest) = some (ds, rest) := by
  obtain ⟨c, w, rfl⟩ := List.exists_cons_of_ne_nil hne
  have hdigits := digits_append hds hrest
  rw [List.cons_append, fractionDigits?, hdigits]

theorem fractionDigits?_eq_none {s : List Char} (h : ∀ c ∈ s.head?, c ≠ '.') : fractionDigits? s = none := by
  unfold fractionDigits?
  split
  · exact absurd rfl (h '.' rfl)
  · rfl

/-- The sign of an exponent. -/
def signOf (negative : Bool) : Char := if negative then '-' else '+'

/-- What the digits of an exponent stand for. -/
def exponentOf (negative : Bool) (ds : List Char) : Int := if negative then -(natOf ds : Int) else natOf ds

theorem exponent?_signed (negative : Bool) {ds rest : List Char} (hne : ds ≠ []) (hds : AllDigits ds)
    (hrest : DigitsEnd rest) :
    exponent? ('e' :: signOf negative :: ds ++ rest) = some (exponentOf negative ds, rest) := by
  obtain ⟨c, w, rfl⟩ := List.exists_cons_of_ne_nil hne
  have hdigits := digits_append hds hrest
  rw [List.cons_append] at hdigits
  cases negative <;> simp [exponent?, signOf, exponentOf, hdigits]

theorem exponent?_eq_none {s : List Char} (h : ∀ c ∈ s.head?, c ≠ 'e' ∧ c ≠ 'E') : exponent? s = none := by
  cases s with
  | nil => rfl
  | cons c s =>
    obtain ⟨h₁, h₂⟩ := h c rfl
    simp [exponent?, h₁, h₂]

/-! ## Numbers -/

/-- The digits before a point take up no more than they are and a sign. -/
theorem width_le (strict negative : Bool) (whole : List Char) : width strict negative whole ≤ whole.length + 1 := by
  unfold width
  split <;> omega

/-- Digits alone are an integer. -/
theorem readNumber_whole (strict negative : Bool) (left : Nat) {ds rest : List Char} (hds : IsWhole ds)
    (hlen : width strict negative ds ≤ integerLimit) (hrest : NumberEnds rest) :
    readNumber strict negative left (ds ++ rest) =
      .ok (.int (if negative then -(natOf ds : Int) else natOf ds), rest) := by
  have hfraction : fractionDigits? rest = none := fractionDigits?_eq_none fun c hc => (hrest c hc).2.1
  have hexponent : exponent? rest = none := exponent?_eq_none fun c hc => (hrest c hc).2.2
  have hlimit : ¬ integerLimit < width strict negative ds := by omega
  simp [readNumber, wholeDigits?_append hds hrest.digitsEnd, hfraction, hexponent, hlimit]

/-- An integer of too many digits is refused. -/
theorem readNumber_long (strict negative : Bool) (left : Nat) {ds rest : List Char} (hds : IsWhole ds)
    (hlen : integerLimit < width strict negative ds) (hrest : NumberEnds rest) :
    readNumber strict negative left (ds ++ rest) = .error ⟨.longInteger ds.length, left⟩ := by
  have hfraction : fractionDigits? rest = none := fractionDigits?_eq_none fun c hc => (hrest c hc).2.1
  have hexponent : exponent? rest = none := exponent?_eq_none fun c hc => (hrest c hc).2.2
  simp [readNumber, wholeDigits?_append hds hrest.digitsEnd, hfraction, hexponent, hlen]

/-- The text of a decimal, perhaps with an exponent. The digits before the point are fewer than limited. -/
inductive IsDecimal : List Char → Nat → Int → Prop where
  | positional {whole places : List Char} (hwhole : IsWhole whole) (hshort : whole.length < integerLimit)
      (hne : places ≠ []) (hplaces : AllDigits places) :
      IsDecimal (whole ++ '.' :: places) (natOf (whole ++ places)) (-places.length)
  | scientific {whole ds : List Char} (negative : Bool) (hwhole : IsWhole whole)
      (hshort : whole.length < integerLimit) (hne : ds ≠ []) (hds : AllDigits ds) :
      IsDecimal (whole ++ 'e' :: signOf negative :: ds) (natOf whole) (exponentOf negative ds)
  | both {whole places ds : List Char} (negative : Bool) (hwhole : IsWhole whole)
      (hshort : whole.length < integerLimit) (hne : places ≠ []) (hplaces : AllDigits places) (hne' : ds ≠ [])
      (hds : AllDigits ds) :
      IsDecimal (whole ++ '.' :: places ++ 'e' :: signOf negative :: ds) (natOf (whole ++ places))
        (exponentOf negative ds - places.length)

theorem digitsEnd_point (s : List Char) : DigitsEnd ('.' :: s) := digitsEnd_cons rfl s

theorem digitsEnd_e (s : List Char) : DigitsEnd ('e' :: s) := digitsEnd_cons rfl s

/-- A decimal is read to its end, and never as an integer. -/
theorem readNumber_decimal (strict negative : Bool) (left : Nat) {s rest : List Char} {digits : Nat}
    {exponent : Int} (h : IsDecimal s digits exponent) (hrest : NumberEnds rest) :
    readNumber strict negative left (s ++ rest) = .ok (.float (.ofDecimal negative digits exponent), rest) := by
  have hwidth {whole : List Char} (hshort : whole.length < integerLimit) :
      ¬ integerLimit < width strict negative whole := by
    have hle := width_le strict negative whole
    omega
  cases h with
  | positional hwhole hshort hne hplaces =>
    rename_i whole places
    have hpoint := wholeDigits?_append hwhole (digitsEnd_point (places ++ rest))
    have hfraction := fractionDigits?_point hne hplaces hrest.digitsEnd
    have hexponent : exponent? rest = none := exponent?_eq_none fun c hc => (hrest c hc).2.2
    simp only [List.append_assoc, List.cons_append] at hpoint hfraction ⊢
    simp [readNumber, hpoint, hfraction, hexponent, hwidth hshort]
  | scientific sign hwhole hshort hne hds =>
    rename_i whole ds
    have hpoint := wholeDigits?_append hwhole (digitsEnd_e (signOf sign :: ds ++ rest))
    have hfraction : fractionDigits? ('e' :: (signOf sign :: ds ++ rest)) = none :=
      fractionDigits?_eq_none (by simp)
    have hexponent := exponent?_signed sign hne hds hrest.digitsEnd
    simp only [List.append_assoc, List.cons_append] at hpoint hfraction hexponent ⊢
    simp [readNumber, hpoint, hfraction, hexponent, hwidth hshort]
  | both sign hwhole hshort hne hplaces hne' hds =>
    rename_i whole places ds
    have hpoint := wholeDigits?_append hwhole (digitsEnd_point (places ++ 'e' :: signOf sign :: ds ++ rest))
    have hfraction := fractionDigits?_point hne hplaces (digitsEnd_e (signOf sign :: ds ++ rest))
    have hexponent := exponent?_signed sign hne' hds hrest.digitsEnd
    simp only [List.append_assoc, List.cons_append] at hpoint hfraction hexponent ⊢
    simp [readNumber, hpoint, hfraction, hexponent, hwidth hshort]

end ClientForge.Json
