import ClientForge.Decimal.Notation
import ClientForge.Proofs.Json.Number

/-!
The text of a finite number is a decimal (`isDecimal_magnitude`): it has places or an exponent, and no zero
in front. For that the shortest decimal of a number has to be zero only where the number is
(`shortest_digits_pos`).
-/

namespace ClientForge.Decimal

open Json

/-! ## No shortest decimal is zero -/

theorem low_pos {x : Double} (h : x.significand ≠ 0) : 0 < (Interval.of x).low := by
  unfold Interval.of
  simp only
  split <;> omega

/-- Zero rounds to no other number. -/
theorem holds_zero {i : Interval} (h : 0 < i.low) (e : Int) : i.holds 0 e = false := by
  have hpos : 0 < i.low * Nat.pow 2 i.scale.toNat * Nat.pow 10 (-e).toNat :=
    Nat.mul_pos (Nat.mul_pos h (Nat.pow_pos (by decide))) (Nat.pow_pos (by decide))
  unfold Interval.holds onCommonUnit
  simp only [Nat.zero_mul]
  split
  · simp only [Bool.and_eq_false_iff, decide_eq_false_iff_not]
    omega
  · simp only [Bool.and_eq_false_iff, decide_eq_false_iff_not]
    omega

theorem pick?_digits_pos {i : Interval} (h : 0 < i.low) {e : Int} {s : Scaled} (hs : i.pick? e = some s) :
    0 < s.digits := by
  have hfloor : i.holds (i.floor e) e = true → 0 < i.floor e := by
    intro hholds
    refine Nat.pos_of_ne_zero fun hzero => ?_
    rw [hzero, holds_zero h] at hholds
    cases hholds
  unfold Interval.pick? at hs
  simp only at hs
  split at hs
  · rename_i hholds _
    cases hs
    simp only
    split
    · exact hfloor hholds
    · omega
  · rename_i hholds _
    cases hs
    exact hfloor hholds
  · cases hs
    simp
  · cases hs

/-- Where a grid has a multiple below the number, the next finer grid has one. -/
theorem floor_pos_pred {i : Interval} {e : Int} (h : 0 < i.floor e) : 0 < i.floor (e - 1) := by
  unfold Interval.floor at h ⊢
  rw [Nat.div_pos_iff] at h ⊢
  obtain ⟨hunit, hle⟩ := h
  refine ⟨Nat.mul_pos (Nat.pow_pos (by decide)) (Nat.pow_pos (by decide)), ?_⟩
  by_cases hpos : 0 < e
  · have h₁ : (-(e - 1)).toNat = (-e).toNat := by omega
    have h₂ : Nat.pow 10 (e - 1).toNat ≤ Nat.pow 10 e.toNat := Nat.pow_le_pow_right (by decide) (by omega)
    rw [h₁]
    exact Nat.le_trans (Nat.mul_le_mul_right _ h₂) hle
  · have h₁ : (e - 1).toNat = e.toNat := by omega
    have h₂ : Nat.pow 10 (-e).toNat ≤ Nat.pow 10 (-(e - 1)).toNat :=
      Nat.pow_le_pow_right (by decide) (by omega)
    rw [h₁]
    exact Nat.le_trans hle (Nat.mul_le_mul_left _ h₂)

theorem firstHit_digits_pos {i : Interval} (h : 0 < i.low) {e : Int} (hfloor : 0 < i.floor e) (fuel : Nat) :
    0 < (i.firstHit e fuel).digits := by
  induction fuel generalizing e with
  | zero => exact hfloor
  | succ fuel ih =>
    unfold Interval.firstHit
    cases hpick : i.pick? e with
    | none => exact ih (floor_pos_pred hfloor)
    | some s => exact pick?_digits_pos h hpick

/-- The search for the leading digit finds one, if there is one as far down as it goes. -/
theorem floor_leading_pos {i : Interval} (e : Int) (fuel : Nat) (h : 0 < i.floor (e - fuel)) :
    0 < i.floor (i.leading e fuel) := by
  induction fuel generalizing e with
  | zero => simpa [Interval.leading] using h
  | succ fuel ih =>
    unfold Interval.leading
    split
    · assumption
    · refine ih (e - 1) ?_
      have heq : e - 1 - (fuel : Int) = e - ((fuel + 1 : Nat) : Int) := by omega
      rw [heq]
      exact h

theorem normal_digits_pos {s : Scaled} (h : 0 < s.digits) (fuel : Nat) : 0 < (s.normal fuel).digits := by
  induction fuel generalizing s with
  | zero => exact h
  | succ fuel ih =>
    unfold Scaled.normal
    split
    · rename_i hzero
      refine ih ?_
      simp only [Bool.and_eq_true, decide_eq_true_eq] at hzero
      simp only
      omega
    · exact h

/-- Every number but zero has a multiple of the finest grid below it. -/
theorem floor_finest_pos {x : Double} (h : x.significand ≠ 0) {e : Int} (he : e ≤ -345) :
    0 < (Interval.of x).floor e := by
  have hscale : (-(Interval.of x).scale).toNat ≤ 1076 := by
    simp only [Interval.of, Double.exponent]
    omega
  have hunits : 0 < (Interval.of x).units := by
    simp only [Interval.of]
    omega
  -- Thirteen twos are no more than four tens, and 83 times as many of both are enough.
  obtain ⟨k, hk₂, hk₁₀⟩ : ∃ k, 1076 ≤ 13 * k ∧ 4 * k ≤ 345 := ⟨83, by decide, by decide⟩
  have hgrid : 2 ^ (13 * k) ≤ 10 ^ (4 * k) := by
    rw [Nat.pow_mul, Nat.pow_mul]
    exact Nat.pow_le_pow_left (by decide) k
  unfold Interval.floor
  rw [Nat.div_pos_iff]
  refine ⟨Nat.mul_pos (Nat.pow_pos (by decide)) (Nat.pow_pos (by decide)), ?_⟩
  have he' : e.toNat = 0 := by omega
  calc Nat.pow 10 e.toNat * Nat.pow 2 (-(Interval.of x).scale).toNat
      = 2 ^ (-(Interval.of x).scale).toNat := by rw [he']; simp
    _ ≤ 2 ^ (13 * k) := Nat.pow_le_pow_right (by decide) (by omega)
    _ ≤ 10 ^ (4 * k) := hgrid
    _ ≤ 10 ^ (-e).toNat := Nat.pow_le_pow_right (by decide) (by omega)
    _ ≤ (Interval.of x).units * Nat.pow 2 (Interval.of x).scale.toNat * Nat.pow 10 (-e).toNat :=
        Nat.le_mul_of_pos_left _ (Nat.mul_pos hunits (Nat.pow_pos (by decide)))

theorem shortest_digits_pos {x : Double} (h : x.significand ≠ 0) : 0 < (shortest x).digits := by
  unfold shortest
  rw [if_neg h]
  refine normal_digits_pos (firstHit_digits_pos (low_pos h) (floor_leading_pos _ _ ?_) 17) 20
  refine floor_finest_pos h ?_
  omega

theorem shortest_zero {x : Double} (h : (shortest x).digits = 0) : (shortest x).exponent = 0 := by
  by_cases hx : x.significand = 0
  · simp [shortest, hx]
  · exact absurd h (Nat.pos_iff_ne_zero.1 (shortest_digits_pos hx))

/-! ## Digits -/

/-- The digits of a number other than zero start with no zero. -/
theorem repr_head {n : Nat} (h : n ≠ 0) : ∃ c w, (Nat.repr n).toList = c :: w ∧ c ≠ '0' := by
  rw [Nat.toList_repr]
  induction n using Nat.strongRecOn with
  | ind n ih =>
    by_cases hlt : n < 10
    · have hdigit : ∀ m, m < 10 → m ≠ 0 → Nat.digitChar m ≠ '0' := by decide
      exact ⟨Nat.digitChar n, [], Nat.toDigits_of_lt_base hlt, hdigit n hlt h⟩
    · obtain ⟨c, w, hcw, hc⟩ := ih (n / 10) (by omega) (by omega)
      refine ⟨c, w ++ [Nat.digitChar (n % 10)], ?_, hc⟩
      rw [Nat.toDigits_of_base_le (by decide) (by omega), hcw, List.cons_append]

theorem padLeft_ne_nil (width : Nat) {s : List Char} (h : s ≠ []) : padLeft width s ≠ [] := by
  simp [padLeft, h]

theorem allDigits_padLeft (width : Nat) {s : List Char} (h : AllDigits s) : AllDigits (padLeft width s) :=
  allDigits_append.2 ⟨allDigits_replicate_zero _, h⟩

/-! ## Notation -/

/-- The positional text is a decimal, if there is no zero in front, or nothing but one zero. -/
theorem isDecimal_positional {ds : List Char} {places : Int} (hds : AllDigits ds) (hlimit : places < integerLimit)
    (h : (ds = ['0'] ∧ places = 1) ∨ ∃ c w, ds = c :: w ∧ c ≠ '0') :
    ∃ digits exponent, IsDecimal (positional ds places) digits exponent := by
  have hne : ds ≠ [] := by
    rcases h with ⟨rfl, -⟩ | ⟨c, w, rfl, -⟩
    · simp
    · simp
  unfold positional
  split
  · exact ⟨_, _, .positional (Or.inl rfl) (by decide) (by simp [hne])
      (allDigits_append.2 ⟨allDigits_replicate_zero _, hds⟩)⟩
  · rename_i hplaces
    have hshort : places.toNat < integerLimit := by omega
    simp only
    split
    · rename_i hlen
      have hwhole : IsWhole (ds ++ List.replicate (places.toNat - ds.length) '0') := by
        rcases h with ⟨rfl, rfl⟩ | ⟨c, w, rfl, hc⟩
        · exact Or.inl rfl
        · exact Or.inr ⟨c, _, rfl, hc, allDigits_append.2 ⟨hds, allDigits_replicate_zero _⟩⟩
      have hlen' : (ds ++ List.replicate (places.toNat - ds.length) '0').length < integerLimit := by
        rw [List.length_append, List.length_replicate]
        omega
      exact ⟨_, _, .positional hwhole hlen' (by simp) (allDigits_replicate_zero 1)⟩
    · rename_i hlen
      have hsplit : AllDigits (ds.take places.toNat) ∧ AllDigits (ds.drop places.toNat) :=
        allDigits_append.1 (by rw [List.take_append_drop]; exact hds)
      have hwhole : IsWhole (ds.take places.toNat) := by
        rcases h with ⟨rfl, rfl⟩ | ⟨c, w, rfl, hc⟩
        · exact absurd (Nat.le_refl 1) hlen
        · obtain ⟨n, hn⟩ : ∃ n, places.toNat = n + 1 := ⟨places.toNat - 1, by omega⟩
          rw [hn] at hsplit ⊢
          exact Or.inr ⟨c, w.take n, rfl, hc, hsplit.1⟩
      have htake : (ds.take places.toNat).length < integerLimit :=
        Nat.lt_of_le_of_lt (List.length_take_le _ _) hshort
      refine ⟨_, _, .positional hwhole htake (fun hdrop => hlen ?_) hsplit.2⟩
      exact List.drop_eq_nil_iff.1 hdrop

theorem isDecimal_scientific {ds : List Char} (e : Int) (hds : AllDigits ds)
    (h : ∃ c w, ds = c :: w ∧ c ≠ '0') :
    ∃ digits exponent, IsDecimal (scientific ds e) digits exponent := by
  obtain ⟨c, w, rfl, hc⟩ := h
  have hpower : AllDigits (padLeft exponentWidth (Nat.repr e.natAbs).toList) :=
    allDigits_padLeft _ (allDigits_repr _)
  have hpowerNe : padLeft exponentWidth (Nat.repr e.natAbs).toList ≠ [] :=
    padLeft_ne_nil _ (repr_toList_ne_nil _)
  have hhead : IsWhole [c] := Or.inr ⟨c, [], rfl, hc, fun d hd => hds d (by simp_all)⟩
  have hshort : [c].length < integerLimit := by simp [integerLimit]
  have hsign : (if e < 0 then '-' else '+') = signOf (decide (e < 0)) := by simp [signOf]
  unfold scientific
  simp only [hsign]
  cases w with
  | nil => exact ⟨_, _, .scientific _ hhead hshort hpowerNe hpower⟩
  | cons d w =>
    have hplaces : AllDigits (d :: w) := fun b hb => hds b (List.mem_cons_of_mem _ hb)
    exact ⟨_, _, .both _ hhead hshort (by simp) hplaces hpowerNe hpower⟩

/-- The text of a finite number is a decimal after its sign, where positional notation ends in time. -/
theorem isDecimal_magnitude {f : Notation} (hf : f.highest + 1 < integerLimit) (x : Double) :
    ∃ digits exponent, IsDecimal (f.magnitude x) digits exponent := by
  have hds := allDigits_repr (shortest x).digits
  unfold Notation.magnitude
  simp only
  split
  · rename_i h
    by_cases hzero : (shortest x).digits = 0
    · rw [hzero, shortest_zero hzero]
      exact isDecimal_positional (allDigits_repr 0) (by decide) (.inl ⟨rfl, rfl⟩)
    · simp only [hzero, decide_false, Bool.false_or, Bool.and_eq_true, decide_eq_true_eq] at h
      exact isDecimal_positional hds (by omega) (.inr (repr_head hzero))
  · rename_i h
    have hne : (shortest x).digits ≠ 0 := fun hzero => h (by simp [hzero])
    exact isDecimal_scientific _ hds (repr_head hne)

theorem isDecimal_saved (x : Double) : ∃ digits exponent, IsDecimal (saved.magnitude x) digits exponent :=
  isDecimal_magnitude (by decide) x

end ClientForge.Decimal
