import ClientForge.Value.Basic
import Mathlib.Algebra.Order.Ring.Int
import Mathlib.Data.Nat.Bitwise
import Mathlib.Tactic.Ring

/-!
When two keys are the same. Every key has a form (`Value.keyForm`), in which a number is its value and a point
in time its instant, and two keys are the same exactly if their forms are equal (`Value.sameKey_iff`). So being
the same is symmetric and transitive on keys, although a key may be an integer, a truth value or a number with
a point. What carries this is that a number with a point is known by its sign and its size
(`Double.ext_size`): two that stand for one integer are equal but for the sign of zero.
-/

namespace ClientForge

/-! ## Numbers with a point -/

namespace Double

theorem exponentField_eq (x : Double) : x.exponentField = x.bits.toNat / 2 ^ 52 % 2 ^ 11 := by
  rw [exponentField, UInt64.toNat_and, UInt64.toNat_shiftRight]
  exact (Nat.and_two_pow_sub_one_eq_mod _ 11).trans (congrArg (· % 2 ^ 11) (Nat.shiftRight_eq_div_pow _ 52))

theorem fraction_eq (x : Double) : x.fraction = x.bits.toNat % 2 ^ 52 := by
  rw [fraction, UInt64.toNat_and]
  exact Nat.and_two_pow_sub_one_eq_mod _ 52

theorem isNegative_iff (x : Double) : x.isNegative = true ↔ 2 ^ 63 ≤ x.bits.toNat := by
  have hshift : (x.bits >>> 63).toNat = x.bits.toNat / 2 ^ 63 := by
    rw [UInt64.toNat_shiftRight]
    exact Nat.shiftRight_eq_div_pow _ 63
  have hlt := x.bits.toNat_lt
  rw [isNegative, beq_iff_eq, ← UInt64.toNat_inj, hshift]
  show _ = 1 ↔ _
  omega

/-- A number is known by its sign, its exponent and its fraction. -/
theorem ext_fields {x y : Double} (hsign : x.isNegative = y.isNegative) (hexponent : x.exponentField = y.exponentField)
    (hfraction : x.fraction = y.fraction) : x = y := by
  have hx := x.bits.toNat_lt
  have hy := y.bits.toNat_lt
  have hsign' : 2 ^ 63 ≤ x.bits.toNat ↔ 2 ^ 63 ≤ y.bits.toNat := by
    rw [← isNegative_iff, ← isNegative_iff, hsign]
  rw [exponentField_eq, exponentField_eq] at hexponent
  rw [fraction_eq, fraction_eq] at hfraction
  have hbits : x.bits = y.bits := UInt64.toNat_inj.1 (by omega)
  cases x
  cases y
  exact congrArg mk hbits

/-- The exponent above that of the finest step. -/
def scale (x : Double) : Nat := max x.exponentField 1

theorem significand_lt (x : Double) : x.significand < 2 ^ 53 := by
  have hfraction : x.fraction < 2 ^ 52 := by rw [fraction_eq]; exact Nat.mod_lt _ (by decide)
  unfold significand
  split
  · omega
  · show 2 ^ 52 + _ < _
    omega

/-- Only the finest numbers have a significand without its first bit. -/
theorem le_significand {x : Double} (h : 1 < x.scale) : 2 ^ 52 ≤ x.significand := by
  unfold scale at h
  rw [significand, if_neg (by omega)]
  exact Nat.le_add_right _ _

theorem ext_significand {x y : Double} (hsign : x.isNegative = y.isNegative)
    (hsignificand : x.significand = y.significand) (hscale : x.scale = y.scale) : x = y := by
  have hx : x.fraction < 2 ^ 52 := by rw [fraction_eq]; exact Nat.mod_lt _ (by decide)
  have hy : y.fraction < 2 ^ 52 := by rw [fraction_eq]; exact Nat.mod_lt _ (by decide)
  have hpow : Nat.pow 2 52 = 2 ^ 52 := rfl
  unfold significand at hsignificand
  unfold scale at hscale
  rw [hpow] at hsignificand
  split at hsignificand <;> split at hsignificand <;> refine ext_fields hsign ?_ ?_ <;> omega

theorem scale_le {x y : Double} (h : x.significand * 2 ^ x.scale = y.significand * 2 ^ y.scale) :
    y.scale ≤ x.scale := by
  by_contra hlt
  obtain ⟨d, hd⟩ : ∃ d, y.scale = x.scale + (d + 1) := ⟨y.scale - x.scale - 1, by omega⟩
  have hone : 1 ≤ x.scale := le_max_right _ _
  have hlow := le_significand (x := y) (by omega)
  have hhigh := x.significand_lt
  have hpos : 0 < 2 ^ d := Nat.two_pow_pos d
  -- The greater exponent leaves room for no second significand.
  have heq : x.significand = y.significand * 2 ^ d * 2 := by
    refine Nat.eq_of_mul_eq_mul_right (Nat.two_pow_pos x.scale) (h.trans ?_)
    rw [hd, pow_add, pow_succ]
    ring
  have hle : y.significand ≤ y.significand * 2 ^ d := Nat.le_mul_of_pos_right _ hpos
  omega

/-- A number is known by its sign and its size. -/
theorem ext_size {x y : Double} (hsign : x.isNegative = y.isNegative)
    (h : x.significand * 2 ^ x.scale = y.significand * 2 ^ y.scale) : x = y := by
  have hscale : x.scale = y.scale := Nat.le_antisymm (scale_le h.symm) (scale_le h)
  rw [hscale] at h
  exact ext_significand hsign (Nat.eq_of_mul_eq_mul_right (Nat.two_pow_pos _) h) hscale

/-- The exponent of one above that of the finest step. -/
def unitScale : Nat := 1075

/-- The significand with its sign. -/
def signed (x : Double) : Int := if x.isNegative then -x.significand else x.significand

theorem natAbs_signed (x : Double) : x.signed.natAbs = x.significand := by
  unfold signed
  split <;> simp

theorem sign_signed (x : Double) :
    (x.isNegative = true → x.signed ≤ 0) ∧ (x.isNegative = false → 0 ≤ x.signed) := by
  unfold signed
  constructor <;> intro h <;> simp [h]

/-- An integer is its significand, with the first of the two exponents in place of the point. -/
theorem signed_of_toInt? {x : Double} {n : Int} (h : x.toInt? = some n) :
    x.isFinite = true ∧ ((∃ k, x.scale = unitScale + k ∧ n = x.signed * 2 ^ k) ∨
      ∃ k, x.scale + k = unitScale ∧ x.signed = n * 2 ^ k) := by
  have hexponent : x.exponent = (x.scale : Int) - 1075 := rfl
  have hunit : unitScale = 1075 := rfl
  have hcases : x.toInt? = if x.isFinite then
      if x.exponent ≥ 0 then some (x.signed * Nat.pow 2 x.exponent.toNat)
      else if x.signed % Nat.pow 2 (-x.exponent).toNat = 0 then
        some (x.signed / Nat.pow 2 (-x.exponent).toNat)
      else none
    else none := rfl
  have hpow : ∀ k, ((Nat.pow 2 k : Nat) : Int) = 2 ^ k := fun k => Nat.cast_pow 2 k
  rw [hcases] at h
  simp only [hpow] at h
  split at h
  · rename_i hfinite
    refine ⟨hfinite, ?_⟩
    split at h
    · exact Or.inl ⟨x.exponent.toNat, by omega, (Option.some.inj h).symm⟩
    · split at h
      · rename_i hwhole
        have hn := Option.some.inj h
        have hcancel := Int.ediv_mul_cancel (Int.dvd_of_emod_eq_zero hwhole)
        exact Or.inr ⟨(-x.exponent).toNat, by omega, hn ▸ hcancel.symm⟩
      · cases h
  · cases h

/-- The size of a number that is an integer, and its sign. -/
theorem size_of_toInt? {x : Double} {n : Int} (h : x.toInt? = some n) :
    x.significand * 2 ^ x.scale = n.natAbs * 2 ^ unitScale ∧ (x.isNegative = true → n ≤ 0) ∧
      (x.isNegative = false → 0 ≤ n) := by
  have habs := x.natAbs_signed
  have hsign := x.sign_signed
  have hpos : ∀ k : Nat, (0 : Int) < 2 ^ k := fun k => Int.pow_pos (by decide)
  have hnatAbs : ∀ k : Nat, ((2 : Int) ^ k).natAbs = 2 ^ k := fun k => by rw [Int.natAbs_pow]; rfl
  obtain ⟨-, ⟨k, hk, rfl⟩ | ⟨k, hk, heq⟩⟩ := signed_of_toInt? h
  · refine ⟨?_, fun hneg => ?_, fun hneg => ?_⟩
    · rw [Int.natAbs_mul, habs, hnatAbs, hk, pow_add]
      ring
    · exact mul_nonpos_of_nonpos_of_nonneg (hsign.1 hneg) (hpos k).le
    · exact mul_nonneg (hsign.2 hneg) (hpos k).le
  · rw [heq] at habs hsign
    rw [Int.natAbs_mul, hnatAbs] at habs
    refine ⟨?_, fun hneg => ?_, fun hneg => ?_⟩
    · rw [← habs, ← hk, pow_add]
      ring
    · exact nonpos_of_mul_nonpos_left (hsign.1 hneg) (hpos k)
    · exact nonneg_of_mul_nonneg_left (hsign.2 hneg) (hpos k)

theorem isZero_of_toInt? {x : Double} (h : x.toInt? = some 0) : x.isZero = true := by
  have hzero : x.significand * 2 ^ x.scale = 0 := by
    rw [(size_of_toInt? h).1, Int.natAbs_zero, Nat.zero_mul]
  have hsignificand : x.significand = 0 := (Nat.mul_eq_zero.1 hzero).resolve_right (Nat.two_pow_pos _).ne'
  rw [isZero, (signed_of_toInt? h).1, hsignificand]
  rfl

theorem not_isNaN_of_isFinite {x : Double} (h : x.isFinite = true) : x.isNaN = false := by
  have hne : x.exponentField ≠ 0x7FF := (of_decide_eq_true h).ne
  simp [isNaN, hne]

/-- Numbers that are the same integer are the same number. -/
theorem same_of_toInt? {x y : Double} {n : Int} (hx : x.toInt? = some n) (hy : y.toInt? = some n) :
    (x == y || x.sameNumber y) = true := by
  by_cases hn : n = 0
  · subst hn
    have hxfinite := not_isNaN_of_isFinite (signed_of_toInt? hx).1
    have hyfinite := not_isNaN_of_isFinite (signed_of_toInt? hy).1
    simp [sameNumber, hxfinite, hyfinite, isZero_of_toInt? hx, isZero_of_toInt? hy]
  · obtain ⟨hxsize, hxneg, hxpos⟩ := size_of_toInt? hx
    obtain ⟨hysize, hyneg, hypos⟩ := size_of_toInt? hy
    have hsize := hxsize.trans hysize.symm
    clear hxsize hysize
    have hsign : x.isNegative = y.isNegative := by
      cases hxs : x.isNegative with
      | true =>
        cases hys : y.isNegative with
        | true => rfl
        | false => exact absurd (Int.le_antisymm (hxneg hxs) (hypos hys)) hn
      | false =>
        cases hys : y.isNegative with
        | true => exact absurd (Int.le_antisymm (hyneg hys) (hxpos hxs)) hn
        | false => rfl
    simp [ext_size hsign hsize]

theorem toInt?_of_isZero {x : Double} (h : x.isZero = true) : x.toInt? = some 0 := by
  obtain ⟨hfinite, hsignificand⟩ := Bool.and_eq_true_iff.1 h
  simp [toInt?, hfinite, beq_iff_eq.1 hsignificand]

/-- Numbers that are the same are the same integer, if they are any. -/
theorem toInt?_eq_of_same {x y : Double} (h : (x == y || x.sameNumber y) = true) : x.toInt? = y.toInt? := by
  simp only [sameNumber, Bool.or_eq_true, Bool.and_eq_true, beq_iff_eq] at h
  rcases h with rfl | ⟨-, rfl | ⟨hx, hy⟩⟩
  · rfl
  · rfl
  · rw [toInt?_of_isZero hx, toInt?_of_isZero hy]

/-- Numbers that are no integers are the same only if they are equal. -/
theorem eq_of_same {x y : Double} (h : (x == y || x.sameNumber y) = true) (hx : x.toInt? = none) : x = y := by
  simp only [sameNumber, Bool.or_eq_true, Bool.and_eq_true, beq_iff_eq] at h
  rcases h with rfl | ⟨-, rfl | ⟨hzero, -⟩⟩
  · rfl
  · rfl
  · rw [toInt?_of_isZero hzero] at hx
    cases hx

end Double

/-! ## Keys -/

/-- What makes two keys the same: a number by its value, a point in time by its instant, other keys as they are. -/
inductive KeyForm where
  | null
  | whole (n : Int)
  | float (x : Double)
  | text (s : String)
  | bytes (bs : List UInt8)
  | date (d : Date)
  | moment (known : Bool) (instant : Int)
  | tuple (items : List KeyForm)
  | none

namespace Value

mutual

/-- The form of a key. Values that are no keys have none. -/
def keyForm : Value → KeyForm
  | null => .null
  | bool b => .whole (if b then 1 else 0)
  | int n => .whole n
  | float x =>
    match x.toInt? with
    | some n => .whole n
    | Option.none => .float x
  | text s => .text s
  | bytes bs => .bytes bs
  | date d => .date d
  | moment t => .moment t.offset.isSome t.instant
  | tuple xs => .tuple (keyForms xs)
  | list _ | set _ | map _ | again => .none
termination_by structural v => v

def keyForms : List Value → List KeyForm
  | [] => []
  | x :: xs => keyForm x :: keyForms xs
termination_by structural xs => xs

end

theorem sameKey_float_iff {x y : Double} :
    (float x).sameKey (float y) = true ↔ (float x).keyForm = (float y).keyForm := by
  have hsame : (float x).sameKey (float y) = (x == y || x.sameNumber y) := rfl
  rw [hsame]
  constructor
  · intro h
    cases hx : x.toInt? with
    | some n => simp only [keyForm, ← Double.toInt?_eq_of_same h, hx]
    | none => rw [Double.eq_of_same h hx]
  · intro h
    cases hx : x.toInt? with
    | some n =>
      cases hy : y.toInt? with
      | some m =>
        obtain rfl : n = m := by simpa [keyForm, hx, hy] using h
        exact Double.same_of_toInt? hx hy
      | none => simp [keyForm, hx, hy] at h
    | none =>
      cases hy : y.toInt? with
      | some m => simp [keyForm, hx, hy] at h
      | none =>
        obtain rfl : x = y := by simpa [keyForm, hx, hy] using h
        simp

/-- A number with a fraction is no other key; one without is the same as other numbers of its value. -/
theorem sameKey_float_left {x : Double} {b : Value} (hb : ∀ y, b ≠ float y) :
    (float x).sameKey b = true ↔ (float x).keyForm = b.keyForm := by
  cases hx : x.toInt? with
  | some n => cases b <;> simp [sameKey, keyForm, wholeNumber?, hx] at hb ⊢
  | none => cases b <;> simp [sameKey, keyForm, wholeNumber?, hx] at hb ⊢

theorem sameKey_float_right {a : Value} {y : Double} (ha : ∀ x, a ≠ float x) :
    a.sameKey (float y) = true ↔ a.keyForm = (float y).keyForm := by
  cases hy : y.toInt? with
  | some n => cases a <;> simp [sameKey, keyForm, wholeNumber?, hy] at ha ⊢
  | none => cases a <;> simp [sameKey, keyForm, wholeNumber?, hy] at ha ⊢

/-- Keys that are neither tuples nor numbers with a point. -/
theorem sameKey_plain {a b : Value} (h : a.isKey = true) (htuple : ∀ xs, a ≠ tuple xs) (ha : ∀ x, a ≠ float x)
    (hb : ∀ y, b ≠ float y) : a.sameKey b = true ↔ a.keyForm = b.keyForm := by
  cases a <;> cases b <;> simp [sameKey, keyForm, wholeNumber?, Moment.sameInstant, isKey] at h htuple ha hb ⊢

mutual

/-- Keys are the same if their forms are. -/
theorem sameKey_iff : ∀ {a b : Value}, a.isKey = true → (a.sameKey b = true ↔ a.keyForm = b.keyForm)
  | .tuple as, b, h => by
    cases b with
    | tuple bs => rw [sameKey, keyForm, keyForm, sameKeys_iff h, KeyForm.tuple.injEq]
    | float y => exact sameKey_float_right (fun _ => nofun)
    | _ => simp [sameKey, keyForm, wholeNumber?]
  | .float x, b, _ => by
    cases b with
    | float y => exact sameKey_float_iff
    | _ => exact sameKey_float_left (fun _ => nofun)
  | .null, b, h | .bool _, b, h | .int _, b, h | .text _, b, h | .bytes _, b, h | .date _, b, h | .moment _, b, h => by
    cases b with
    | float y => exact sameKey_float_right (fun _ => nofun)
    | _ => exact sameKey_plain h (fun _ => nofun) (fun _ => nofun) (fun _ => nofun)

theorem sameKeys_iff : ∀ {as bs : List Value}, areKeys as = true →
    (sameKeys as bs = true ↔ keyForms as = keyForms bs)
  | [], [], _ => by simp [sameKeys, keyForms]
  | [], _ :: _, _ => by simp [sameKeys, keyForms]
  | _ :: _, [], _ => by simp [sameKeys, keyForms]
  | a :: as, b :: bs, h => by
    rw [areKeys, Bool.and_eq_true] at h
    rw [sameKeys, keyForms, keyForms, Bool.and_eq_true, sameKey_iff h.1, sameKeys_iff h.2, List.cons.injEq]

end

end Value

end ClientForge
