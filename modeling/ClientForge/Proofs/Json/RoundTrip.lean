import ClientForge.Json.Writer
import ClientForge.Proofs.Decimal
import ClientForge.Proofs.Json.Literal
import ClientForge.Proofs.Keyed

/-!
Reading what was written, strictly or not. In either layout the text of a value is read
to its end, and nothing but the value's numbers and the repeated names of its objects can differ
(`readValue_write`), if it fits: its arrays and objects do not nest too deep, and its integers are not too long,
with their signs. A strict reader refuses what does not fit (`readValue_write_unfit`). So `readWithin_write`.
-/

namespace ClientForge

/-- The number that the text of a finite number stands for. -/
def Double.reread (x : Double) : Double :=
  match Json.readScalar true (Decimal.saved.write x) with
  | .ok (.float y, _) => y
  | _ => x

namespace Json

/-! ## What fits, and what is read back -/

mutual

/-- Do arrays and objects nest no deeper than `levels`, and are integers short enough with their signs? -/
def fits (levels : Nat) : Json → Bool
  | int n => (toString n).toList.length ≤ integerLimit
  | array (x :: xs) => 0 < levels && itemsFit (levels - 1) (x :: xs)
  | object (m :: ms) => 0 < levels && membersFit (levels - 1) (m :: ms)
  | _ => true
termination_by structural v => v

def itemsFit (levels : Nat) : List Json → Bool
  | [] => true
  | x :: xs => fits levels x && itemsFit levels xs
termination_by structural xs => xs

def membersFit (levels : Nat) : List (String × Json) → Bool
  | [] => true
  | (_, v) :: ms => fits levels v && membersFit levels ms
termination_by structural ms => ms

end

mutual

/-- The value that is read back where a value is written. -/
def reread : Json → Json
  | float x => if x.isFinite then .float x.reread else .null
  | array xs => .array (rereadItems xs)
  | object ms => .object (ofNamed (rereadMembers ms))
  | v => v
termination_by structural v => v

def rereadItems : List Json → List Json
  | [] => []
  | x :: xs => reread x :: rereadItems xs
termination_by structural xs => xs

def rereadMembers : List (String × Json) → List (String × Json)
  | [] => []
  | (k, v) :: ms => (k, reread v) :: rereadMembers ms
termination_by structural ms => ms

end

/-! ## Scalars -/

theorem after?_of_ne {a c : Char} (h : a ≠ c) (p s : List Char) : Text.after? (a :: p) (c :: s) = none := by
  simp [Text.after?, h]

theorem readScalar_digit (strict : Bool) {c : Char} (hc : isDigit c = true) (s : List Char) :
    readScalar strict (c :: s) = readNumber strict false (s.length + 1) (c :: s) := by
  have hne : ∀ d, isDigit d = false → d ≠ c := by
    rintro d hd rfl
    rw [hc] at hd
    cases hd
  have hword : ∀ (w : List Char) a p, w = a :: p → isDigit a = false → Text.after? w (c :: s) = none := by
    rintro _ a p rfl ha
    exact after?_of_ne (hne a ha) p s
  have h₁ := hword "null".toList 'n' _ rfl rfl
  have h₂ := hword "true".toList 't' _ rfl rfl
  have h₃ := hword "false".toList 'f' _ rfl rfl
  have h₄ := hword "NaN".toList 'N' _ rfl rfl
  have h₅ := hword "Infinity".toList 'I' _ rfl rfl
  have h₆ := hword "-Infinity".toList '-' _ rfl rfl
  have hminus : ∀ t, c :: s ≠ '-' :: t := fun t heq => hne '-' rfl (List.cons.inj heq).1.symm
  unfold readScalar
  simp only [h₁, h₂, h₃, h₄, h₅, h₆, Option.map_none]
  split
  · rename_i heq
    cases heq
  · rename_i t _ heq
    exact absurd heq (hminus _)
  · rfl

theorem readScalar_minus (strict : Bool) {c : Char} (hc : isDigit c = true) (s : List Char) :
    readScalar strict ('-' :: c :: s) = readNumber strict true (s.length + 2) (c :: s) := by
  have hne : 'I' ≠ c := by
    rintro rfl
    cases hc
  have h₁ : Text.after? "null".toList ('-' :: c :: s) = none := after?_of_ne (by decide) _ _
  have h₂ : Text.after? "true".toList ('-' :: c :: s) = none := after?_of_ne (by decide) _ _
  have h₃ : Text.after? "false".toList ('-' :: c :: s) = none := after?_of_ne (by decide) _ _
  have h₄ : Text.after? "NaN".toList ('-' :: c :: s) = none := after?_of_ne (by decide) _ _
  have h₅ : Text.after? "Infinity".toList ('-' :: c :: s) = none := after?_of_ne (by decide) _ _
  have h₆ : Text.after? "-Infinity".toList ('-' :: c :: s) = none := after?_of_ne hne _ _
  unfold readScalar
  simp only [h₁, h₂, h₃, h₄, h₅, h₆, Option.map_none]
  rfl

theorem isWhole_head {s : List Char} (h : IsWhole s) : ∃ c w, s = c :: w ∧ isDigit c = true := by
  rcases h with rfl | ⟨c, w, rfl, -, hall⟩
  · exact ⟨'0', [], rfl, rfl⟩
  · exact ⟨c, w, rfl, hall c List.mem_cons_self⟩

theorem isDecimal_head {s : List Char} {digits : Nat} {exponent : Int} (h : IsDecimal s digits exponent) :
    ∃ c w, s = c :: w ∧ isDigit c = true := by
  cases h with
  | positional hwhole _ _ _ =>
    obtain ⟨c, w, rfl, hc⟩ := isWhole_head hwhole
    exact ⟨c, _, rfl, hc⟩
  | scientific _ hwhole _ _ _ =>
    obtain ⟨c, w, rfl, hc⟩ := isWhole_head hwhole
    exact ⟨c, _, rfl, hc⟩
  | both _ hwhole _ _ _ _ _ =>
    obtain ⟨c, w, rfl, hc⟩ := isWhole_head hwhole
    exact ⟨c, _, rfl, hc⟩

section

variable {strict : Bool}

/-- The text of a finite number is read as one number, whatever comes after it. -/
theorem readScalar_write_float (x : Double) {rest : List Char} (hrest : NumberEnds rest) :
    readScalar strict (Decimal.saved.write x ++ rest) = .ok (.float x.reread, rest) := by
  obtain ⟨digits, exponent, hdecimal⟩ := Decimal.isDecimal_saved x
  have hread : ∀ strict rest, NumberEnds rest → readScalar strict (Decimal.saved.write x ++ rest) =
      .ok (.float (.ofDecimal x.isNegative digits exponent), rest) := by
    intro strict rest hrest
    obtain ⟨c, w, hcw, hc⟩ := isDecimal_head hdecimal
    have hnumber := fun negative left => readNumber_decimal strict negative left hdecimal hrest
    rw [hcw] at hnumber
    unfold Decimal.Notation.write
    rw [hcw]
    cases x.isNegative with
    | true =>
      simp only [if_true, List.cons_append] at hnumber ⊢
      rw [readScalar_minus strict hc, hnumber]
    | false =>
      simp only [Bool.false_eq_true, if_false, List.cons_append] at hnumber ⊢
      rw [readScalar_digit strict hc, hnumber]
  have hself := hread true [] numberEnds_nil
  rw [List.append_nil] at hself
  have hreread : x.reread = .ofDecimal x.isNegative digits exponent := by
    unfold Double.reread
    rw [hself]
  rw [hread strict rest hrest, hreread]

end

theorem isWhole_repr (n : Nat) : IsWhole (Nat.repr n).toList := by
  by_cases h : n = 0
  · subst h
    exact Or.inl rfl
  · obtain ⟨c, w, hcw, hc⟩ := Decimal.repr_head h
    exact Or.inr ⟨c, w, hcw, hc, allDigits_repr n⟩

/-- The text of an integer: its digits, after a sign if it is negative. -/
theorem toList_toString_int (n : Int) : (toString n).toList =
    if n < 0 then '-' :: (Nat.repr n.natAbs).toList else (Nat.repr n.natAbs).toList := by
  cases n with
  | ofNat m => rfl
  | negSucc m =>
    have h : toString (Int.negSucc m) = "-" ++ Nat.repr (m + 1) := rfl
    rw [h, String.toList_append, if_pos (Int.negSucc_lt_zero m)]
    rfl

/-- The text of an integer is as long as its digits and its sign take up for a strict reader. -/
theorem width_repr (n : Int) :
    width true (decide (n < 0)) (Nat.repr n.natAbs).toList = (toString n).toList.length := by
  rw [toList_toString_int, width]
  by_cases hneg : n < 0 <;> simp [hneg]

theorem width_le_strict (strict negative : Bool) (whole : List Char) :
    width strict negative whole ≤ width true negative whole := by
  cases strict <;> cases negative <;> simp [width]

theorem readScalar_write_int {strict : Bool} {n : Int} (hlen : (toString n).toList.length ≤ integerLimit)
    {rest : List Char} (hrest : NumberEnds rest) :
    readScalar strict ((toString n).toList ++ rest) = .ok (.int n, rest) := by
  have hwhole := isWhole_repr n.natAbs
  obtain ⟨c, w, hcw, hc⟩ := isWhole_head hwhole
  rw [← width_repr] at hlen
  have hlen' := Nat.le_trans (width_le_strict strict _ _) hlen
  have hnumber := fun left => readNumber_whole strict _ left hwhole hlen' hrest
  rw [natOf_repr, hcw] at hnumber
  rw [toList_toString_int, hcw]
  by_cases hneg : n < 0
  · have hn : -(n.natAbs : Int) = n := by omega
    rw [decide_eq_true hneg] at hnumber
    rw [if_pos hneg, List.cons_append, List.cons_append, readScalar_minus strict hc, ← List.cons_append, hnumber]
    simp only [if_true, hn]
  · have hn : (n.natAbs : Int) = n := by omega
    rw [decide_eq_false hneg] at hnumber
    rw [if_neg hneg, List.cons_append, readScalar_digit strict hc, ← List.cons_append, hnumber]
    simp only [Bool.false_eq_true, if_false, hn]

/-! ## Blanks -/

theorem skipBlanks_cons {c : Char} (h : isBlank c = false) (s : List Char) : skipBlanks (c :: s) = c :: s := by
  simp [skipBlanks, h]

theorem skipBlanks_newLine (l : Layout) (level : Nat) {c : Char} (h : isBlank c = false) (s : List Char) :
    skipBlanks (l.newLine level ++ c :: s) = c :: s := by
  have hspaces : ∀ n, skipBlanks (List.replicate n ' ' ++ c :: s) = c :: s := by
    intro n
    induction n with
    | zero => exact skipBlanks_cons h s
    | succ n ih => exact ih
  cases l with
  | compact => exact skipBlanks_cons h s
  | indented => exact hspaces (2 * level)

theorem skipBlanks_colon (l : Layout) {c : Char} (h : isBlank c = false) (s : List Char) :
    ∃ t, l.colon ++ c :: s = ':' :: t ∧ skipBlanks t = c :: s := by
  cases l with
  | compact => exact ⟨c :: s, rfl, skipBlanks_cons h s⟩
  | indented => exact ⟨' ' :: c :: s, rfl, skipBlanks_cons h s⟩

theorem numberEnds_newLine (l : Layout) (level : Nat) {c : Char}
    (h : isDigit c = false ∧ c ≠ '.' ∧ c ≠ 'e' ∧ c ≠ 'E') (s : List Char) :
    NumberEnds (l.newLine level ++ c :: s) := by
  cases l with
  | compact => exact numberEnds_cons h s
  | indented => exact numberEnds_cons (by decide) _

theorem write_int_head (n : Int) :
    ∃ c s, (toString n).toList = c :: s ∧ (c = '-' ∨ isDigit c = true) := by
  obtain ⟨c, w, hcw, hc⟩ := isWhole_head (isWhole_repr n.natAbs)
  rw [toList_toString_int]
  split
  · exact ⟨'-', _, rfl, Or.inl rfl⟩
  · exact ⟨c, w, hcw, Or.inr hc⟩

theorem write_float_head (x : Double) :
    ∃ c s, Decimal.saved.write x = c :: s ∧ (c = '-' ∨ isDigit c = true) := by
  obtain ⟨digits, exponent, hdecimal⟩ := Decimal.isDecimal_saved x
  obtain ⟨c, w, hcw, hc⟩ := isDecimal_head hdecimal
  unfold Decimal.Notation.write
  split
  · exact ⟨'-', _, rfl, Or.inl rfl⟩
  · exact ⟨c, w, hcw, Or.inr hc⟩

/-- A number starts with no blank, no quote and no bracket. -/
theorem number_head_ne {c d : Char} (h : c = '-' ∨ isDigit c = true) (hd : isDigit d = false) (hminus : d ≠ '-') :
    c ≠ d := by
  rintro rfl
  rcases h with rfl | h
  · exact hminus rfl
  · rw [h] at hd
    cases hd

theorem number_head_ink {c : Char} (h : c = '-' ∨ isDigit c = true) : isBlank c = false := by
  cases hb : isBlank c with
  | false => rfl
  | true =>
    simp only [isBlank, Bool.or_eq_true, beq_iff_eq] at hb
    rcases hb with ((rfl | rfl) | rfl) | rfl <;> exact absurd h (by decide)

/-- The first character of a value: no blank, no bracket that closes an array, and no byte order mark. -/
theorem write_head (l : Layout) (level : Nat) (v : Json) :
    ∃ c s, write l level v = c :: s ∧ isBlank c = false ∧ c ≠ ']' ∧ c ≠ '\uFEFF' := by
  cases v with
  | null => exact ⟨'n', _, rfl, rfl, by decide, by decide⟩
  | bool b =>
    cases b with
    | true => exact ⟨'t', _, rfl, rfl, by decide, by decide⟩
    | false => exact ⟨'f', _, rfl, rfl, by decide, by decide⟩
  | int n =>
    obtain ⟨c, w, hcw, hc⟩ := write_int_head n
    exact ⟨c, w, hcw, number_head_ink hc, number_head_ne hc rfl (by decide),
      number_head_ne hc rfl (by decide)⟩
  | float x =>
    obtain ⟨c, w, hcw, hc⟩ := write_float_head x
    simp only [write, writeFloat]
    split
    · exact ⟨c, w, hcw, number_head_ink hc, number_head_ne hc rfl (by decide),
        number_head_ne hc rfl (by decide)⟩
    · exact ⟨'n', _, rfl, rfl, by decide, by decide⟩
  | text s => exact ⟨'"', _, rfl, rfl, by decide, by decide⟩
  | array xs =>
    cases xs with
    | nil => exact ⟨'[', _, rfl, rfl, by decide, by decide⟩
    | cons x xs => exact ⟨'[', _, rfl, rfl, by decide, by decide⟩
  | object ms =>
    cases ms with
    | nil => exact ⟨'\x7b', _, rfl, rfl, by decide, by decide⟩
    | cons m ms => exact ⟨'\x7b', _, rfl, rfl, by decide, by decide⟩

theorem write_append_head (l : Layout) (level : Nat) (v : Json) (t : List Char) :
    ∃ c u, write l level v ++ t = c :: u ∧ isBlank c = false := by
  obtain ⟨c, u, hcu, hc, -⟩ := write_head l level v
  exact ⟨c, u ++ t, by rw [hcu, List.cons_append], hc⟩

theorem length_write_pos (l : Layout) (level : Nat) (v : Json) : 0 < (write l level v).length := by
  obtain ⟨c, s, h, -⟩ := write_head l level v
  simp [h]

/-! ## Values -/

section

variable {strict : Bool}

theorem put_eq (name : String) (value : Json) (ms : List (String × Json)) :
    put name value ms = putNamed name value ms := by
  induction ms with
  | nil => rfl
  | cons m ms ih =>
    obtain ⟨n, v⟩ := m
    by_cases h : n = name
    · simp [put, putNamed, putBy, h]
    · have ih' : put name value ms = putBy (fun a b => a.1 == b.1) (name, value) ms := ih
      simp [put, putNamed, putBy, h, ih']

/-- What starts with a digit or a minus sign is read as a number. -/
theorem readValue_number (levels fuel : Nat) {s : List Char}
    (hs : ∃ c t, s = c :: t ∧ (c = '-' ∨ isDigit c = true)) (rest : List Char) :
    readValue strict levels (fuel + 1) (s ++ rest) = readScalar strict (s ++ rest) := by
  obtain ⟨c, t, rfl, hc⟩ := hs
  rw [List.cons_append]
  unfold readValue
  split
  · rename_i heq
    exact absurd (List.cons.inj heq).1 (number_head_ne hc rfl (by decide))
  · rename_i heq
    exact absurd (List.cons.inj heq).1 (number_head_ne hc rfl (by decide))
  · rename_i heq
    exact absurd (List.cons.inj heq).1 (number_head_ne hc rfl (by decide))
  · rfl

end

theorem readScalar_long_int {n : Int} (hlen : integerLimit < (toString n).toList.length)
    {rest : List Char} (hrest : NumberEnds rest) :
    ∃ stop, readScalar true ((toString n).toList ++ rest) = .error stop := by
  have hwhole := isWhole_repr n.natAbs
  obtain ⟨c, w, hcw, hc⟩ := isWhole_head hwhole
  rw [← width_repr] at hlen
  have hnumber := fun left => readNumber_long true _ left hwhole hlen hrest
  rw [hcw] at hnumber
  rw [toList_toString_int, hcw]
  by_cases hneg : n < 0
  · rw [decide_eq_true hneg] at hnumber
    rw [if_pos hneg, List.cons_append, List.cons_append, readScalar_minus true hc, ← List.cons_append, hnumber]
    exact ⟨_, rfl⟩
  · rw [decide_eq_false hneg] at hnumber
    rw [if_neg hneg, List.cons_append, readScalar_digit true hc, ← List.cons_append, hnumber]
    exact ⟨_, rfl⟩

/-! ## Items and members -/

/-- What follows an item or a member: a comma and others, or nothing but the rest. -/
def comma (last : Bool) : List Char := if last then [] else [',']

theorem skipBlanks_writeItems (l : Layout) (level : Nat) (x : Json) (xs : List Json) (t : List Char) :
    skipBlanks (writeItems l level (x :: xs) ++ t) =
      write l level x ++ (comma xs.isEmpty ++ (writeItems l level xs ++ t)) := by
  obtain ⟨c, s, hcs, hc, -⟩ := write_head l level x
  simp only [writeItems, hcs, List.append_assoc, List.cons_append, comma]
  exact skipBlanks_newLine l level hc _

theorem skipBlanks_writeMembers (l : Layout) (level : Nat) (k : String) (v : Json) (ms : List (String × Json))
    (t : List Char) :
    skipBlanks (writeMembers l level ((k, v) :: ms) ++ t) =
      '"' :: (k.toList.flatMap encodeChar ++ '"' ::
        (l.colon ++ (write l level v ++ (comma ms.isEmpty ++ (writeMembers l level ms ++ t))))) := by
  simp only [writeMembers, encode, List.append_assoc, List.cons_append, List.nil_append, comma]
  exact skipBlanks_newLine l level rfl _

/-- After its opening bracket an array goes on with an item. -/
theorem skipBlanks_writeItems_ne (l : Layout) (level : Nat) (x : Json) (xs : List Json) (t u : List Char) :
    skipBlanks (writeItems l level (x :: xs) ++ t) ≠ ']' :: u := by
  intro heq
  obtain ⟨c, s, hcs, -, hc, -⟩ := write_head l level x
  rw [skipBlanks_writeItems, hcs] at heq
  exact hc (List.cons.inj heq).1

theorem skipBlanks_writeMembers_ne (l : Layout) (level : Nat) (m : String × Json) (ms : List (String × Json))
    (t u : List Char) : skipBlanks (writeMembers l level (m :: ms) ++ t) ≠ '\x7d' :: u := by
  intro heq
  rw [skipBlanks_writeMembers] at heq
  exact absurd (List.cons.inj heq).1 (by decide)

section

variable {strict : Bool}

theorem readValue_array (levels fuel : Nat) {s : List Char} (h : ∀ t, skipBlanks s ≠ ']' :: t) :
    readValue strict levels (fuel + 1) ('[' :: s) =
      if levels = 0 then .error ⟨.tooDeep, (skipBlanks s).length⟩
      else (readItems strict (levels - 1) fuel [] (skipBlanks s)).map fun (xs, rest) => (.array xs, rest) := by
  simp only [readValue]

theorem readValue_object (levels fuel : Nat) {s : List Char} (h : ∀ t, skipBlanks s ≠ '\x7d' :: t) :
    readValue strict levels (fuel + 1) ('\x7b' :: s) =
      if levels = 0 then .error ⟨.tooDeep, (skipBlanks s).length⟩
      else (readMembers strict (levels - 1) fuel [] (skipBlanks s)).map fun (ms, rest) => (.object ms, rest) := by
  simp only [readValue]

theorem readItems_last {levels fuel : Nat} {acc : List Json} {s r rest : List Char} {v : Json}
    (hv : readValue strict levels fuel s = .ok (v, r)) (hr : skipBlanks r = ']' :: rest) :
    readItems strict levels (fuel + 1) acc s = .ok (acc.reverse ++ [v], rest) := by
  unfold readItems
  simp [hv, hr]

theorem readItems_more {levels fuel : Nat} {acc : List Json} {s r t : List Char} {v : Json}
    (hv : readValue strict levels fuel s = .ok (v, r)) (hr : skipBlanks r = ',' :: t) :
    readItems strict levels (fuel + 1) acc s = readItems strict levels fuel (v :: acc) (skipBlanks t) := by
  conv => lhs; unfold readItems
  simp [hv, hr]

theorem readMembers_last {levels fuel : Nat} {acc : List (String × Json)} {l : Layout} {k : String} {v : Json}
    {s r rest : List Char} (hs : ∃ c t, s = c :: t ∧ isBlank c = false)
    (hv : readValue strict levels fuel s = .ok (v, r)) (hr : skipBlanks r = '\x7d' :: rest) :
    readMembers strict levels (fuel + 1) acc ('"' :: (k.toList.flatMap encodeChar ++ '"' :: (l.colon ++ s))) =
      .ok (putNamed k v acc, rest) := by
  obtain ⟨c, t, rfl, hc⟩ := hs
  obtain ⟨u, hcolon, hu⟩ := skipBlanks_colon l hc t
  have hcolon' : skipBlanks (':' :: u) = ':' :: u := skipBlanks_cons rfl u
  unfold readMembers
  simp [readText_encode strict, hcolon, hcolon', hu, hv, hr, put_eq]

theorem readMembers_more {levels fuel : Nat} {acc : List (String × Json)} {l : Layout} {k : String} {v : Json}
    {s r rest : List Char} (hs : ∃ c t, s = c :: t ∧ isBlank c = false)
    (hv : readValue strict levels fuel s = .ok (v, r)) (hr : skipBlanks r = ',' :: rest) :
    readMembers strict levels (fuel + 1) acc ('"' :: (k.toList.flatMap encodeChar ++ '"' :: (l.colon ++ s))) =
      readMembers strict levels fuel (putNamed k v acc) (skipBlanks rest) := by
  obtain ⟨c, t, rfl, hc⟩ := hs
  obtain ⟨u, hcolon, hu⟩ := skipBlanks_colon l hc t
  have hcolon' : skipBlanks (':' :: u) = ':' :: u := skipBlanks_cons rfl u
  conv => lhs; unfold readMembers
  simp [readText_encode strict, hcolon, hcolon', hu, hv, hr, put_eq]

/-- No text of a value is empty, so fuel for its characters is fuel for a step. -/
theorem exists_fuel {l : Layout} {level fuel : Nat} {v : Json} (h : 2 * (write l level v).length ≤ fuel) :
    ∃ n, fuel = n + 1 := by
  have hpos := length_write_pos l level v
  exact Nat.exists_eq_add_one.2 (by omega)

end

mutual

-- The rest of the text is any, as long as a number ends before it: within the induction it starts with a
-- comma, with a bracket or with the line before one.
/-- A value that fits is read to the end of its text. The fuel that the reader needs is no more than
two for each character. -/
theorem readValue_write (strict : Bool) (l : Layout) (level levels fuel : Nat) : ∀ (v : Json) (rest : List Char),
    v.fits levels = true → 2 * (write l level v).length ≤ fuel → NumberEnds rest →
      readValue strict levels fuel (write l level v ++ rest) = .ok (v.reread, rest)
  | .null, rest, _, hfuel, _ => by
    obtain ⟨n, rfl⟩ := exists_fuel hfuel
    rfl
  | .bool b, rest, _, hfuel, _ => by
    obtain ⟨n, rfl⟩ := exists_fuel hfuel
    cases b <;> rfl
  | .int i, rest, hfits, hfuel, hrest => by
    obtain ⟨n, rfl⟩ := exists_fuel hfuel
    have hlen : (toString i).toList.length ≤ integerLimit := of_decide_eq_true hfits
    exact (readValue_number levels n (write_int_head i) rest).trans (readScalar_write_int hlen hrest)
  | .float x, rest, _, hfuel, hrest => by
    obtain ⟨n, rfl⟩ := exists_fuel hfuel
    by_cases hx : x.isFinite = true
    · simp only [write, writeFloat, reread, hx, if_true]
      exact (readValue_number levels n (write_float_head x) rest).trans (readScalar_write_float x hrest)
    · simp only [write, writeFloat, reread, hx]
      rfl
  | .text s, rest, _, hfuel, _ => by
    obtain ⟨n, rfl⟩ := exists_fuel hfuel
    simp only [write, encode, List.cons_append, List.append_assoc, List.nil_append, readValue]
    rw [readText_encode]
    rfl
  | .array [], rest, _, hfuel, _ => by
    obtain ⟨n, rfl⟩ := exists_fuel hfuel
    rfl
  | .array (x :: xs), rest, hfits, hfuel, _ => by
    obtain ⟨n, rfl⟩ := exists_fuel hfuel
    simp only [write, List.length_cons, List.length_append] at hfuel
    simp only [fits, Bool.and_eq_true, decide_eq_true_eq] at hfits
    have hread := readItems_write strict l (level + 1) level (levels - 1) n [] (x :: xs) rest (by simp) hfits.2
      (by omega)
    simp only [write, List.cons_append, List.append_assoc, List.nil_append]
    rw [readValue_array levels n (skipBlanks_writeItems_ne l _ x xs _), if_neg (by omega), hread]
    rfl
  | .object [], rest, _, hfuel, _ => by
    obtain ⟨n, rfl⟩ := exists_fuel hfuel
    rfl
  | .object (m :: ms), rest, hfits, hfuel, _ => by
    obtain ⟨n, rfl⟩ := exists_fuel hfuel
    simp only [write, List.length_cons, List.length_append] at hfuel
    simp only [fits, Bool.and_eq_true, decide_eq_true_eq] at hfits
    have hread := readMembers_write strict l (level + 1) level (levels - 1) n [] (m :: ms) rest (by simp) hfits.2
      (by omega)
    simp only [write, List.cons_append, List.append_assoc, List.nil_append]
    rw [readValue_object levels n (skipBlanks_writeMembers_ne l _ m ms _), if_neg (by omega), hread]
    rfl
termination_by structural v => v

theorem readItems_write (strict : Bool) (l : Layout) (level outer levels fuel : Nat) (acc : List Json) :
    ∀ (xs : List Json) (rest : List Char), xs ≠ [] → itemsFit levels xs = true →
      2 * (writeItems l level xs).length + 1 ≤ fuel →
        readItems strict levels fuel acc (skipBlanks (writeItems l level xs ++ (l.newLine outer ++ ']' :: rest))) =
          .ok (acc.reverse ++ rereadItems xs, rest)
  | [], _, hne, _, _ => absurd rfl hne
  | x :: xs, rest, _, hfits, hfuel => by
    have hpos := length_write_pos l level x
    simp only [writeItems, List.length_append] at hfuel
    obtain ⟨n, rfl⟩ : ∃ n, fuel = n + 1 := Nat.exists_eq_add_one.2 (by omega)
    simp only [itemsFit, Bool.and_eq_true] at hfits
    rw [skipBlanks_writeItems]
    cases xs with
    | nil =>
      have hv := readValue_write strict l level levels n x (l.newLine outer ++ ']' :: rest) hfits.1 (by omega)
        (numberEnds_newLine l outer (by decide) rest)
      simp only [comma, List.isEmpty_nil, if_true, writeItems, List.nil_append]
      rw [readItems_last hv (skipBlanks_newLine l outer rfl rest)]
      rfl
    | cons y ys =>
      have hv := readValue_write strict l level levels n x
        (',' :: (writeItems l level (y :: ys) ++ (l.newLine outer ++ ']' :: rest))) hfits.1 (by omega)
        (numberEnds_cons (by decide) _)
      simp only [comma, List.isEmpty_cons, Bool.false_eq_true, if_false, List.cons_append, List.nil_append]
      rw [readItems_more hv (skipBlanks_cons rfl _),
        readItems_write strict l level outer levels n (x.reread :: acc) (y :: ys) rest (by simp) hfits.2 (by omega)]
      simp [rereadItems]
termination_by structural xs => xs

theorem readMembers_write (strict : Bool) (l : Layout) (level outer levels fuel : Nat) (acc : List (String × Json)) :
    ∀ (ms : List (String × Json)) (rest : List Char), ms ≠ [] → membersFit levels ms = true →
      2 * (writeMembers l level ms).length + 1 ≤ fuel →
        readMembers strict levels fuel acc
            (skipBlanks (writeMembers l level ms ++ (l.newLine outer ++ '\x7d' :: rest))) =
          .ok ((rereadMembers ms).foldl (fun ys m => putNamed m.1 m.2 ys) acc, rest)
  | [], _, hne, _, _ => absurd rfl hne
  | (k, v) :: ms, rest, _, hfits, hfuel => by
    have hpos := length_write_pos l level v
    simp only [writeMembers, List.length_append] at hfuel
    obtain ⟨n, rfl⟩ : ∃ n, fuel = n + 1 := Nat.exists_eq_add_one.2 (by omega)
    simp only [membersFit, Bool.and_eq_true] at hfits
    rw [skipBlanks_writeMembers]
    cases ms with
    | nil =>
      have hv := readValue_write strict l level levels n v (l.newLine outer ++ '\x7d' :: rest) hfits.1 (by omega)
        (numberEnds_newLine l outer (by decide) rest)
      simp only [comma, List.isEmpty_nil, if_true, writeMembers, List.nil_append]
      rw [readMembers_last (write_append_head l level v _) hv (skipBlanks_newLine l outer rfl rest)]
      rfl
    | cons m ms =>
      have hv := readValue_write strict l level levels n v
        (',' :: (writeMembers l level (m :: ms) ++ (l.newLine outer ++ '\x7d' :: rest))) hfits.1 (by omega)
        (numberEnds_cons (by decide) _)
      simp only [comma, List.isEmpty_cons, Bool.false_eq_true, if_false, List.cons_append, List.nil_append]
      rw [readMembers_more (write_append_head l level v _) hv (skipBlanks_cons rfl _),
        readMembers_write strict l level outer levels n (putNamed k v.reread acc) (m :: ms) rest (by simp) hfits.2
          (by omega)]
      rfl
termination_by structural ms => ms

end

/-! ## Values that do not fit -/

theorem readItems_stop {strict : Bool} {levels fuel : Nat} {acc : List Json} {s : List Char} {stop : Stop}
    (h : readValue strict levels fuel s = .error stop) : readItems strict levels (fuel + 1) acc s = .error stop := by
  unfold readItems
  simp [h]

theorem readMembers_stop {strict : Bool} {levels fuel : Nat} {acc : List (String × Json)} {l : Layout} {k : String}
    {s : List Char} {stop : Stop} (hs : ∃ c t, s = c :: t ∧ isBlank c = false)
    (h : readValue strict levels fuel s = .error stop) :
    readMembers strict levels (fuel + 1) acc ('"' :: (k.toList.flatMap encodeChar ++ '"' :: (l.colon ++ s))) =
      .error stop := by
  obtain ⟨c, t, rfl, hc⟩ := hs
  obtain ⟨u, hcolon, hu⟩ := skipBlanks_colon l hc t
  have hcolon' : skipBlanks (':' :: u) = ':' :: u := skipBlanks_cons rfl u
  unfold readMembers
  simp [readText_encode strict, hcolon, hcolon', hu, h]

mutual

/-- The text of a value that does not fit is refused by a strict reader. -/
theorem readValue_write_unfit (l : Layout) (level levels fuel : Nat) : ∀ (v : Json) (rest : List Char),
    v.fits levels = false → 2 * (write l level v).length ≤ fuel → NumberEnds rest →
      ∃ stop, readValue true levels fuel (write l level v ++ rest) = .error stop
  | .null, _, hfits, _, _ => by cases hfits
  | .bool _, _, hfits, _, _ => by cases hfits
  | .float _, _, hfits, _, _ => by cases hfits
  | .text _, _, hfits, _, _ => by cases hfits
  | .array [], _, hfits, _, _ => by cases hfits
  | .object [], _, hfits, _, _ => by cases hfits
  | .int i, rest, hfits, hfuel, hrest => by
    obtain ⟨n, rfl⟩ := exists_fuel hfuel
    have hlen : integerLimit < (toString i).toList.length := Nat.lt_of_not_le (of_decide_eq_false hfits)
    obtain ⟨stop, hstop⟩ := readScalar_long_int hlen hrest
    exact ⟨stop, (readValue_number levels n (write_int_head i) rest).trans hstop⟩
  | .array (x :: xs), rest, hfits, hfuel, _ => by
    obtain ⟨n, rfl⟩ := exists_fuel hfuel
    simp only [write, List.length_cons, List.length_append] at hfuel
    simp only [write, List.cons_append, List.append_assoc, List.nil_append]
    rw [readValue_array levels n (skipBlanks_writeItems_ne l _ x xs _)]
    split
    · exact ⟨_, rfl⟩
    · have hitems : itemsFit (levels - 1) (x :: xs) = false := by
        have hlevels : 0 < levels := by omega
        simpa [fits, hlevels] using hfits
      obtain ⟨stop, hstop⟩ := readItems_write_unfit l (level + 1) level (levels - 1) n [] (x :: xs) rest
        hitems (by omega)
      rw [hstop]
      exact ⟨stop, rfl⟩
  | .object (m :: ms), rest, hfits, hfuel, _ => by
    obtain ⟨n, rfl⟩ := exists_fuel hfuel
    simp only [write, List.length_cons, List.length_append] at hfuel
    simp only [write, List.cons_append, List.append_assoc, List.nil_append]
    rw [readValue_object levels n (skipBlanks_writeMembers_ne l _ m ms _)]
    split
    · exact ⟨_, rfl⟩
    · have hmembers : membersFit (levels - 1) (m :: ms) = false := by
        have hlevels : 0 < levels := by omega
        simpa [fits, hlevels] using hfits
      obtain ⟨stop, hstop⟩ := readMembers_write_unfit l (level + 1) level (levels - 1) n [] (m :: ms) rest
        hmembers (by omega)
      rw [hstop]
      exact ⟨stop, rfl⟩
termination_by structural v => v

theorem readItems_write_unfit (l : Layout) (level outer levels fuel : Nat) (acc : List Json) :
    ∀ (xs : List Json) (rest : List Char), itemsFit levels xs = false →
      2 * (writeItems l level xs).length + 1 ≤ fuel →
        ∃ stop, readItems true levels fuel acc
          (skipBlanks (writeItems l level xs ++ (l.newLine outer ++ ']' :: rest))) = .error stop
  | [], _, hfits, _ => by cases hfits
  | x :: xs, rest, hfits, hfuel => by
    have hpos := length_write_pos l level x
    simp only [writeItems, List.length_append] at hfuel
    obtain ⟨n, rfl⟩ : ∃ n, fuel = n + 1 := Nat.exists_eq_add_one.2 (by omega)
    have hends : NumberEnds (comma xs.isEmpty ++ (writeItems l level xs ++ (l.newLine outer ++ ']' :: rest))) := by
      cases xs with
      | nil => exact numberEnds_newLine l outer (by decide) rest
      | cons y ys => exact numberEnds_cons (by decide) _
    rw [skipBlanks_writeItems]
    by_cases hx : x.fits levels = true
    · have hv := readValue_write true l level levels n x _ hx (by omega) hends
      cases xs with
      | nil => simp [itemsFit, hx] at hfits
      | cons y ys =>
        have hys : itemsFit levels (y :: ys) = false := by simpa [itemsFit, hx] using hfits
        have hnext : skipBlanks (comma (y :: ys).isEmpty ++
            (writeItems l level (y :: ys) ++ (l.newLine outer ++ ']' :: rest))) =
            ',' :: (writeItems l level (y :: ys) ++ (l.newLine outer ++ ']' :: rest)) := rfl
        rw [readItems_more hv hnext]
        exact readItems_write_unfit l level outer levels n (x.reread :: acc) (y :: ys) rest hys (by omega)
    · obtain ⟨stop, hstop⟩ := readValue_write_unfit l level levels n x _ (by simpa using hx) (by omega) hends
      exact ⟨stop, readItems_stop hstop⟩
termination_by structural xs => xs

theorem readMembers_write_unfit (l : Layout) (level outer levels fuel : Nat) (acc : List (String × Json)) :
    ∀ (ms : List (String × Json)) (rest : List Char), membersFit levels ms = false →
      2 * (writeMembers l level ms).length + 1 ≤ fuel →
        ∃ stop, readMembers true levels fuel acc
          (skipBlanks (writeMembers l level ms ++ (l.newLine outer ++ '\x7d' :: rest))) = .error stop
  | [], _, hfits, _ => by cases hfits
  | (k, v) :: ms, rest, hfits, hfuel => by
    have hpos := length_write_pos l level v
    simp only [writeMembers, List.length_append] at hfuel
    obtain ⟨n, rfl⟩ : ∃ n, fuel = n + 1 := Nat.exists_eq_add_one.2 (by omega)
    have hends : NumberEnds
        (comma ms.isEmpty ++ (writeMembers l level ms ++ (l.newLine outer ++ '\x7d' :: rest))) := by
      cases ms with
      | nil => exact numberEnds_newLine l outer (by decide) rest
      | cons m ms => exact numberEnds_cons (by decide) _
    rw [skipBlanks_writeMembers]
    by_cases hx : v.fits levels = true
    · have hv := readValue_write true l level levels n v _ hx (by omega) hends
      cases ms with
      | nil => simp [membersFit, hx] at hfits
      | cons m ms =>
        have hms : membersFit levels (m :: ms) = false := by simpa [membersFit, hx] using hfits
        have hnext : skipBlanks (comma (m :: ms).isEmpty ++
            (writeMembers l level (m :: ms) ++ (l.newLine outer ++ '\x7d' :: rest))) =
            ',' :: (writeMembers l level (m :: ms) ++ (l.newLine outer ++ '\x7d' :: rest)) := rfl
        rw [readMembers_more (write_append_head l level v _) hv hnext]
        exact readMembers_write_unfit l level outer levels n (putNamed k v.reread acc) (m :: ms) rest hms
          (by omega)
    · obtain ⟨stop, hstop⟩ := readValue_write_unfit l level levels n v _ (by simpa using hx) (by omega) hends
      exact ⟨stop, readMembers_stop (write_append_head l level v _) hstop⟩
termination_by structural ms => ms

end

/-! ## Documents -/

section Document

variable {strict : Bool} {levels : Nat} {c : Char} {s : List Char}

theorem readDocument_of_readValue (hblank : isBlank c = false) (hmark : c ≠ '\uFEFF') {v : Json}
    (h : readValue strict levels (2 * (c :: s).length + 2) (c :: s) = .ok (v, [])) :
    readDocument strict levels (c :: s) = .ok v := by
  unfold readDocument
  split
  · rename_i heq
    exact absurd (List.cons.inj heq).1 hmark
  · have hnil : skipBlanks [] = [] := rfl
    simp only [skipBlanks_cons hblank, h, hnil]

theorem readDocument_stop (hblank : isBlank c = false) (hmark : c ≠ '\uFEFF') {stop : Stop}
    (h : readValue strict levels (2 * (c :: s).length + 2) (c :: s) = .error stop) :
    readDocument strict levels (c :: s) = .error stop := by
  unfold readDocument
  split
  · rename_i heq
    exact absurd (List.cons.inj heq).1 hmark
  · simp only [skipBlanks_cons hblank, h]

end Document

/-- A written value that fits is read back, strictly or not. -/
theorem readWithin_write_of_fits (strict : Bool) (l : Layout) {levels : Nat} {v : Json} (h : v.fits levels = true) :
    readWithin strict levels (.ofList (write l 0 v)) = .ok v.reread := by
  obtain ⟨c, s, hcs, hc, -, hmark⟩ := write_head l 0 v
  have hread := readValue_write strict l 0 levels (2 * (write l 0 v).length + 2) v [] h (by omega) numberEnds_nil
  rw [List.append_nil, hcs] at hread
  rw [readWithin, String.toList_ofList, hcs, readDocument_of_readValue hc hmark hread]
  rfl

/-- A written value is read back if it fits, and refused if it does not. -/
theorem readWithin_write (l : Layout) (levels : Nat) (v : Json) :
    (v.fits levels = true → readWithin true levels (.ofList (write l 0 v)) = .ok v.reread) ∧
      (v.fits levels = false → ∃ e, readWithin true levels (.ofList (write l 0 v)) = .error e) := by
  refine ⟨readWithin_write_of_fits true l, fun hfits => ?_⟩
  obtain ⟨c, s, hcs, hc, -, hmark⟩ := write_head l 0 v
  obtain ⟨stop, hread⟩ := readValue_write_unfit l 0 levels (2 * (write l 0 v).length + 2) v [] hfits (by omega)
    numberEnds_nil
  rw [List.append_nil, hcs] at hread
  rw [readWithin, String.toList_ofList, hcs, readDocument_stop hc hmark hread]
  exact ⟨_, rfl⟩

end Json

end ClientForge
