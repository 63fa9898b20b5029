import ClientForge.Proofs.Json.RoundTrip

/-!
Objects spread over lines, with a member a line and some spaces more at each level. Whatever the number of spaces
is, the value is read back (`read_spread`).
-/

namespace ClientForge.Json

/-! ## The layout -/

/-- The start of a line at a level, with `width` spaces for each level. -/
def spreadLine (width level : Nat) : List Char := '\n' :: List.replicate (width * level) ' '

mutual

/-- The text of a value that starts at a level. Other values than objects stand on one line. -/
def spread (width level : Nat) : Json → List Char
  | object (m :: ms) =>
    '\x7b' :: spreadMembers width (level + 1) (m :: ms) ++ spreadLine width level ++ ['\x7d']
  | v => write .compact 0 v
termination_by structural v => v

/-- Members with commas between them. -/
def spreadMembers (width level : Nat) : List (String × Json) → List Char
  | [] => []
  | (k, v) :: ms =>
    spreadLine width level ++ encode k.toList ++ Layout.indented.colon ++ spread width level v ++
      comma ms.isEmpty ++ spreadMembers width level ms
termination_by structural ms => ms

end

/-! ## Blanks -/

theorem skipBlanks_spreadLine (width level : Nat) {c : Char} (h : isBlank c = false) (s : List Char) :
    skipBlanks (spreadLine width level ++ c :: s) = c :: s := by
  have hspaces : ∀ n, skipBlanks (List.replicate n ' ' ++ c :: s) = c :: s := by
    intro n
    induction n with
    | zero => exact skipBlanks_cons h s
    | succ n ih => exact ih
  exact hspaces (width * level)

theorem numberEnds_spreadLine (width level : Nat) (s : List Char) : NumberEnds (spreadLine width level ++ s) :=
  numberEnds_cons (by decide) _

theorem spread_head (width level : Nat) (v : Json) : ∃ c s, spread width level v = c :: s ∧ isBlank c = false ∧
    c ≠ '\uFEFF' := by
  match v with
  | .object (m :: ms) => exact ⟨'\x7b', _, rfl, rfl, by decide⟩
  | .object [] => exact ⟨'\x7b', _, rfl, rfl, by decide⟩
  | .null | .bool _ | .int _ | .float _ | .text _ | .array _ =>
    obtain ⟨c, s, hcs, hc, -, hmark⟩ := write_head .compact 0 _
    exact ⟨c, s, hcs, hc, hmark⟩

theorem spread_append_head (width level : Nat) (v : Json) (t : List Char) :
    ∃ c u, spread width level v ++ t = c :: u ∧ isBlank c = false := by
  obtain ⟨c, u, hcu, hc, -⟩ := spread_head width level v
  exact ⟨c, u ++ t, by rw [hcu, List.cons_append], hc⟩

theorem length_spread_pos (width level : Nat) (v : Json) : 0 < (spread width level v).length := by
  obtain ⟨c, s, h, -⟩ := spread_head width level v
  simp [h]

theorem skipBlanks_spreadMembers (width level : Nat) (k : String) (v : Json) (ms : List (String × Json))
    (t : List Char) :
    skipBlanks (spreadMembers width level ((k, v) :: ms) ++ t) =
      '"' :: (k.toList.flatMap encodeChar ++ '"' :: (Layout.indented.colon ++
        (spread width level v ++ (comma ms.isEmpty ++ (spreadMembers width level ms ++ t))))) := by
  simp only [spreadMembers, encode, List.append_assoc, List.cons_append, List.nil_append]
  exact skipBlanks_spreadLine width level rfl _

/-- After its opening brace an object goes on with a member. -/
theorem skipBlanks_spreadMembers_ne (width level : Nat) (m : String × Json) (ms : List (String × Json))
    (t u : List Char) : skipBlanks (spreadMembers width level (m :: ms) ++ t) ≠ '\x7d' :: u := by
  intro heq
  rw [skipBlanks_spreadMembers] at heq
  exact absurd (List.cons.inj heq).1 (by decide)

/-! ## Reading -/

mutual

/-- A value that fits is read to the end of its text. -/
theorem readValue_spread (width level levels fuel : Nat) : ∀ (v : Json) (rest : List Char),
    v.fits levels = true → 2 * (spread width level v).length ≤ fuel → NumberEnds rest →
      readValue false levels fuel (spread width level v ++ rest) = .ok (v.reread, rest)
  | .object (m :: ms), rest, hfits, hfuel, _ => by
    have hpos := length_spread_pos width level (.object (m :: ms))
    obtain ⟨n, rfl⟩ : ∃ n, fuel = n + 1 := Nat.exists_eq_add_one.2 (by omega)
    simp only [spread, List.length_cons, List.length_append] at hfuel
    simp only [fits, Bool.and_eq_true, decide_eq_true_eq] at hfits
    have hread := readMembers_spread width (level + 1) level (levels - 1) n [] (m :: ms) rest (by simp) hfits.2
      (by omega)
    simp only [spread, List.cons_append, List.append_assoc, List.nil_append]
    rw [readValue_object levels n (skipBlanks_spreadMembers_ne width _ m ms _), if_neg (by omega), hread]
    rfl
  | .object [], rest, hfits, hfuel, hrest | .null, rest, hfits, hfuel, hrest | .bool _, rest, hfits, hfuel, hrest
  | .int _, rest, hfits, hfuel, hrest | .float _, rest, hfits, hfuel, hrest | .text _, rest, hfits, hfuel, hrest
  | .array _, rest, hfits, hfuel, hrest => readValue_write false .compact 0 levels fuel _ rest hfits hfuel hrest
termination_by structural v => v

theorem readMembers_spread (width level outer levels fuel : Nat) (acc : List (String × Json)) :
    ∀ (ms : List (String × Json)) (rest : List Char), ms ≠ [] → membersFit levels ms = true →
      2 * (spreadMembers width level ms).length + 1 ≤ fuel →
        readMembers false levels fuel acc
            (skipBlanks (spreadMembers width level ms ++ (spreadLine width outer ++ '\x7d' :: rest))) =
          .ok ((rereadMembers ms).foldl (fun ys m => putNamed m.1 m.2 ys) acc, rest)
  | [], _, hne, _, _ => absurd rfl hne
  | (k, v) :: ms, rest, _, hfits, hfuel => by
    have hpos := length_spread_pos width level v
    simp only [spreadMembers, List.length_append] at hfuel
    obtain ⟨n, rfl⟩ : ∃ n, fuel = n + 1 := Nat.exists_eq_add_one.2 (by omega)
    simp only [membersFit, Bool.and_eq_true] at hfits
    rw [skipBlanks_spreadMembers]
    cases ms with
    | nil =>
      have hv := readValue_spread width level levels n v (spreadLine width outer ++ '\x7d' :: rest) hfits.1
        (by omega) (numberEnds_spreadLine width outer _)
      simp only [comma, List.isEmpty_nil, if_true, spreadMembers, List.nil_append]
      rw [readMembers_last (spread_append_head width level v _) hv (skipBlanks_spreadLine width outer rfl rest)]
      rfl
    | cons m ms =>
      have hv := readValue_spread width level levels n v
        (',' :: (spreadMembers width level (m :: ms) ++ (spreadLine width outer ++ '\x7d' :: rest))) hfits.1
        (by omega) (numberEnds_cons (by decide) _)
      simp only [comma, List.isEmpty_cons, Bool.false_eq_true, if_false, List.cons_append, List.nil_append]
      rw [readMembers_more (spread_append_head width level v _) hv (skipBlanks_cons rfl _),
        readMembers_spread width level outer levels n (putNamed k v.reread acc) (m :: ms) rest (by simp) hfits.2
          (by omega)]
      rfl
termination_by structural ms => ms

end

/-- A value that fits is read back from its text with a line feed at the end. -/
theorem read_spread (width : Nat) {v : Json} {text : String} (htext : text.toList = spread width 0 v ++ ['\n'])
    (hfits : v.fits text.length = true) : read text = .ok v.reread := by
  obtain ⟨c, s, hcs, hc, hmark⟩ := spread_head width 0 v
  have hread := readValue_spread width 0 text.length (2 * text.toList.length + 2) v ['\n'] hfits
    (by rw [htext, List.length_append]; omega) (numberEnds_cons (by decide) [])
  rw [hcs] at htext hread
  have hdocument : readDocument false text.length text.toList = .ok v.reread := by
    unfold readDocument
    split
    · rename_i heq
      rw [htext] at heq
      exact absurd (List.cons.inj heq).1 hmark
    · have hskip : skipBlanks text.toList = c :: s ++ ['\n'] := by
        rw [htext]
        exact skipBlanks_cons hc _
      have hend : skipBlanks ['\n'] = [] := rfl
      simp only [hskip, hread, hend]
  rw [read, readWithin, hdocument]
  rfl

/-- An object with members is read back if it nests no deeper than four objects: its text has a start, an end and
two line ends, so it is no shorter than that. -/
theorem read_spread_object (width : Nat) {m : String × Json} {ms : List (String × Json)} {text : String}
    (htext : text.toList = spread width 0 (.object (m :: ms)) ++ ['\n'])
    (hfits : ∀ n, fits (n + 4) (.object (m :: ms)) = true) : read text = .ok (reread (.object (m :: ms))) := by
  obtain ⟨n, hn⟩ : ∃ n, text.length = n + 4 := by
    refine Nat.exists_eq_add_of_le' ?_
    rw [← String.length_toList, htext]
    simp only [spread, spreadLine, List.length_append, List.length_cons]
    omega
  exact read_spread width htext (hn ▸ hfits n)

end ClientForge.Json
