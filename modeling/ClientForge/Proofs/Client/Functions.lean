import ClientForge.Proofs.Client.Tests

/-!
The functions that a source text declares. A text is read character by character: what stands in comments and in
literals declares nothing, and a line declares a function if its code starts with the words for it, a name and a
parenthesis. A comment is taken to go on to the end of its line. What is found in a text is what is found in its
lines, one after another, as long as each of them ends in code or in a comment (`Target.Shows`). Comments show nothing
(`Target.shows_comment`), and neither do calls, whatever texts their literals hold (`Target.shows_call`).
-/

namespace ClientForge

/-- Where the characters of a source text stand. -/
inductive Scope where
  | code
  | comment
  /-- Between quotes of a kind. -/
  | literal (quote : Char)
  /-- Between quotes of a kind, after a backslash. -/
  | escape (quote : Char)
deriving DecidableEq, Repr

/-- What has been read of a source text. -/
structure CodeState where
  scope : Scope := .code
  /-- The code of the line so far, backwards. -/
  line : List Char := []
  /-- The functions that the lines before declare. -/
  found : List (List Char) := []
deriving DecidableEq, Repr

/-- Does a character end a line of code? -/
def endsCode (c : Char) : Bool := c == '\n' || c == '\r'

/-- Does a character start a literal? -/
def isQuote (c : Char) : Bool := c == '"' || c == '\''

/-- The name at the start of a text, if a parenthesis follows it. -/
def calledName? (s : List Char) : Option (List Char) :=
  let name := s.takeWhile Text.isWord
  if !name.isEmpty && (s.dropWhile Text.isWord).head? == some '(' then some name else none

namespace Target

/-- What may stand before the name of a function that is a test. -/
def declarers : Target → List String
  | node => ["function ", "async function "]
  | python => ["def ", "async def "]
  | go => ["func "]
  | java => ["void ", "public void "]
  | php => ["function ", "public function ", "protected function "]

/-- The function that a line of code declares. -/
def declared? (t : Target) (line : List Char) : Option (List Char) :=
  (t.declarers.findSome? fun d => Text.after? d.toList (line.dropWhile Text.isBlank)).bind calledName?

/-- End a line of code. -/
def endLine (t : Target) (r : CodeState) : CodeState :=
  { found := r.found ++ (t.declared? r.line.reverse).toList }

/-- Does a line, given backwards, end with the mark of a comment? -/
def endsInMark : Target → List Char → Bool
  | python, '#' :: _ => true
  | python, _ => false
  | _, '/' :: '/' :: _ => true
  | _, _ => false

/-- Read one character. -/
def step (t : Target) (r : CodeState) (c : Char) : CodeState :=
  match r.scope with
  | .code =>
    if endsCode c then t.endLine r
    else if isQuote c then { r with scope := .literal c, line := c :: r.line }
    else if t.endsInMark (c :: r.line) then { r with scope := .comment }
    else { r with line := c :: r.line }
  | .comment => if endsCode c then t.endLine r else r
  | .literal q =>
    if c = q then { r with scope := .code, line := c :: r.line }
    else if c = '\\' then { r with scope := .escape q }
    else r
  | .escape q => { r with scope := .literal q }

/-- Read on. -/
def read (t : Target) (r : CodeState) (s : List Char) : CodeState := s.foldl t.step r

/-- The functions that a text declares, in order. -/
def functions (t : Target) (s : String) : List (List Char) := (t.endLine (t.read {} s.toList)).found

example : java.functions "void f() // \"\n '\"' void\n void g()" = [['f'], ['g']] := by decide +kernel

variable {t : Target}

/-! ## Reading on -/

theorem read_append (r : CodeState) (s u : List Char) : t.read r (s ++ u) = t.read (t.read r s) u :=
  List.foldl_append

theorem read_cons (r : CodeState) (c : Char) (s : List Char) : t.read r (c :: s) = t.read (t.step r c) s := rfl

/-- What has been found before makes no difference. -/
theorem step_found (names : List (List Char)) (r : CodeState) (c : Char) :
    t.step { r with found := names ++ r.found } c =
      { t.step r c with found := names ++ (t.step r c).found } := by
  obtain ⟨scope, line, found⟩ := r
  cases scope <;> simp only [step, endLine] <;> split_ifs <;> simp

theorem read_found (names : List (List Char)) (r : CodeState) (s : List Char) :
    t.read { r with found := names ++ r.found } s =
      { t.read r s with found := names ++ (t.read r s).found } := by
  induction s generalizing r with
  | nil => rfl
  | cons c s ih => rw [read_cons, step_found, ih, read_cons]

/-! ## Lines -/

/-- The functions that some lines show, if after them a line of code starts. -/
def Shows (t : Target) (ls : List String) (names : List (List Char)) : Prop :=
  t.read {} (lineChars ls) = { found := names }

instance (ls : List String) (names : List (List Char)) : Decidable (t.Shows ls names) :=
  inferInstanceAs (Decidable (_ = _))

theorem shows_nil : t.Shows [] [] := rfl

theorem Shows.append {ls ks : List String} {names more : List (List Char)} (hls : t.Shows ls names)
    (hks : t.Shows ks more) : t.Shows (ls ++ ks) (names ++ more) := by
  unfold Shows at hls hks ⊢
  have hfound := t.read_found names {} (lineChars ks)
  rw [hks] at hfound
  rw [lineChars_append, read_append, hls]
  simpa using hfound

/-- Lines that show nothing may stand before others. -/
theorem Shows.none_append {ls ks : List String} {names : List (List Char)} (hls : t.Shows ls [])
    (hks : t.Shows ks names) : t.Shows (ls ++ ks) names := hls.append hks

/-- Lines that show nothing may stand after others. -/
theorem Shows.append_none {ls ks : List String} {names : List (List Char)} (hls : t.Shows ls names)
    (hks : t.Shows ks []) : t.Shows (ls ++ ks) names := by
  simpa using hls.append hks

theorem shows_cons {l : String} {ls : List String} {names : List (List Char)} (hl : t.Shows [l] [])
    (hls : t.Shows ls names) : t.Shows (l :: ls) names := hl.none_append hls

theorem shows_flatMap {α : Type} {lines : α → List String} {name : α → List Char} {xs : List α}
    (h : ∀ x ∈ xs, t.Shows (lines x) [name x]) : t.Shows (xs.flatMap lines) (xs.map name) := by
  induction xs with
  | nil => exact shows_nil
  | cons x xs ih =>
    obtain ⟨hx, hxs⟩ := List.forall_mem_cons.1 h
    rw [List.flatMap_cons, List.map_cons]
    exact hx.append (ih hxs)

theorem shows_map {α : Type} {line : α → String} {xs : List α} (h : ∀ x ∈ xs, t.Shows [line x] []) :
    t.Shows (xs.map line) [] := by
  induction xs with
  | nil => exact shows_nil
  | cons x xs ih =>
    obtain ⟨hx, hxs⟩ := List.forall_mem_cons.1 h
    exact hx.append (ih hxs)

-- The characters of literals are found by unification, one line after another, where `lineChars` would decode them.
theorem lineChars_ofList_cons {l : List Char} {ls : List String} {s : List Char} (h : lineChars ls = s) :
    lineChars (.ofList l :: ls) = l ++ '\n' :: s := by
  have hchars : lineChars (.ofList l :: ls) = (String.ofList l).toList ++ '\n' :: lineChars ls := by simp [lineChars]
  rw [hchars, String.toList_ofList, h]

theorem shows_of_lineChars {ls : List String} {s : List Char} {names : List (List Char)} (hs : lineChars ls = s)
    (h : t.read {} s = { found := names }) : t.Shows ls names := by
  unfold Shows
  rwa [hs]

theorem shows_ofList {l : List Char} {names : List (List Char)} (h : t.read {} (l ++ ['\n']) = { found := names }) :
    t.Shows [.ofList l] names := shows_of_lineChars (lineChars_ofList_cons rfl) h

/-- What is found in a text is what its lines show. -/
theorem Shows.functions_eq {a : Artifact} {names : List (List Char)} (h : t.Shows a.lines names) :
    t.functions a.text = names := by
  have hblank : t.declared? [] = none := by cases t <;> decide +kernel
  unfold functions
  rw [Artifact.toList_text, h]
  simp [endLine, hblank]

/-- A line shows what its code declares. -/
theorem shows_line {l : String} {scope : Scope} {line : List Char} (hscope : scope = .code ∨ scope = .comment)
    (h : t.read {} l.toList = { scope, line }) : t.Shows [l] (t.declared? line.reverse).toList := by
  have hchars : lineChars [l] = l.toList ++ ['\n'] := by simp [lineChars]
  unfold Shows
  rw [hchars, read_append, h]
  rcases hscope with rfl | rfl <;> rfl

/-! ## Comments -/

theorem read_comment {s : List Char} (h : Text.Unbroken s) (line : List Char) :
    t.read { scope := .comment, line } s = { scope := .comment, line } := by
  induction s with
  | nil => rfl
  | cons c s ih =>
    obtain ⟨hc, hs⟩ := Text.unbroken_cons.1 h
    have hend : endsCode c = false := by
      rw [Bool.eq_false_iff]
      intro hends
      rcases (by simpa [endsCode] using hends : c = '\n' ∨ c = '\r') with rfl | rfl <;> exact absurd hc (by decide)
    rw [read_cons, step]
    simpa [hend] using ih hs

/-- Comments declare nothing. -/
theorem shows_comment {l : String} (hmark : (t.testIndent ++ t.lineMark).toList <+: l.toList)
    (h : Text.Unbroken l.toList) : t.Shows [l] [] := by
  obtain ⟨rest, hl⟩ := hmark
  rw [← hl, Text.unbroken_append] at h
  have hopening : ∃ line, t.read {} (t.testIndent ++ t.lineMark).toList = { scope := .comment, line } ∧
      t.declared? line.reverse = none := by
    cases t <;> exact ⟨_, rfl, by decide +kernel⟩
  obtain ⟨line, hopening, hnone⟩ := hopening
  have hread : t.read {} l.toList = { scope := .comment, line } := by
    rw [← hl, read_append, hopening, read_comment h.2]
  have hshows := shows_line (Or.inr rfl) hread
  rwa [hnone] at hshows

/-! ## Code -/

/-- Is a character one that only adds to the code of its line? -/
def isInline (c : Char) : Bool := !endsCode c && !isQuote c && c != '/' && c != '#'

theorem isInline_of_nameChar {c : Char} (h : c.isAlphanum ∨ c = '_') : isInline c := by
  by_contra hnot
  have hother : ['\n', '\r', '"', '\'', '/', '#'].all (fun d => !d.isAlphanum && d != '_') := by decide
  have hcases : c ∈ ['\n', '\r', '"', '\'', '/', '#'] := by
    simp only [isInline, endsCode, isQuote] at hnot
    simp
    grind
  have hc := List.all_eq_true.1 hother c hcases
  rcases h with h | rfl
  · simp [h] at hc
  · exact absurd hc (by decide)

theorem read_inline (t : Target) {s : List Char} (h : s.all isInline) (line : List Char) :
    t.read { line } s = { line := s.reverse ++ line } := by
  induction s generalizing line with
  | nil => rfl
  | cons c s ih =>
    obtain ⟨hc, hs⟩ := Bool.and_eq_true_iff.1 h
    have hstep : t.step { line } c = { line := c :: line } := by
      simp only [isInline, Bool.and_eq_true, Bool.not_eq_true', bne_iff_ne] at hc
      obtain ⟨⟨⟨hend, hquote⟩, hslash⟩, hhash⟩ := hc
      have hmark : t.endsInMark (c :: line) = false := by cases t <;> simp [endsInMark, hslash, hhash]
      simp [step, hend, hquote, hmark]
    rw [read_cons, hstep, ih hs]
    simp

/-- Does a text stay in its line, and in code? -/
def StaysInCode (t : Target) (s : List Char) : Prop :=
  ∀ line, ∃ more, t.read { line } s = { line := more ++ line }

theorem staysInCode_of_inline {s : List Char} (h : s.all isInline) : t.StaysInCode s :=
  fun line => ⟨_, t.read_inline h line⟩

theorem StaysInCode.append {s u : List Char} (hs : t.StaysInCode s) (hu : t.StaysInCode u) :
    t.StaysInCode (s ++ u) := by
  intro line
  obtain ⟨more, hs⟩ := hs line
  obtain ⟨more', hu⟩ := hu (more ++ line)
  exact ⟨more' ++ more, by rw [read_append, hs, hu, List.append_assoc]⟩

theorem staysInCode_commas {ss : List String} (h : ∀ s ∈ ss, t.StaysInCode s.toList) :
    t.StaysInCode (commas ss).toList := by
  induction ss with
  | nil => exact staysInCode_of_inline (by decide)
  | cons s ss ih =>
    obtain ⟨hs, hss⟩ := List.forall_mem_cons.1 h
    rw [toList_commas_cons]
    refine hs.append ?_
    split
    · exact staysInCode_of_inline rfl
    · exact (staysInCode_of_inline (by decide)).append (ih hss)

/-! ## Literals -/

/-- Between quotes there is nothing to end the literal or to start an escape. -/
theorem read_literal {q : Char} {s : List Char} (h : ∀ c ∈ s, c ≠ q ∧ c ≠ '\\') (line : List Char) :
    t.read { scope := .literal q, line } s = { scope := .literal q, line } := by
  induction s with
  | nil => rfl
  | cons c s ih =>
    obtain ⟨⟨hquote, hslash⟩, hs⟩ := List.forall_mem_cons.1 h
    rw [read_cons, step]
    simpa [hquote, hslash] using ih hs

/-- An escape stays in its literal, whatever the escaped character is. -/
theorem read_escape {q : Char} (hq : q ≠ '\\') (c : Char) {s : List Char} (h : ∀ d ∈ s, d ≠ q ∧ d ≠ '\\')
    (line : List Char) :
    t.read { scope := .literal q, line } ('\\' :: c :: s) = { scope := .literal q, line } := by
  have hescape : t.step { scope := .literal q, line } '\\' = { scope := .escape q, line } := by
    simp [step, hq.symm]
  rw [read_cons, hescape, read_cons]
  exact read_literal h line

theorem read_encodeChar (c : Char) (line : List Char) :
    t.read { scope := .literal '"', line } (Json.encodeChar c) = { scope := .literal '"', line } := by
  have hdigits : ∀ n < 0x20, (Text.hex 4 n).all (fun d => d != '"' && d != '\\') := by decide
  unfold Json.encodeChar
  split
  · exact read_escape (by decide) c (List.forall_mem_nil _) line
  split
  · exact read_escape (by decide) _ (List.forall_mem_nil _) line
  split
  · rename_i hcontrol
    have hplain := List.all_eq_true.1 (hdigits _ hcontrol)
    exact read_escape (by decide) 'u' (fun d hd => by simpa using hplain d hd) line
  · rename_i hplain _ _ _
    exact read_literal (List.forall_mem_singleton.2 (by simpa using hplain)) line

theorem read_singleQuotedChar (c : Char) (line : List Char) :
    t.read { scope := .literal '\'', line } (singleQuotedChar c) = { scope := .literal '\'', line } := by
  unfold singleQuotedChar
  split
  · exact read_escape (by decide) c (List.forall_mem_nil _) line
  · rename_i hplain
    exact read_literal (List.forall_mem_singleton.2 (by simpa [and_comm] using hplain)) line

theorem staysInCode_quoted {q : Char} (hq : isQuote q) {encode : Char → List Char}
    (h : ∀ c line, t.read { scope := .literal q, line } (encode c) = { scope := .literal q, line }) (s : List Char) :
    t.StaysInCode (q :: s.flatMap encode ++ [q]) := by
  intro line
  have hopen : t.step { line } q = { scope := .literal q, line := q :: line } := by
    have hend : endsCode q = false := by
      rcases (by simpa [isQuote] using hq : q = '"' ∨ q = '\'') with rfl | rfl <;> rfl
    simp [step, hq, hend]
  have hbody : ∀ line, t.read { scope := .literal q, line } (s.flatMap encode) = { scope := .literal q, line } := by
    intro line
    induction s with
    | nil => rfl
    | cons c s ih => rw [List.flatMap_cons, read_append, h, ih]
  refine ⟨[q, q], ?_⟩
  rw [List.cons_append, read_cons, hopen, read_append, hbody, read_cons]
  simp [step, read]

/-- The literal of a text stays in code, whatever the text is. -/
theorem staysInCode_literal (s : String) : t.StaysInCode (t.literal s).toList := by
  by_cases hphp : t = .php
  · subst hphp
    unfold literal
    rw [String.toList_ofList]
    exact staysInCode_quoted (by decide) read_singleQuotedChar s.toList
  · rw [literal_of_ne_php hphp, Json.literal, String.toList_ofList]
    exact staysInCode_quoted (by decide) read_encodeChar s.toList

/-! ## Calls -/

theorem staysInCode_call {m : MethodPlan} (h : AllNameChars m.name.toList) : t.StaysInCode (m.call t).toList := by
  have hname : t.StaysInCode m.name.toList :=
    staysInCode_of_inline (List.all_eq_true.2 fun c hc => isInline_of_nameChar (h c hc))
  have hnothing : ∀ p, t.StaysInCode (t.nothing p).toList := by
    intro p
    have hempty : Target.go.StaysInCode "\"\"".toList := staysInCode_quoted (q := '"') (by decide) read_encodeChar []
    cases t with
    | go =>
      cases p with
      | query => exact hempty
      | path | body => exact staysInCode_of_inline (by decide)
    | node | python | java | php => cases p <;> exact staysInCode_of_inline (by decide)
  have hargs : ∀ s ∈ m.exampleArgs t, t.StaysInCode s.toList := by
    intro s hs
    obtain ⟨a, -, rfl⟩ := List.mem_map.1 hs
    unfold Argument.call
    split
    · exact staysInCode_literal a.sample
    · exact hnothing _
  unfold MethodPlan.call
  simp only [String.toList_append]
  exact ((hname.append (staysInCode_of_inline (by decide))).append (staysInCode_commas hargs)).append
    (staysInCode_of_inline (by decide))

/-- The line of a call declares nothing, if it does not start like a line that declares something. -/
theorem shows_call {m : MethodPlan} (h : AllNameChars m.name.toList) {before after : String}
    (hbefore : before.toList.all isInline) (hnone : ∀ s, t.declared? (before.toList ++ s) = none)
    (hafter : after.toList.all isInline) : t.Shows [before ++ m.call t ++ after] [] := by
  obtain ⟨more, hmore⟩ := ((staysInCode_call h).append (staysInCode_of_inline hafter)) before.toList.reverse
  have hread : t.read {} (before ++ m.call t ++ after).toList = { line := more ++ before.toList.reverse } := by
    rw [String.toList_append, String.toList_append, List.append_assoc, read_append, t.read_inline hbefore,
      List.append_nil, hmore]
  have hshows := shows_line (Or.inl rfl) hread
  rwa [List.reverse_append, List.reverse_reverse, hnone] at hshows

/-! ## Declarations -/

theorem calledName?_append {name : List Char} (hne : name ≠ []) (hname : AllNameChars name) (rest : List Char) :
    calledName? (name ++ '(' :: rest) = some name := by
  have htake : (name ++ '(' :: rest).takeWhile Text.isWord = name := by
    rw [List.takeWhile_append_of_pos hname.isWord, List.takeWhile_cons_of_neg (by decide), List.append_nil]
  have hdrop : (name ++ '(' :: rest).dropWhile Text.isWord = '(' :: rest := by
    rw [List.dropWhile_append_of_pos hname.isWord, List.dropWhile_cons_of_neg (by decide)]
  unfold calledName?
  rw [htake, hdrop]
  simpa using hne

/-- A line that declares a function shows it. -/
theorem shows_declaration {opening name closing : String} {found : List Char} (hopening : opening.toList.all isInline)
    (hname : AllNameChars name.toList) (hclosing : closing.toList.all isInline)
    (hfound : t.declared? (opening.toList ++ (name.toList ++ closing.toList)) = some found) :
    t.Shows [opening ++ name ++ closing] [found] := by
  have hall : (opening ++ name ++ closing).toList.all isInline := by
    simp only [String.toList_append, List.all_append, Bool.and_eq_true]
    exact ⟨⟨hopening, List.all_eq_true.2 fun c hc => isInline_of_nameChar (hname c hc)⟩, hclosing⟩
  have hshows := shows_line (Or.inl rfl) (t.read_inline hall [])
  rw [List.append_nil, List.reverse_reverse, String.toList_append, String.toList_append, List.append_assoc,
    hfound] at hshows
  exact hshows

end Target

end ClientForge
