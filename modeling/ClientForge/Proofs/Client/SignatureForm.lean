import ClientForge.Proofs.Client.Idents
import ClientForge.Proofs.Client.Lines
import ClientForge.Text.Word

/-!
Signatures in a source text: the lines that open methods. A form of signatures says how such a line starts and
ends. Reading lines by a form finds a signature where one is written (`SignatureForm.shows_signature`) and none
in lines that start in another way (`SignatureForm.shows_of_plain`), so what is found in a text is what is
found in its lines (`SignatureForm.Shows`).
-/

namespace ClientForge

/-- A method as its signature shows it. -/
structure Signature where
  name : List Char
  /-- All that stands between the parentheses. -/
  params : List Char
deriving DecidableEq, Repr

/-- Is there more than blanks in a piece of text? -/
def isFilled (piece : List Char) : Bool := !(Text.trim piece).isEmpty

/-- The number of parameters: that of the pieces between commas with more than blanks in them. -/
def Signature.arity (s : Signature) : Nat := (Text.splitAt ',' s.params).countP isFilled

/-- How signatures are written: what stands before the name, and what stands after the parentheses. -/
structure SignatureForm where
  opening : String
  closing : String
  oneLine : OneLine opening := by decide

namespace SignatureForm

/-- Read a signature and what follows it. The name is a run of word characters, the parameters end at the first
closing parenthesis, and the line ends with the signature. -/
def read? (f : SignatureForm) (s : List Char) : Option (Signature × List Char) := do
  let s ← Text.after? f.opening.toList s
  let name := s.takeWhile Text.isWord
  let s ← Text.after? ['('] (s.dropWhile Text.isWord)
  let params := s.takeWhile (· != ')')
  let rest ← Text.after? (')' :: f.closing.toList) (s.dropWhile (· != ')'))
  if !name.isEmpty && rest.head?.all (· == '\n') then some (⟨name, params⟩, rest) else none

/-- All signatures that start lines, from the left, without overlap. `atStart` says whether a line starts here,
and `skip` counts the characters of the last signature still to pass. -/
def readAll (f : SignatureForm) (atStart : Bool) (skip : Nat) : List Char → List Signature
  | [] => []
  | c :: s =>
    if 0 < skip then readAll f (c == '\n') (skip - 1) s
    else
      match if atStart then f.read? (c :: s) else none with
      | some (found, rest) => found :: readAll f (c == '\n') (s.length - rest.length) s
      | none => readAll f (c == '\n') 0 s

/-- The signatures in a text. -/
def signatures (f : SignatureForm) (s : String) : List Signature := f.readAll true 0 s.toList

end SignatureForm

/-! ## Parameters -/

theorem isFilled_iff {piece : List Char} : isFilled piece ↔ ∃ c ∈ piece, Text.isBlank c = false := by
  have hempty : Text.trim piece = [] ↔ ∀ c ∈ piece, Text.isBlank c := Text.stripBy_eq_nil_iff
  unfold isFilled
  rw [Bool.not_eq_true', List.isEmpty_eq_false_iff, Ne, hempty]
  simp

theorem countP_splitAt_space (s : List Char) :
    (Text.splitAt ',' (' ' :: s)).countP isFilled = (Text.splitAt ',' s).countP isFilled := by
  obtain ⟨piece, pieces, hs⟩ := List.exists_cons_of_ne_nil (splitAt_ne_nil ',' s)
  have hpiece : isFilled (' ' :: piece) = isFilled piece := by
    rw [Bool.eq_iff_iff, isFilled_iff, isFilled_iff]
    simp [Text.isBlank]
  rw [splitAt_cons_of_ne (by decide) hs, hs, List.countP_cons, List.countP_cons, hpiece]

/-- As many parameters are counted as are written. -/
theorem arity_commas (name : List Char) {ps : List String} (hcomma : ∀ p ∈ ps, ',' ∉ p.toList)
    (hfilled : ∀ p ∈ ps, isFilled p.toList) : Signature.arity ⟨name, (commas ps).toList⟩ = ps.length := by
  unfold Signature.arity
  dsimp only
  induction ps with
  | nil => decide
  | cons p ps ih =>
    obtain ⟨hp, hps⟩ := List.forall_mem_cons.1 hcomma
    obtain ⟨hpfilled, hpsfilled⟩ := List.forall_mem_cons.1 hfilled
    cases ps with
    | nil => simp [toList_commas_cons, splitAt_of_not_mem hp, hpfilled]
    | cons q ps =>
      have hchars : (commas (p :: q :: ps)).toList = p.toList ++ ',' :: ' ' :: (commas (q :: ps)).toList := by
        rw [toList_commas_cons, if_neg (List.cons_ne_nil q ps)]
        rfl
      rw [hchars, splitAt_append hp, List.countP_cons, countP_splitAt_space, ih hps hpsfilled]
      simp [hpfilled]

namespace SignatureForm

/-! ## Reading one line -/

theorem read?_of_not_prefix {f : SignatureForm} {s : List Char} (h : ¬f.opening.toList <+: s) : f.read? s = none := by
  unfold read?
  cases hafter : Text.after? f.opening.toList s with
  | none => rfl
  | some r => exact absurd ⟨r, (Text.after?_eq_some_iff.1 hafter).symm⟩ h

/-- A signature is read as it is written. -/
theorem read?_signature (f : SignatureForm) {name params : List Char} (hne : name ≠ [])
    (hname : ∀ c ∈ name, Text.isWord c) (hparams : ')' ∉ params) (s : List Char) :
    f.read? (f.opening.toList ++ (name ++ '(' :: (params ++ ')' :: (f.closing.toList ++ '\n' :: s)))) =
      some (⟨name, params⟩, '\n' :: s) := by
  have htakeName : ∀ r, (name ++ '(' :: r).takeWhile Text.isWord = name := by
    intro r
    rw [List.takeWhile_append_of_pos hname, List.takeWhile_cons_of_neg (by decide), List.append_nil]
  have hdropName : ∀ r, (name ++ '(' :: r).dropWhile Text.isWord = '(' :: r := by
    intro r
    rw [List.dropWhile_append_of_pos hname, List.dropWhile_cons_of_neg (by decide)]
  have hinside : ∀ c ∈ params, (c != ')') = true := by
    intro c hc
    rw [bne_iff_ne]
    rintro rfl
    exact hparams hc
  have htakeParams : ∀ r, (params ++ ')' :: r).takeWhile (· != ')') = params := by
    intro r
    rw [List.takeWhile_append_of_pos hinside, List.takeWhile_cons_of_neg (by decide), List.append_nil]
  have hdropParams : ∀ r, (params ++ ')' :: r).dropWhile (· != ')') = ')' :: r := by
    intro r
    rw [List.dropWhile_append_of_pos hinside, List.dropWhile_cons_of_neg (by decide)]
  have hparen : ∀ r, Text.after? ['('] ('(' :: r) = some r := Text.after?_append ['(']
  have hclosing := Text.after?_append (')' :: f.closing.toList) ('\n' :: s)
  rw [List.cons_append] at hclosing
  have hfilled : name.isEmpty = false := by simpa using hne
  simp only [read?, Text.after?_append, Option.bind_eq_bind, Option.bind_some, htakeName, hdropName, htakeParams,
    hdropParams, hparen, hclosing, hfilled]
  rfl

/-! ## Reading lines -/

/-- Within a line no signature starts. -/
theorem readAll_inside (f : SignatureForm) {l : List Char} (h : '\n' ∉ l) (s : List Char) :
    f.readAll false 0 (l ++ '\n' :: s) = f.readAll true 0 s := by
  induction l with
  | nil => simp [readAll]
  | cons c l ih =>
    have hc : (c == '\n') = false := by simpa using (List.ne_of_not_mem_cons h).symm
    simpa [readAll, hc] using ih (List.not_mem_of_not_mem_cons h)

/-- After a signature the next line follows. -/
theorem readAll_skip (f : SignatureForm) {l : List Char} (h : '\n' ∉ l) (s : List Char) :
    f.readAll false l.length (l ++ '\n' :: s) = f.readAll true 0 s := by
  induction l with
  | nil => simp [readAll]
  | cons c l ih =>
    have hc : (c == '\n') = false := by simpa using (List.ne_of_not_mem_cons h).symm
    simpa [readAll, hc] using ih (List.not_mem_of_not_mem_cons h)

/-- The signatures in the text of some lines, whatever lines follow. -/
def Shows (f : SignatureForm) (ls : List String) (found : List Signature) : Prop :=
  ∀ s, f.readAll true 0 (lineChars ls ++ s) = found ++ f.readAll true 0 s

variable {f : SignatureForm}

theorem shows_nil : f.Shows [] [] := fun _ => rfl

theorem Shows.append {ls ks : List String} {found more : List Signature} (hls : f.Shows ls found)
    (hks : f.Shows ks more) : f.Shows (ls ++ ks) (found ++ more) := by
  intro s
  rw [lineChars_append, List.append_assoc, hls, hks, List.append_assoc]

theorem shows_flatMap {α : Type} {lines : α → List String} {found : α → Signature} {xs : List α}
    (h : ∀ x ∈ xs, f.Shows (lines x) [found x]) : f.Shows (xs.flatMap lines) (xs.map found) := by
  induction xs with
  | nil => exact shows_nil
  | cons x xs ih =>
    rw [List.flatMap_cons]
    exact (h x List.mem_cons_self).append (ih fun y hy => h y (List.mem_cons_of_mem x hy))

/-- What is found in a text is what its lines show. -/
theorem Shows.signatures_eq {a : Artifact} {found : List Signature} (h : f.Shows a.lines found) :
    f.signatures a.text = found := by
  unfold signatures
  rw [Artifact.toList_text, ← List.append_nil (lineChars _), h]
  exact List.append_nil found

/-- A line without a signature. -/
theorem shows_of_read? {l : String} (hline : OneLine l) (h : ∀ s, f.read? (l.toList ++ '\n' :: s) = none) :
    f.Shows [l] [] := by
  intro s
  have htext : lineChars [l] ++ s = l.toList ++ '\n' :: s := by simp [lineChars]
  have hread := h s
  unfold OneLine at hline
  rw [htext, List.nil_append]
  cases hchars : l.toList with
  | nil =>
    rw [hchars, List.nil_append] at hread
    simp [readAll, hread]
  | cons c r =>
    rw [hchars, List.cons_append] at hread
    rw [hchars] at hline
    have hc : (c == '\n') = false := by simpa using (List.ne_of_not_mem_cons hline).symm
    simpa [readAll, hread, hc] using f.readAll_inside (List.not_mem_of_not_mem_cons hline) s

/-- The line of a signature. -/
theorem shows_signature {l : String} {name params : List Char}
    (hl : l.toList = f.opening.toList ++ (name ++ '(' :: (params ++ ')' :: f.closing.toList)))
    (hline : OneLine l) (hne : name ≠ []) (hname : ∀ c ∈ name, Text.isWord c) (hparams : ')' ∉ params) :
    f.Shows [l] [⟨name, params⟩] := by
  intro s
  have htext : lineChars [l] ++ s = l.toList ++ '\n' :: s := by simp [lineChars]
  have hread : f.read? (l.toList ++ '\n' :: s) = some (⟨name, params⟩, '\n' :: s) := by
    rw [hl]
    simpa using f.read?_signature hne hname hparams s
  unfold OneLine at hline
  rw [htext]
  cases hchars : l.toList with
  | nil => simp [hchars] at hl
  | cons c r =>
    rw [hchars, List.cons_append] at hread
    rw [hchars] at hline
    have hc : (c == '\n') = false := by simpa using (List.ne_of_not_mem_cons hline).symm
    simpa [readAll, hread, hc] using f.readAll_skip (List.not_mem_of_not_mem_cons hline) s

/-! ## Lines that start in another way -/

/-- Is the text on one line that does not start like a signature? -/
structure Plain (f : SignatureForm) (l : String) : Prop where
  oneLine : OneLine l
  not_prefix : ¬f.opening.toList <+: l.toList

/-- Is the text on one line that starts in another way than a signature, however it goes on? -/
structure Apart (f : SignatureForm) (l : String) : Prop extends f.Plain l where
  not_start : ¬l.toList <+: f.opening.toList

-- The characters of a literal are found by unification. Lists of characters are cheap to compare where texts
-- would have to be decoded first.
theorem plain_ofList {opening l : List Char} (hf : f.opening = .ofList opening) (h : '\n' ∉ l ∧ ¬opening <+: l) :
    f.Plain (.ofList l) where
  oneLine := oneLine_ofList h.1
  not_prefix := by
    rw [hf, String.toList_ofList, String.toList_ofList]
    exact h.2

theorem apart_ofList {opening l : List Char} (hf : f.opening = .ofList opening)
    (h : '\n' ∉ l ∧ ¬opening <+: l ∧ ¬l <+: opening) : f.Apart (.ofList l) where
  toPlain := plain_ofList hf ⟨h.1, h.2.1⟩
  not_start := by
    rw [hf, String.toList_ofList, String.toList_ofList]
    exact h.2.2

theorem plain_append {lead rest : String} (h : f.Apart lead) (hrest : OneLine rest) : f.Plain (lead ++ rest) where
  oneLine := oneLine_append.2 ⟨h.oneLine, hrest⟩
  not_prefix := by
    intro hp
    rw [String.toList_append] at hp
    exact (List.prefix_or_prefix_of_prefix hp (List.prefix_append _ _)).elim h.not_prefix h.not_start

/-- Is every text plain? -/
def AllPlain (f : SignatureForm) (ls : List String) : Prop := ∀ l ∈ ls, f.Plain l

theorem allPlain_nil : f.AllPlain [] ↔ True := iff_true_intro (List.forall_mem_nil _)

theorem allPlain_cons {l : String} {ls : List String} : f.AllPlain (l :: ls) ↔ f.Plain l ∧ f.AllPlain ls :=
  List.forall_mem_cons

theorem allPlain_append {ls ks : List String} : f.AllPlain (ls ++ ks) ↔ f.AllPlain ls ∧ f.AllPlain ks :=
  List.forall_mem_append

theorem allPlain_map {α : Type} {line : α → String} {xs : List α} :
    f.AllPlain (xs.map line) ↔ ∀ x ∈ xs, f.Plain (line x) := List.forall_mem_map

theorem allPlain_flatMap {α : Type} {lines : α → List String} {xs : List α} :
    f.AllPlain (xs.flatMap lines) ↔ ∀ x ∈ xs, f.AllPlain (lines x) := List.forall_mem_flatMap

theorem Plain.shows {l : String} (h : f.Plain l) : f.Shows [l] [] := by
  obtain ⟨hline, hopening⟩ := h
  refine shows_of_read? hline fun s => read?_of_not_prefix fun hp => ?_
  rcases List.prefix_or_prefix_of_prefix hp (List.prefix_append _ _) with hp' | ⟨t, ht⟩
  · exact hopening hp'
  · -- The line is the start of an opening, and the rest of the opening does not go on over its end.
    rw [← ht, List.prefix_append_right_inj] at hp
    have honeLine : '\n' ∉ l.toList ++ t := ht ▸ f.oneLine
    cases t with
    | nil => exact hopening (by simp [← ht])
    | cons c t =>
      obtain ⟨rfl, -⟩ := List.cons_prefix_cons.1 hp
      exact honeLine (List.mem_append_right _ List.mem_cons_self)

theorem shows_of_plain {ls : List String} (h : f.AllPlain ls) : f.Shows ls [] := by
  induction ls with
  | nil => exact shows_nil
  | cons l ls ih =>
    obtain ⟨hl, hls⟩ := allPlain_cons.1 h
    exact hl.shows.append (ih hls)

/-- The line of a signature among plain lines shows the signature alone. -/
theorem shows_among {line : String} {found : Signature} (h : f.Shows [line] [found]) {before after : List String}
    (hbefore : f.AllPlain before) (hafter : f.AllPlain after) : f.Shows (before ++ line :: after) [found] :=
  (shows_of_plain hbefore).append (h.append (shows_of_plain hafter))

example : ({ opening := "def ", closing := ":" } : SignatureForm).signatures "def f(a, b):\n  def g():\ndef h() :\n" =
    [⟨['f'], "a, b".toList⟩] := by decide

end SignatureForm

end ClientForge
