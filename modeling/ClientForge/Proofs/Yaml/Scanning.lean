import ClientForge.Proofs.Yaml.Scalars
import ClientForge.Yaml.Token

/-!
What a JSON text is made of, as it is scanned in YAML: signs, texts between quotes, words and numbers, each
of them one token.

Nothing in a JSON text says how deep it is indented, so no block collection is ever open, and no key is
needed (`Flowing`). Scanning one token gives the next state or breaks off for good: it *leads* from one
state to another (`Leads`).
-/

namespace ClientForge.Yaml

open Json (TakesScalar StartsScalar skipBlanks isBlank readUnits readText)

/-- Is the text all letters? -/
def IsWord (name : String) : Prop := ∀ c ∈ name.toList, c.isAlpha = true

/-- The tokens break off: they end with a fault before the text ends. -/
def BreaksOff (ts : List Token) : Prop := ∃ front f, ts = front ++ [.broken f] ∧ .done ∉ front

namespace Scan

/-! ## States -/

/-- No block collection is open, no key is needed, and the text goes on. -/
structure Flowing (σ : Scan) : Prop where
  indent : σ.indent = -1
  indents : σ.indents = []
  unneeded : ∀ c ∈ σ.candidates, ∀ d ∈ c, d.needed = false
  goesOn : .done ∉ σ.tokens
  inSome : σ.candidates ≠ []

/-- Nothing has been scanned in between; key candidates may have been forgotten. -/
structure Kept (σ τ : Scan) : Prop where
  tokens : τ.tokens = σ.tokens
  indent : τ.indent = σ.indent
  indents : τ.indents = σ.indents
  candidates : ∃ f : Option Candidate → Option Candidate, (∀ c, f c = c ∨ f c = none) ∧
    τ.candidates = σ.candidates.map f

theorem Kept.of_eq {σ τ : Scan} (tokens : τ.tokens = σ.tokens) (indent : τ.indent = σ.indent)
    (indents : τ.indents = σ.indents) (candidates : τ.candidates = σ.candidates) : Kept σ τ :=
  ⟨tokens, indent, indents, id, fun _ => .inl rfl, by rw [candidates, List.map_id]⟩

theorem Kept.trans {σ τ υ : Scan} (h : Kept σ τ) (h' : Kept τ υ) : Kept σ υ := by
  obtain ⟨f, hf, hτ⟩ := h.candidates
  obtain ⟨g, hg, hυ⟩ := h'.candidates
  refine ⟨h'.tokens.trans h.tokens, h'.indent.trans h.indent, h'.indents.trans h.indents, g ∘ f, ?_, ?_⟩
  · intro c
    rcases hg (f c) with hgc | hgc
    · rw [Function.comp_apply, hgc]
      exact hf c
    · exact .inr hgc
  · rw [hυ, hτ, List.map_map]

theorem Kept.length_candidates {σ τ : Scan} (h : Kept σ τ) : τ.candidates.length = σ.candidates.length := by
  obtain ⟨f, -, hτ⟩ := h.candidates
  rw [hτ, List.length_map]

theorem Kept.flowing {σ τ : Scan} (h : Kept σ τ) (hσ : Flowing σ) : Flowing τ where
  indent := by rw [h.indent, hσ.indent]
  indents := by rw [h.indents, hσ.indents]
  goesOn := by
    rw [h.tokens]
    exact hσ.goesOn
  inSome := by
    rw [← List.length_pos_iff, h.length_candidates, List.length_pos_iff]
    exact hσ.inSome
  unneeded := by
    obtain ⟨f, hf, hτ⟩ := h.candidates
    rw [hτ]
    intro c hc d hd
    obtain ⟨c, hmem, rfl⟩ := List.mem_map.1 hc
    rcases hf c with hfc | hfc
    · rw [hfc] at hd
      exact hσ.unneeded c hmem d hd
    · rw [hfc] at hd
      cases hd

/-! ## To the next token -/

theorem skips_skipComment {c : Cursor} (h : Solid (skipBlanks c.rest)) : Skips c c.skipComment := by
  unfold Cursor.skipComment
  simp only
  split
  · rename_i s hcomment
    have hblanks := skipBlanks_of_skips (skips_skipSpaces c) h
    rw [hcomment, skipBlanks_cons_of_not_isBlank (by decide)] at hblanks
    exact absurd rfl (h _ _ hblanks.symm).2
  · exact skips_skipSpaces c

/-- On the way to the next token only the place changes. -/
theorem toNext_kept (n : Nat) {σ : Scan} (h : Solid (skipBlanks σ.cursor.rest)) :
    Skips σ.cursor (σ.toNext n).cursor ∧ Kept σ (σ.toNext n) := by
  induction n generalizing σ with
  | zero => exact ⟨.refl _, .of_eq rfl rfl rfl rfl⟩
  | succ n ih =>
    have hskip := skips_skipComment h
    unfold toNext
    simp only
    split
    · rename_i b next hbreak
      have hnext := hskip.trans (skips_lineBreak? hbreak).1
      obtain ⟨hmore, hkept⟩ := ih (σ := { σ with cursor := next, keyAllowed := σ.keyAllowed || !σ.inFlow })
        (by rw [skipBlanks_of_skips hnext h]; exact h)
      exact ⟨hnext.trans hmore, hkept.tokens, hkept.indent, hkept.indents, hkept.candidates⟩
    · exact ⟨hskip, .of_eq rfl rfl rfl rfl⟩

theorem dropStale_eq_ok {σ : Scan} (h : Flowing σ) :
    ∃ τ, σ.dropStale = .ok τ ∧ Kept σ τ ∧ τ.cursor = σ.cursor := by
  unfold dropStale
  simp only
  split
  · rename_i hany
    obtain ⟨c, hc, hstale⟩ := List.any_eq_true.1 hany
    cases c with
    | none => cases hstale
    | some d =>
      have hneeded := h.unneeded _ hc d rfl
      simp [hneeded] at hstale
  · refine ⟨_, rfl, ⟨rfl, rfl, rfl, _, fun c => ?_, rfl⟩, rfl⟩
    split
    · exact .inr rfl
    · exact .inl rfl

theorem dropCandidate_eq {σ : Scan} (h : Flowing σ) :
    σ.dropCandidate = .ok { σ with candidates := σ.candidates.modifyHead fun _ => none } := by
  obtain ⟨cursor, tokens, indent, indents, keyAllowed, candidates⟩ := σ
  cases candidates with
  | nil => rfl
  | cons c cs =>
    cases c with
    | none => rfl
    | some c =>
      have hneeded : c.needed = false := h.unneeded _ List.mem_cons_self c rfl
      simp [dropCandidate, hneeded]

theorem unwind_eq_self {σ : Scan} (h : σ.indents = []) (column : Int) : σ.unwind column = σ := by
  unfold unwind
  split
  · rfl
  · rw [h]
    simp only [unwindTo]
    rw [← h]

/-- Where a blank is left, no token can be read. -/
theorem token_of_isBlank {σ : Scan} {c : Char} {s : List Char} (hrest : σ.cursor.rest = c :: s)
    (hblank : isBlank c = true) (length : Nat) : ∃ f, σ.token length = .error f := by
  simp only [isBlank, Bool.or_eq_true, beq_iff_eq] at hblank
  rcases hblank with ((rfl | rfl) | rfl) | rfl <;>
    exact ⟨.malformed, by simp [token, hrest, atBorder, startsPlain, isBreak]⟩

theorem breaksOff_of_broken {σ : Scan} (h : Flowing σ) (f : Fault) :
    BreaksOff (.broken f :: σ.tokens).reverse := by
  refine ⟨σ.tokens.reverse, f, List.reverse_cons, ?_⟩
  rw [List.mem_reverse]
  exact h.goesOn

section
variable {length : Nat} {σ τ : Scan}

theorem all_of_nil (hdrop : (σ.toNext length).dropStale = .ok τ) (hτ : Flowing τ) (hrest : τ.cursor.rest = [])
    (fuel : Nat) : σ.all length (fuel + 1) = (.done :: τ.tokens).reverse := by
  simp [all, hdrop, unwind_eq_self hτ.indents, hrest, dropCandidate_eq hτ]

theorem all_of_error {f : Fault} (hdrop : (σ.toNext length).dropStale = .ok τ) (hτ : Flowing τ)
    (hrest : τ.cursor.rest ≠ []) (htoken : τ.token length = .error f) (fuel : Nat) :
    σ.all length (fuel + 1) = (.broken f :: τ.tokens).reverse := by
  simp [all, hdrop, unwind_eq_self hτ.indents, hrest, htoken]

theorem all_of_ok {υ : Scan} (hdrop : (σ.toNext length).dropStale = .ok τ) (hτ : Flowing τ)
    (hrest : τ.cursor.rest ≠ []) (htoken : τ.token length = .ok υ) (fuel : Nat) :
    σ.all length (fuel + 1) = υ.all length fuel := by
  simp [all, hdrop, unwind_eq_self hτ.indents, hrest, htoken]

end

/-- One turn of scanning: it breaks off, ends the text, or reads the token at the next place. -/
theorem all_cases {σ : Scan} (h : Flowing σ) (hsolid : Solid (skipBlanks σ.cursor.rest)) (length fuel : Nat) :
    BreaksOff (σ.all length fuel) ∨
      (skipBlanks σ.cursor.rest = [] ∧ σ.all length fuel = (.done :: σ.tokens).reverse) ∨
      ∃ fuel' τ υ, Kept σ τ ∧ τ.cursor.rest = skipBlanks σ.cursor.rest ∧ τ.token length = .ok υ ∧
        σ.all length fuel = υ.all length fuel' := by
  cases fuel with
  | zero => exact .inl (breaksOff_of_broken h .malformed)
  | succ fuel =>
    obtain ⟨hskip, hnext⟩ := toNext_kept length hsolid
    obtain ⟨τ, hdrop, hstale, hcursor⟩ := dropStale_eq_ok (hnext.flowing h)
    have hkept : Kept σ τ := hnext.trans hstale
    have hτ : Flowing τ := hkept.flowing h
    have hblanks : skipBlanks τ.cursor.rest = skipBlanks σ.cursor.rest := by
      rw [hcursor, skipBlanks_of_skips hskip hsolid]
    cases hrest : τ.cursor.rest with
    | nil =>
      rw [hrest] at hblanks
      refine .inr (.inl ⟨hblanks.symm, ?_⟩)
      rw [all_of_nil hdrop hτ hrest, hkept.tokens]
    | cons c s =>
      have hne : τ.cursor.rest ≠ [] := by
        rw [hrest]
        exact List.cons_ne_nil c s
      cases htoken : τ.token length with
      | error f =>
        rw [all_of_error hdrop hτ hne htoken]
        exact .inl (breaksOff_of_broken hτ f)
      | ok υ =>
        refine .inr (.inr ⟨fuel, τ, υ, hkept, ?_, htoken, all_of_ok hdrop hτ hne htoken fuel⟩)
        by_cases hblank : isBlank c = true
        · obtain ⟨f, hf⟩ := token_of_isBlank hrest hblank length
          rw [hf] at htoken
          cases htoken
        · rw [← hblanks, hrest, skipBlanks_cons_of_not_isBlank hblank]

/-! ## From state to state -/

/-- Scanning from a state breaks off, or it goes on from a state with a property. -/
def Leads (length : Nat) (σ : Scan) (p : Scan → Prop) : Prop :=
  ∀ fuel, BreaksOff (σ.all length fuel) ∨ ∃ fuel' τ, p τ ∧ σ.all length fuel = τ.all length fuel'

theorem Leads.trans {length : Nat} {σ : Scan} {p q : Scan → Prop} (h : Leads length σ p)
    (h' : ∀ τ, p τ → Leads length τ q) : Leads length σ q := by
  intro fuel
  rcases h fuel with hbroken | ⟨fuel', τ, hτ, heq⟩
  · exact .inl hbroken
  · rw [heq]
    exact h' τ hτ fuel'

theorem Leads.mono {length : Nat} {σ : Scan} {p q : Scan → Prop} (h : Leads length σ p)
    (h' : ∀ τ, p τ → q τ) : Leads length σ q :=
  h.trans fun τ hτ fuel => .inr ⟨fuel, τ, h' τ hτ, rfl⟩

/-- The next token leads on. -/
theorem leads_of_token {length : Nat} {σ : Scan} {t : List Char} {p : Scan → Prop} (h : Flowing σ)
    (ht : skipBlanks σ.cursor.rest = t) (hsolid : Solid t) (hne : t ≠ [])
    (htoken : ∀ τ υ, Kept σ τ → Flowing τ → τ.cursor.rest = t → τ.token length = .ok υ → p υ) :
    Leads length σ p := by
  intro fuel
  subst ht
  rcases all_cases h hsolid length fuel with hbroken | ⟨hend, -⟩ | ⟨fuel', τ, υ, hkept, hrest, hread, heq⟩
  · exact .inl hbroken
  · exact absurd hend hne
  · exact .inr ⟨fuel', υ, htoken τ υ hkept (hkept.flowing h) hrest hread, heq⟩

/-! ## Signs -/

/-- The innermost collection has no key candidate. -/
def NoKey (σ : Scan) : Prop := ∃ cs, σ.candidates = none :: cs

/-- The last token is the key candidate of the innermost collection, or there is none. -/
def LastKey (σ : Scan) : Prop :=
  NoKey σ ∨ ∃ c cs, σ.candidates = some c :: cs ∧ c.number + 1 = σ.tokens.length

theorem Kept.noKey {σ τ : Scan} (h : Kept σ τ) (hσ : NoKey σ) : NoKey τ := by
  obtain ⟨f, hf, hτ⟩ := h.candidates
  obtain ⟨cs, hcs⟩ := hσ
  refine ⟨cs.map f, ?_⟩
  rw [hτ, hcs, List.map_cons]
  rcases hf none with hnone | hnone <;> rw [hnone]

theorem Kept.lastKey {σ τ : Scan} (h : Kept σ τ) (hσ : LastKey σ) : LastKey τ := by
  rcases hσ with hσ | ⟨c, cs, hcs, hnumber⟩
  · exact .inl (h.noKey hσ)
  · obtain ⟨f, hf, hτ⟩ := h.candidates
    rw [hcs, List.map_cons] at hτ
    rcases hf (some c) with hsome | hnone
    · exact .inr ⟨c, cs.map f, by rw [hτ, hsome], by rw [h.tokens, hnumber]⟩
    · exact .inl ⟨cs.map f, by rw [hτ, hnone]⟩

/-- The state after a token, at depth `depth` of collections. -/
structure After (σ υ : Scan) (rest : List Char) (depth : Nat) (ts : List Token) : Prop where
  flowing : Flowing υ
  rest : skipBlanks υ.cursor.rest = skipBlanks rest
  depth : υ.candidates.length = depth
  tokens : υ.tokens = ts ++ σ.tokens

theorem inFlow_eq {σ : Scan} : σ.inFlow = decide (1 < σ.candidates.length) := rfl

/-- A key candidate is saved, or there is no room for one. -/
theorem saveCandidate_eq_ok {σ τ : Scan} (h : Flowing σ) (hsave : σ.saveCandidate = .ok τ) :
    Flowing τ ∧ τ.cursor = σ.cursor ∧ τ.tokens = σ.tokens ∧ τ.candidates.length = σ.candidates.length ∧
      (τ.candidates = σ.candidates ∨
        ∃ c, c.number = σ.tokens.length ∧ τ.candidates = some c :: σ.candidates.tail) := by
  unfold saveCandidate at hsave
  split at hsave
  · rw [dropCandidate_eq h] at hsave
    cases hsave
    obtain ⟨cursor, tokens, indent, indents, keyAllowed, candidates⟩ := σ
    obtain ⟨hindent, hindents, hunneeded, hgoesOn, hinSome⟩ := h
    obtain ⟨c, cs, rfl⟩ := List.exists_cons_of_ne_nil hinSome
    obtain ⟨-, hothers⟩ := List.forall_mem_cons.1 hunneeded
    have hcolumn : (indent == (cursor.column : Int)) = false := by
      rw [show indent = -1 from hindent, beq_eq_false_iff_ne]
      omega
    refine ⟨⟨hindent, hindents, ?_, hgoesOn, List.cons_ne_nil _ _⟩, rfl, rfl, rfl, .inr ⟨_, rfl, rfl⟩⟩
    refine List.forall_mem_cons.2 ⟨fun d hd => ?_, hothers⟩
    cases hd
    exact Bool.and_eq_false_imp.2 fun _ => hcolumn
  · cases hsave
    exact ⟨h, rfl, rfl, rfl, .inl rfl⟩

theorem rest_steps_one {c : Cursor} {ch : Char} {s : List Char} (hrest : c.rest = ch :: s) :
    (c.steps 1).rest = s := by
  rw [rest_steps, hrest]
  rfl

/-- A token other than that of the end has been read. -/
theorem After.of_push {σ υ : Scan} {t : Token} {next : Cursor} {allowed : Bool} {cs : List (Option Candidate)}
    (h : Flowing σ) (ht : t ≠ .done)
    (hυ : υ = ⟨next, t :: σ.tokens, σ.indent, σ.indents, allowed, cs⟩)
    (hcs : ∀ c ∈ cs, ∀ d ∈ c, d.needed = false) (hne : cs ≠ []) {rest : List Char}
    (hrest : skipBlanks next.rest = skipBlanks rest) : After σ υ rest cs.length [t] := by
  subst hυ
  refine ⟨⟨h.indent, h.indents, hcs, ?_, hne⟩, hrest, rfl, rfl⟩
  rw [List.mem_cons, not_or]
  exact ⟨fun heq => ht heq.symm, h.goesOn⟩

/-- A bracket or brace opens a collection in which no key has been met. -/
theorem flowOpen_eq_ok {σ υ : Scan} {t : Token} {c : Char} {s : List Char} (h : Flowing σ) (ht : t ≠ .done)
    (hrest : σ.cursor.rest = c :: s) (hopen : σ.flowOpen t = .ok υ) :
    After σ υ s (σ.candidates.length + 1) [t] ∧ NoKey υ := by
  obtain ⟨τ, hsave, heq⟩ := except_bind_eq_ok.1 hopen
  obtain ⟨hτ, hcursor, htokens, hlength, -⟩ := saveCandidate_eq_ok h hsave
  have hnext : (τ.cursor.steps 1).rest = s := by
    rw [hcursor, rest_steps_one hrest]
  have hnone : ∀ c ∈ none :: τ.candidates, ∀ d ∈ c, d.needed = false :=
    List.forall_mem_cons.2 ⟨fun _ hd => (nomatch hd), hτ.unneeded⟩
  obtain ⟨hflowing, hblanks, hdepth, hpushed⟩ :=
    After.of_push hτ ht (Except.ok.inj heq).symm hnone (List.cons_ne_nil _ _) (congrArg skipBlanks hnext)
  refine ⟨⟨hflowing, hblanks, ?_, by rw [hpushed, htokens]⟩, τ.candidates, ?_⟩
  · rw [hdepth, List.length_cons, hlength]
  · rw [← Except.ok.inj heq]

theorem exists_candidates {σ : Scan} (h : Flowing σ) : ∃ c cs, σ.candidates = c :: cs ∧
    (∀ c ∈ cs, ∀ d ∈ c, d.needed = false) ∧ ∀ c ∈ none :: cs, ∀ d ∈ c, d.needed = false := by
  obtain ⟨c, cs, hcs⟩ := List.exists_cons_of_ne_nil h.inSome
  have hunneeded := h.unneeded
  rw [hcs] at hunneeded
  obtain ⟨-, hothers⟩ := List.forall_mem_cons.1 hunneeded
  exact ⟨c, cs, hcs, hothers, List.forall_mem_cons.2 ⟨fun _ hd => (nomatch hd), hothers⟩⟩

/-- A bracket or brace closes the innermost collection. -/
theorem flowClose_eq_ok {σ υ : Scan} {t : Token} {c : Char} {s : List Char} (h : Flowing σ) (ht : t ≠ .done)
    (hrest : σ.cursor.rest = c :: s) (hclose : σ.flowClose t = .ok υ) :
    After σ υ s (σ.candidates.length - 1) [t] := by
  obtain ⟨c₀, cs, hcs, hothers, -⟩ := exists_candidates h
  unfold flowClose at hclose
  rw [dropCandidate_eq h, hcs] at hclose
  obtain ⟨τ, hτ, hclose⟩ := except_bind_eq_ok.1 hclose
  cases hτ
  split at hclose
  · rename_i hflow
    have hne : cs ≠ [] := by
      rintro rfl
      cases hflow
    rw [hcs]
    exact .of_push h ht (Except.ok.inj hclose).symm hothers hne (congrArg skipBlanks (rest_steps_one hrest))
  · cases hclose

/-- A comma ends an item or a member. No key has been met after it. -/
theorem flowComma_eq_ok {σ υ : Scan} {c : Char} {s : List Char} (h : Flowing σ)
    (hrest : σ.cursor.rest = c :: s) (hcomma : σ.flowComma = .ok υ) :
    After σ υ s σ.candidates.length [.comma] ∧ NoKey υ := by
  obtain ⟨c₀, cs, hcs, -, hnone⟩ := exists_candidates h
  unfold flowComma at hcomma
  rw [dropCandidate_eq h, hcs] at hcomma
  obtain ⟨τ, hτ, hcomma⟩ := except_bind_eq_ok.1 hcomma
  cases hτ
  rw [hcs]
  refine ⟨.of_push h (by decide) (Except.ok.inj hcomma).symm hnone (List.cons_ne_nil _ _)
    (congrArg skipBlanks (rest_steps_one hrest)), cs, ?_⟩
  rw [← Except.ok.inj hcomma]
  rfl

theorem insertAt_last {σ : Scan} {x : Token} {ts : List Token} {n : Nat} (htokens : σ.tokens = x :: ts)
    (hn : n + 1 = σ.tokens.length) (t : Token) : σ.insertAt n t = { σ with tokens := x :: t :: ts } := by
  have hlater : σ.tokens.length - n = 1 := by omega
  simp only [insertAt, hlater]
  rw [htokens]
  rfl

/-- A colon in a collection announces the key before it, if that is still the candidate. -/
theorem valueColon_eq_ok {σ υ : Scan} {x : Token} {ts : List Token} {c : Char} {s : List Char} (h : Flowing σ)
    (hflow : 1 < σ.candidates.length) (hkey : LastKey σ) (htokens : σ.tokens = x :: ts)
    (hrest : σ.cursor.rest = c :: s) (hcolon : σ.valueColon = .ok υ) :
    Flowing υ ∧ skipBlanks υ.cursor.rest = skipBlanks s ∧ υ.candidates.length = σ.candidates.length ∧
      (υ.tokens = .colon :: x :: .key :: ts ∨ υ.tokens = .colon :: x :: ts) := by
  obtain ⟨c₀, cs, hcs, -, hnone⟩ := exists_candidates h
  have hblanks : skipBlanks (σ.cursor.steps 1).rest = skipBlanks s := congrArg skipBlanks (rest_steps_one hrest)
  unfold valueColon at hcolon
  rcases hkey with ⟨ds, hds⟩ | ⟨d, ds, hds, hnumber⟩
  · have hin : σ.inFlow = true := decide_eq_true hflow
    rw [hds] at hcolon
    simp only [hin, Bool.not_true, Bool.false_and, Bool.false_eq_true, if_false, if_true] at hcolon
    rw [dropCandidate_eq h, hcs] at hcolon
    obtain ⟨τ, hτ, hcolon⟩ := except_bind_eq_ok.1 hcolon
    cases hτ
    obtain ⟨hflowing, hnext, hdepth, hpushed⟩ :=
      After.of_push h (by decide) (Except.ok.inj hcolon).symm hnone (List.cons_ne_nil _ _) hblanks
    exact ⟨hflowing, hnext, by rw [hdepth, hcs]; rfl, .inr (by rw [hpushed, htokens]; rfl)⟩
  · obtain ⟨-, rfl⟩ := List.cons.inj (hcs.symm.trans hds)
    have hinsert := insertAt_last (σ := { σ with candidates := none :: cs }) htokens hnumber .key
    have hin : ({ σ with tokens := x :: .key :: ts, candidates := none :: cs } : Scan).inFlow = true := by
      rw [hcs] at hflow
      exact decide_eq_true hflow
    have hannounced : Flowing { σ with tokens := x :: .key :: ts, candidates := none :: cs } := by
      refine ⟨h.indent, h.indents, hnone, ?_, List.cons_ne_nil _ _⟩
      have hgoesOn := h.goesOn
      rw [htokens] at hgoesOn
      simpa using hgoesOn
    rw [hds] at hcolon
    simp only [hinsert, hin, if_true, Bool.false_eq_true, if_false] at hcolon
    obtain ⟨hflowing, hnext, hdepth, hpushed⟩ :=
      After.of_push hannounced (by decide) (Except.ok.inj hcolon).symm hnone (List.cons_ne_nil _ _) hblanks
    exact ⟨hflowing, hnext, by rw [hdepth, hcs]; rfl, .inl hpushed⟩

/-! ## Scalars -/

theorem readText_eq_ok {strict : Bool} {s rest : List Char} {name : String}
    (h : readText strict s = .ok (name, rest)) :
    ∃ units, readUnits [] s = .ok (units, rest) ∧ name = .ofList (Json.joinUnits units) := by
  unfold readText at h
  split at h
  · rename_i units rest hunits
    split at h
    · cases h
    · cases h
      exact ⟨units, hunits, rfl⟩
  · cases h
  · cases h

/-- Texts that agree are the same if they are words. -/
theorem eq_of_agree {text : List Char} {units : List Nat} (h : Agree text units)
    (hword : IsWord (.ofList text)) : String.ofList text = .ofList (Json.joinUnits units) := by
  unfold IsWord at hword
  rw [String.toList_ofList] at hword
  rw [h hword, Json.joinUnits_map_toNat]

/-- A text between quotes is one scalar. It can be a key, if none has been met before it. -/
theorem quotedText_eq_ok {strict : Bool} {σ υ : Scan} {s rest : List Char} {name : String} {length : Nat} (h : Flowing σ)
    (hrest : σ.cursor.rest = '"' :: s) (hread : readText strict s = .ok (name, rest))
    (hquoted : σ.quotedText true length = .ok υ) :
    ∃ text, After σ υ rest σ.candidates.length [.scalar text false] ∧ (IsWord text → text = name) ∧
      (NoKey σ → LastKey υ) := by
  obtain ⟨τ, hsave, hquoted⟩ := except_bind_eq_ok.1 hquoted
  obtain ⟨⟨t, next⟩, hscalar, heq⟩ := except_bind_eq_ok.1 hquoted
  obtain ⟨⟨text, next'⟩, hscalar, hpair⟩ := except_bind_eq_ok.1 hscalar
  cases hpair
  obtain ⟨hτ, hcursor, htokens, hlength, hcandidates⟩ := saveCandidate_eq_ok h hsave
  obtain ⟨units, hunits, rfl⟩ := readText_eq_ok hread
  have hstep : τ.cursor.step.rest = s := by rw [hcursor, rest_step, hrest, List.tail_cons]
  have hagree : Agree [] [] := fun _ => rfl
  obtain ⟨hnext, hfound⟩ := quotedScalar_of_readUnits hagree (by rw [hstep]; exact hunits) hscalar
  obtain ⟨hflowing, hblanks, hdepth, hpushed⟩ :=
    After.of_push hτ (by simp) (Except.ok.inj heq).symm hτ.unneeded hτ.inSome (congrArg skipBlanks hnext)
  refine ⟨.ofList text, ⟨hflowing, hblanks, hdepth.trans hlength, by rw [hpushed, htokens]⟩, eq_of_agree hfound, ?_⟩
  rintro ⟨cs, hcs⟩
  have hυ : υ.candidates = τ.candidates := by
    rw [← Except.ok.inj heq]
    rfl
  rcases hcandidates with hsame | ⟨c, hnumber, hsaved⟩
  · exact .inl ⟨cs, by rw [hυ, hsame, hcs]⟩
  · refine .inr ⟨c, _, by rw [hυ, hsaved], ?_⟩
    rw [hpushed, htokens, hnumber]
    rfl

theorem isScalarChar_of_startsScalar {c : Char} {t : List Char} (h : StartsScalar c t) :
    Json.isScalarChar c = true := by
  rcases h with hc | ⟨rfl, -⟩
  · simp [Json.isScalarChar, hc]
  · rfl

/-- A word or number is one scalar. -/
theorem plain_eq_ok {σ υ : Scan} {c : Char} {t rest : List Char} {n : Nat} (h : Flowing σ)
    (hrest : σ.cursor.rest = c :: t) (hstart : StartsScalar c t) (htakes : TakesScalar t rest)
    (hfollow : Follows σ.inFlow (skipBlanks rest)) (hplain : σ.plain (n + 1) = .ok υ) :
    ∃ text, After σ υ rest σ.candidates.length [.scalar text true] := by
  obtain ⟨τ, hsave, heq⟩ := except_bind_eq_ok.1 hplain
  obtain ⟨hτ, hcursor, htokens, hlength, -⟩ := saveCandidate_eq_ok h hsave
  obtain ⟨w, rfl, hw⟩ := htakes
  have hflow : τ.inFlow = σ.inFlow := by rw [inFlow_eq, inFlow_eq, hlength]
  have hword : τ.cursor.rest = (c :: w) ++ rest := by rw [hcursor, hrest, List.cons_append]
  have hall : ∀ d ∈ c :: w, Json.isScalarChar d = true :=
    List.forall_mem_cons.2 ⟨isScalarChar_of_startsScalar hstart, hw⟩
  rw [← hflow] at hfollow
  have hnext := plainScalar_of_takesScalar hword hall (List.cons_ne_nil _ _) hfollow (τ.indent + 1) n
  obtain ⟨hflowing, hblanks, hdepth, hpushed⟩ :=
    After.of_push hτ (by simp) (Except.ok.inj heq).symm hτ.unneeded hτ.inSome hnext
  exact ⟨_, hflowing, hblanks, hdepth.trans hlength, by rw [hpushed, htokens]⟩

theorem ne_of_isAlphanum {c : Char} (hc : c.isAlphanum = true) (d : Char) (hd : d.isAlphanum = false) : c ≠ d := by
  rintro rfl
  rw [hd] at hc
  cases hc

theorem isBreak_of_isAlphanum {c : Char} (hc : c.isAlphanum = true) : isBreak c = false := by
  have hne := ne_of_isAlphanum hc
  simp [isBreak, hne '\n' rfl, hne '\r' rfl, hne '\u0085' rfl, hne '\u2028' rfl, hne '\u2029' rfl]

theorem atBorder_of_ne {c : Char} (hminus : c ≠ '-') (hdot : c ≠ '.') (s : List Char) :
    atBorder (c :: s) = false := by
  unfold atBorder
  split
  · rename_i heq
    exact absurd (List.cons.inj heq).1 hminus
  · rename_i heq
    exact absurd (List.cons.inj heq).1 hdot
  · rfl

/-- The signs that tokens start with, and blanks. -/
def signs : List Char :=
  ['%', '[', ']', '\x7b', '\x7d', ',', '-', '?', ':', '*', '&', '!', '|', '>', '\'', '"', '#', '@', '\x60', ' ', '\t']

theorem isAlphanum_of_mem_signs : ∀ d ∈ signs, d.isAlphanum = false := by
  have hall : signs.all (fun d => !d.isAlphanum) = true := by decide
  intro d hd
  simpa using List.all_eq_true.1 hall d hd

/-- Where a word or number starts, a plain scalar is read. -/
theorem token_of_startsScalar {σ : Scan} {c : Char} {t : List Char} (hrest : σ.cursor.rest = c :: t)
    (hstart : StartsScalar c t) (length : Nat) : σ.token length = σ.plain length := by
  rcases hstart with hc | ⟨rfl, d, u, rfl, hd⟩
  · have hne := ne_of_isAlphanum hc
    have hborder : atBorder (c :: t) = false := atBorder_of_ne (hne '-' rfl) (hne '.' rfl) t
    have hsigns : ∀ d ∈ signs, c ≠ d := fun d hd => hne d (isAlphanum_of_mem_signs d hd)
    simp only [signs, List.forall_mem_cons] at hsigns
    simp [token, hrest, hborder, startsPlain, isBreak_of_isAlphanum hc, hsigns]
  · have hgap : atGap (d :: u) = false := by
      have hne := ne_of_isAlphanum hd
      simp [atGap, hne ' ' rfl, hne '\t' rfl, isBreak_of_isAlphanum hd]
    have hborder : atBorder ('-' :: d :: u) = false := by
      have hne := ne_of_isAlphanum hd
      unfold atBorder
      split
      · rename_i heq
        exact absurd (List.cons.inj (List.cons.inj heq).2).1 (hne '-' rfl)
      · rename_i heq
        cases heq
      · rfl
    simp [token, hrest, hborder, hgap, startsPlain]

/-! ## Tokens of JSON -/

theorem solid_cons {c : Char} (hgap : isGap c = false) (hcomment : c ≠ '#') (s : List Char) : Solid (c :: s) := by
  intro d u heq
  cases heq
  exact ⟨hgap, hcomment⟩

theorem Kept.after {σ τ υ : Scan} {rest : List Char} {depth : Nat} {ts : List Token} (h : Kept σ τ)
    (hafter : After τ υ rest depth ts) : After σ υ rest depth ts :=
  ⟨hafter.flowing, hafter.rest, hafter.depth, by rw [hafter.tokens, h.tokens]⟩

theorem After.trans {σ τ υ : Scan} {s rest : List Char} {d e : Nat} {ts us : List Token}
    (h : After σ τ s d ts) (h' : After τ υ rest e us) : After σ υ rest e (us ++ ts) :=
  ⟨h'.flowing, h'.rest, h'.depth, by rw [h'.tokens, h.tokens, List.append_assoc]⟩

theorem leads_text {strict : Bool} {length : Nat} {σ : Scan} {s rest : List Char} {name : String} (h : Flowing σ)
    (hrest : skipBlanks σ.cursor.rest = '"' :: s) (hread : readText strict s = .ok (name, rest)) :
    Leads length σ fun υ => ∃ text, After σ υ rest σ.candidates.length [.scalar text false] ∧
      (IsWord text → text = name) ∧ (NoKey σ → LastKey υ) := by
  refine leads_of_token h hrest (solid_cons (by decide) (by decide) s) (List.cons_ne_nil _ _) ?_
  intro τ υ hkept hτ hhere htoken
  have hquoted : τ.quotedText true length = .ok υ := by
    rw [← htoken]
    simp [token, hhere, atBorder]
  obtain ⟨text, hafter, hname, hkey⟩ := quotedText_eq_ok hτ hhere hread hquoted
  rw [hkept.length_candidates] at hafter
  exact ⟨text, hkept.after hafter, hname, fun hno => hkey (hkept.noKey hno)⟩

theorem leads_scalar {n : Nat} {σ : Scan} {c : Char} {t rest : List Char} (h : Flowing σ)
    (hrest : skipBlanks σ.cursor.rest = c :: t) (hstart : StartsScalar c t) (htakes : TakesScalar t rest)
    (hfollow : Follows σ.inFlow (skipBlanks rest)) :
    Leads (n + 1) σ fun υ => ∃ text, After σ υ rest σ.candidates.length [.scalar text true] := by
  have hsolid : Solid (c :: t) := by
    rcases hstart with hc | ⟨rfl, -⟩
    · have hne := ne_of_isAlphanum hc
      have hgap : isGap c = false := by simp [isGap, hne ' ' rfl, hne '\t' rfl, isBreak_of_isAlphanum hc]
      exact solid_cons hgap (hne '#' rfl) t
    · exact solid_cons (by decide) (by decide) t
  refine leads_of_token h hrest hsolid (List.cons_ne_nil _ _) ?_
  intro τ υ hkept hτ hhere htoken
  rw [token_of_startsScalar hhere hstart] at htoken
  have hflow : τ.inFlow = σ.inFlow := by rw [inFlow_eq, inFlow_eq, hkept.length_candidates]
  rw [← hflow] at hfollow
  obtain ⟨text, hafter⟩ := plain_eq_ok hτ hhere hstart htakes hfollow htoken
  rw [hkept.length_candidates] at hafter
  exact ⟨text, hkept.after hafter⟩

/-- A bracket or brace opens a collection. -/
theorem leads_open {length : Nat} {σ : Scan} {c : Char} {t : Token} {s : List Char} (h : Flowing σ)
    (hc : c = '[' ∧ t = .openBracket ∨ c = '\x7b' ∧ t = .openBrace) (hrest : skipBlanks σ.cursor.rest = c :: s) :
    Leads length σ fun υ => After σ υ s (σ.candidates.length + 1) [t] ∧ NoKey υ := by
  have hsolid : Solid (c :: s) := by
    rcases hc with ⟨rfl, -⟩ | ⟨rfl, -⟩ <;> exact solid_cons (by decide) (by decide) s
  refine leads_of_token h hrest hsolid (List.cons_ne_nil _ _) ?_
  intro τ υ hkept hτ hhere htoken
  have hopen : τ.flowOpen t = .ok υ := by
    rw [← htoken]
    rcases hc with ⟨rfl, rfl⟩ | ⟨rfl, rfl⟩ <;> simp [token, hhere, atBorder]
  have ht : t ≠ .done := by rcases hc with ⟨-, rfl⟩ | ⟨-, rfl⟩ <;> decide
  obtain ⟨hafter, hkey⟩ := flowOpen_eq_ok hτ ht hhere hopen
  rw [hkept.length_candidates] at hafter
  exact ⟨hkept.after hafter, hkey⟩

/-- A bracket or brace closes a collection. -/
theorem leads_close {length : Nat} {σ : Scan} {c : Char} {t : Token} {s : List Char} (h : Flowing σ)
    (hc : c = ']' ∧ t = .closeBracket ∨ c = '\x7d' ∧ t = .closeBrace) (hrest : skipBlanks σ.cursor.rest = c :: s) :
    Leads length σ fun υ => After σ υ s (σ.candidates.length - 1) [t] := by
  have hsolid : Solid (c :: s) := by
    rcases hc with ⟨rfl, -⟩ | ⟨rfl, -⟩ <;> exact solid_cons (by decide) (by decide) s
  refine leads_of_token h hrest hsolid (List.cons_ne_nil _ _) ?_
  intro τ υ hkept hτ hhere htoken
  have hclose : τ.flowClose t = .ok υ := by
    rw [← htoken]
    rcases hc with ⟨rfl, rfl⟩ | ⟨rfl, rfl⟩ <;> simp [token, hhere, atBorder]
  have ht : t ≠ .done := by rcases hc with ⟨-, rfl⟩ | ⟨-, rfl⟩ <;> decide
  have hafter := flowClose_eq_ok hτ ht hhere hclose
  rw [hkept.length_candidates] at hafter
  exact hkept.after hafter

theorem leads_comma {length : Nat} {σ : Scan} {s : List Char} (h : Flowing σ)
    (hrest : skipBlanks σ.cursor.rest = ',' :: s) :
    Leads length σ fun υ => After σ υ s σ.candidates.length [.comma] ∧ NoKey υ := by
  refine leads_of_token h hrest (solid_cons (by decide) (by decide) s) (List.cons_ne_nil _ _) ?_
  intro τ υ hkept hτ hhere htoken
  have hcomma : τ.flowComma = .ok υ := by
    rw [← htoken]
    simp [token, hhere, atBorder]
  obtain ⟨hafter, hkey⟩ := flowComma_eq_ok hτ hhere hcomma
  rw [hkept.length_candidates] at hafter
  exact ⟨hkept.after hafter, hkey⟩

/-- A colon goes between a name and its value; with luck the name has been announced. -/
theorem leads_colon {length depth : Nat} {σ τ : Scan} {x : Token} {s t : List Char}
    (h : After σ τ t depth [x]) (hflow : 1 < depth) (hkey : LastKey τ) (ht : skipBlanks t = ':' :: s) :
    Leads length τ fun υ => ∃ front, After σ υ s depth front.reverse ∧
      (front = [.key, x, .colon] ∨ front = [x, .colon]) := by
  have hrest : skipBlanks τ.cursor.rest = ':' :: s := h.rest.trans ht
  refine leads_of_token h.flowing hrest (solid_cons (by decide) (by decide) s) (List.cons_ne_nil _ _) ?_
  intro ρ υ hkept hρ hhere htoken
  have hdepth : ρ.candidates.length = depth := hkept.length_candidates.trans h.depth
  rw [← hdepth] at hflow
  have hin : ρ.inFlow = true := decide_eq_true hflow
  have hcolon : ρ.valueColon = .ok υ := by
    rw [← htoken]
    simp [token, hhere, atBorder, hin]
  obtain ⟨hυ, hnext, hlength, htokens⟩ :=
    valueColon_eq_ok hρ hflow (hkept.lastKey hkey) (hkept.tokens.trans h.tokens) hhere hcolon
  rcases htokens with htokens | htokens
  · exact ⟨[.key, x, .colon], ⟨hυ, hnext, hlength.trans hdepth, htokens⟩, .inl rfl⟩
  · exact ⟨[x, .colon], ⟨hυ, hnext, hlength.trans hdepth, htokens⟩, .inr rfl⟩

end Scan

end ClientForge.Yaml
